import Carousel.Proofs.Run.Course
import Carousel.Proofs.Session
import Carousel.Proofs.Solver
import Carousel.Solver

/-!
# Every solution consists of distinct candidates

Whatever the callbacks answer or raise, and wherever a fault ends a call: the lists that callbacks
see, that calls answer and that a solver remembers name no candidate twice, and a candidate to score
is not among the selected ones.  So no phase is ever refused a candidate that it adds.
-/

namespace Carousel

open Act (Ends ends_bind ends_get_bind)
open Stage (Fit)

variable {σ δ α β : Type} {n : Nat} {J : σ → Prop} {E : Fault → σ → Prop}

def Fault.isRefusal : Fault → Bool
  | .alreadySelected _ | .positionOutOfRange _ | .nothingChosen => true
  | _ => false

theorem Fault.not_isRefusal_of_isRanking {fault : Fault} (ranking : fault.isRanking = true) :
    fault.isRefusal = false := by
  cases fault with
  | alreadySelected _ | positionOutOfRange _ | nothingChosen => cases ranking
  | _ => rfl

theorem Fault.not_isRefusal_of_isSetting {fault : Fault} (setting : fault.isSetting = true) :
    fault.isRefusal = false := by
  cases fault with
  | alreadySelected _ | positionOutOfRange _ | nothingChosen => cases setting
  | _ => rfl

/-- The question shows the elements of distinct candidates, and a candidate to score that is not one
of them. -/
def Query.Distinct (u : Universe α n) : Query α → Prop
  | .feasible selected => ∃ positions : List (Fin n),
      positions.Nodup ∧ selected = u.elementsAt positions
  | .score selected candidate => ∃ (positions : List (Fin n)) (position : Fin n),
      positions.Nodup ∧ position ∉ positions ∧ selected = u.elementsAt positions ∧
        candidate = u.element position

def Reply.Distinct : Reply n → Prop
  | .positions found => found.Nodup
  | _ => True

def Call.IsAppend : Call δ → Prop
  | .append .. => True
  | _ => False

def Outcome.Ends {S : Type} (outcome : Outcome S β) (Q : β → S → Prop) (E : Fault → S → Prop) :
    Prop :=
  match outcome.answer with
  | .ok answer => Q answer outcome.after
  | .error fault => E fault outcome.after

structure Session.Fit (P : σ → Prop) (s : Session σ δ n) : Prop where
  caller : P s.solver.caller
  memory : s.solver.memory.Distinct
  runs : ∀ run ∈ s.runs, run.selection.Sound

namespace Problem

variable {problem : Problem σ δ α n}

theorem upholds_unrefused (problem : Problem σ δ α n) :
    problem.Upholds (fun _ => True) fun fault _ => fault.isRefusal = false where
  feasible view positions caller _ _ := by
    unfold Callback.Ends
    split
    · exact trivial
    · rfl
  score view positions position caller _ _ _ := by
    unfold Callback.Ends
    split
    · exact trivial
    · rfl
  ranking _ _ ranking _ := Fault.not_isRefusal_of_isRanking ranking

def ProperLog (problem : Problem σ δ α n) (logged : Logged σ α) : Prop :=
  ∀ query ∈ logged.log, query.Distinct problem.candidates

theorem ends_ask {callback : Callback σ β} {query : Query α} {logged : Logged σ α}
    (distinct : query.Distinct problem.candidates) (proper : problem.ProperLog logged) :
    (Logged.ask query callback).Ends logged problem.ProperLog fun _ => problem.ProperLog := by
  have later : ∀ q ∈ query :: logged.log, q.Distinct problem.candidates :=
    List.forall_mem_cons.2 ⟨distinct, proper⟩
  have performed : (Logged.ask query callback).perform logged =
      ((callback.perform logged.caller).1,
        { caller := (callback.perform logged.caller).2, log := query :: logged.log }) := rfl
  unfold Callback.Ends
  rw [performed]
  cases (callback.perform logged.caller).1 with
  | error raised => exact later
  | ok answer => exact later

theorem upholds_logged (problem : Problem σ δ α n) :
    problem.logged.Upholds problem.ProperLog fun _ => problem.ProperLog where
  feasible _ positions _ nodup := ends_ask ⟨positions, nodup, rfl⟩
  score _ positions position _ nodup fresh := ends_ask ⟨positions, position, nodup, fresh, rfl, rfl⟩
  ranking _ _ _ := id

/-- The log does not change what the callbacks answer. -/
theorem agrees_logged (problem : Problem σ δ α n) :
    problem.Agrees 0 (fun caller (logged : Logged σ α) => logged.caller = caller)
      problem.logged :=
  agrees_of_read rfl rfl (fun _ _ _ => ⟨rfl, rfl⟩) fun _ _ _ _ => ⟨rfl, rfl⟩

end Problem

namespace Session

variable {s : Session σ δ n} {problem : Problem σ δ α n}

theorem Fit.imp {P P' : σ → Prop} (fit : s.Fit P) (weaker : P s.solver.caller → P' s.solver.caller) :
    s.Fit P' :=
  { fit with caller := weaker fit.caller }

/-- A run on its own leaves a fit session, with an answer or with a fault. -/
theorem ends_onNewRun {run : Run n} {act : Act (Course σ n) (List (Fin n))} (fit : s.Fit J)
    (empty : run.selection.Sound)
    (ends : ∀ {course}, course.stage.run = run → course.Fit s.solver.memory J → act.Ends course
      (fun found after => after.Fit s.solver.memory J ∧ found.Nodup)
      fun fault => Course.Fit s.solver.memory (E fault))
    {active : Option Nat} :
    (s.ofOutcome (s.solver.onNewRun run act) .positions active).Ends
      (fun reply after => after.Fit J ∧ reply.Distinct) fun fault after => after.Fit (E fault) := by
  have start : Course.Fit s.solver.memory J
      { stage := s.solver.stage run, memory := s.solver.memory } :=
    ⟨⟨empty, fit.caller⟩, id⟩
  have ended := ends rfl start
  revert ended
  unfold Ends Outcome.Ends ofOutcome Solver.onNewRun
  rcases act.perform { stage := s.solver.stage run, memory := s.solver.memory } with
    ⟨_ | found, after⟩
  · exact fun kept => ⟨kept.stage.caller, kept.memory fit.memory, fit.runs⟩
  · rintro ⟨kept, nodup⟩
    exact ⟨⟨kept.stage.caller, kept.memory fit.memory, fit.runs⟩, nodup⟩

theorem fit_putRun {place : Fin s.runs.length} {stage : Stage σ n} {P : σ → Prop} (fit : s.Fit J)
    (kept : stage.Fit P) :
    { s.putRun place stage.run with solver := s.solver.absorb stage }.Fit P := by
  refine ⟨kept.caller, fit.memory, fun run member => ?_⟩
  -- The run is one of those that were there, or the one that was put in its place.
  rcases List.mem_or_eq_of_mem_set member with old | rfl
  · exact fit.runs run old
  · exact kept.sound

theorem not_isRefusal_of_locate {number : Int} {fault : Fault}
    (missing : s.locate number = .error fault) : fault.isRefusal = false := by
  unfold locate Index.locate at missing
  split at missing
  · cases missing
  · cases missing
    split <;> rfl

/-- An action on a run by hand leaves a fit session, with an answer or with a fault. -/
theorem ends_onRun {number : Int} {act : Front → Act (Stage σ n) (Reply n)} (fit : s.Fit J)
    (others : ∀ fault, fault.isRefusal = false → ∀ caller, J caller → E fault caller)
    (ends : ∀ front {t}, t.Fit J → (act front).Ends t
      (fun reply t => t.Fit J ∧ reply.Distinct) fun fault => Stage.Fit (E fault)) :
    (s.onRun number act).Ends (fun reply after => after.Fit J ∧ reply.Distinct)
      fun fault after => after.Fit (E fault) := by
  unfold onRun
  cases located : s.locate number with
  | error fault => exact fit.imp (others fault (not_isRefusal_of_locate located) _)
  | ok place =>
    have sound := fit.runs (s.runs.get place) (List.get_mem _ _)
    have ended := ends (s.front place) (t := s.solver.stage (s.runs.get place))
      ⟨sound, fit.caller⟩
    revert ended
    unfold Ends Outcome.Ends
    dsimp only
    rcases (act (s.front place)).perform (s.solver.stage (s.runs.get place)) with ⟨_ | _, after⟩
    · exact fun kept => fit_putRun fit kept
    · exact fun kept => ⟨fit_putRun fit kept.1, kept.2⟩

theorem not_isRefusal_of_draw {generator : Draw.Generator} {bound : Int} {fault : Fault}
    (refused : generator.draw bound = .error fault) : fault.isRefusal = false := by
  unfold Draw.Generator.draw at refused
  split at refused
  · cases refused
    rfl
  · split at refused <;> cases refused
    rfl

theorem upkeep_append (number : Int) :
    Stage.Upkeep J (fun _ => J) (append problem number : Act (Stage σ n) Unit) := by
  intro t fit
  unfold append
  rw [ends_get_bind]
  split
  · rename_i selection joined
    refine ⟨?_, fit.caller⟩
    unfold Selection.append at joined
    split at joined
    · exact fit.sound.add joined
    · cases joined
  · exact fit

theorem not_isRefusal_of_countOf {settings : Settings} {size : Nat} {fault : Fault}
    (uncounted : settings.countOf size = .error fault) : fault.isRefusal = false := by
  unfold Settings.countOf Settings.uncheckedCount at uncounted
  split at uncounted
  · cases uncounted
  split at uncounted
  · cases uncounted
  · cases uncounted
  · -- A floating-point product is an integer or one of the two values that are none.
    dsimp only [orFault] at uncounted
    split at uncounted
    · cases uncounted
    · obtain rfl := Except.error.inj uncounted
      split <;> rfl
  all_goals
    cases uncounted
    rfl

theorem ends_phaseAct {scene : Scene σ δ α n} (upholds : scene.problem.Upholds J E)
    (others : ∀ fault, fault.isRefusal = false → ∀ caller, J caller → E fault caller)
    (phase : PhaseCall) {t : Stage σ n} (fit : t.Fit J) :
    (phaseAct scene phase).Ends t (fun reply t => t.Fit J ∧ reply.Distinct)
      fun fault => Stage.Fit (E fault) := by
  cases phase with
  | construction =>
    refine ends_bind.2 ((Scene.upkeep_construction upholds fit).imp ?_ fun _ _ => id)
    exact fun _ _ kept => ⟨kept, kept.sound.nodup⟩
  | removal =>
    refine ends_bind.2 (Scene.ends_removal fit fun fault uncounted => ?_)
    exact others fault (not_isRefusal_of_countOf uncounted) _ fit.caller
  | iterative rounds =>
    refine ends_bind.2 ((Scene.upkeep_iterative upholds rounds fit).imp ?_ fun _ _ => id)
    exact fun _ _ kept => ⟨kept, trivial⟩
  | completion =>
    refine ends_bind.2 ((Scene.upkeep_completion upholds fit).imp ?_ fun _ _ => id)
    exact fun _ _ kept => ⟨kept, trivial⟩

/-- One call leaves a fit session, with an answer or with a fault. -/
theorem ends_perform (upholds : problem.Upholds J E)
    (others : ∀ fault, fault.isRefusal = false → ∀ caller, J caller → E fault caller)
    {call : Call δ} (appends : call.IsAppend → ∀ fault caller, J caller → E fault caller)
    (fit : s.Fit J) :
    (s.perform problem call).Ends (fun reply after => after.Fit J ∧ reply.Distinct)
      fun fault after => after.Fit (E fault) := by
  have setting {fields : Fields} {fault : Fault}
      (refused : s.solver.config.override fields = .error fault) : s.Fit (E fault) :=
    fit.imp (others fault (Fault.not_isRefusal_of_isSetting
      (Config.isSetting_of_override refused)) _)
  cases call with
  | construct direction =>
    exact ends_onNewRun fit Selection.sound_empty fun _ fit => Scene.ends_greedyRun upholds fit
  | optimize direction alpha beta =>
    simp only [perform]
    split
    · exact setting ‹_›
    · exact ends_onNewRun fit Selection.sound_empty fun begun fit =>
        Scene.ends_fullRun upholds (congrArg Run.config begun) fit
  | reseed seed =>
    simp only [perform, Solver.reseed]
    split
    · exact setting ‹_›
    · exact ⟨⟨fit.caller, fit.memory, fit.runs⟩, trivial⟩
  | draw bound =>
    simp only [perform, Solver.draw]
    split
    · exact fit.imp (others _ (not_isRefusal_of_draw ‹_›) _)
    · exact ⟨⟨fit.caller, fit.memory, fit.runs⟩, trivial⟩
  | setData data => exact ⟨⟨fit.caller, fit.memory, fit.runs⟩, trivial⟩
  | newRun direction settings =>
    refine ⟨⟨fit.caller, fit.memory, fun run member => ?_⟩, trivial⟩
    rcases List.mem_append.1 member with old | new
    · exact fit.runs run old
    · exact List.mem_singleton.1 new ▸ Selection.sound_empty
  | append number positions =>
    simp only [perform]
    refine ends_onRun fit others fun _ stage fit => ?_
    have appended : Stage.Upkeep J (fun _ => J) (positions.forM (append problem) : Act (Stage σ n) _) :=
      fun _ fit => Act.ends_forM (fun position _ _ fit => upkeep_append position fit) fit
    -- A refusal in the middle of the list keeps what has been appended before it.
    refine ends_bind.2 ((appended fit).imp (fun _ _ kept => ⟨kept, trivial⟩) fun fault _ kept => ?_)
    exact ⟨kept.sound, appends trivial fault _ kept.caller⟩
  | setDirection number direction =>
    simp only [perform]
    refine ends_onRun fit others fun _ _ fit => ?_
    exact ⟨⟨fit.sound, fit.caller⟩, trivial⟩
  | phase number phase =>
    exact ends_onRun fit others fun front _ => ends_phaseAct upholds others phase

/-- A session stays fit, and all its answers are free of repetitions. -/
theorem fit_performAll (upholds : problem.Upholds J fun _ => J) (fit : s.Fit J)
    (calls : List (Call δ)) :
    (∀ reply, .ok reply ∈ (s.performAll problem calls).1 → reply.Distinct) ∧
      (s.performAll problem calls).2.Fit J := by
  induction calls generalizing s with
  | nil => exact ⟨fun _ member => absurd member List.not_mem_nil, fit⟩
  | cons call rest ih =>
    have ended : (s.perform problem call).Ends (fun reply after => after.Fit J ∧ reply.Distinct)
        fun _ after => after.Fit J :=
      ends_perform upholds (fun _ _ _ => id) (fun _ _ _ => id) fit
    unfold Outcome.Ends at ended
    simp only [performAll]
    -- The rest starts from a fit session after an answer and after a fault.
    cases answered : (s.perform problem call).answer with
    | error fault =>
      rw [answered] at ended
      obtain ⟨replies, last⟩ := ih ended
      exact ⟨fun reply member => replies reply (by simpa using member), last⟩
    | ok first =>
      rw [answered] at ended
      obtain ⟨replies, last⟩ := ih ended.1
      refine ⟨fun reply member => ?_, last⟩
      rcases List.mem_cons.1 member with same | later
      · exact Except.ok.inj same ▸ ended.2
      · exact replies reply later

/-- A phase is never refused a candidate that it adds. -/
theorem not_isRefusal_of_perform (sound : ∀ run ∈ s.runs, run.selection.Sound)
    (memory : s.solver.memory.Distinct) {call : Call δ} (own : ¬ call.IsAppend) {fault : Fault}
    (failed : (s.perform problem call).answer = .error fault) : fault.isRefusal = false := by
  have ended : (s.perform problem call).Ends _ fun fault after =>
      after.Fit fun _ => fault.isRefusal = false :=
    ends_perform problem.upholds_unrefused (fun _ unrefused _ _ => unrefused)
      (fun append => absurd append own) ⟨trivial, memory, sound⟩
  unfold Outcome.Ends at ended
  rw [failed] at ended
  exact ended.caller

theorem fit_reached (problem : Problem σ δ α n) (config : Config) (data : δ) (caller : σ)
    (calls : List (Call δ)) : (reached problem config data caller calls).Fit fun _ => True := by
  have fresh : Fit (fun _ => True) ({ solver := .fresh config data caller } : Session σ δ n) :=
    ⟨trivial, Memory.distinct_empty, fun _ member => absurd member List.not_mem_nil⟩
  exact (fit_performAll (problem.upholds_unrefused.imp fun _ _ _ => trivial) fresh calls).2

end Session

/-! ## Main result -/

/-- The working selection that a run of its own leaves behind, however it ends. -/
def Solver.leftover (solver : Solver σ δ n) (run : Run n) (act : Act (Course σ n) β) :
    Selection n :=
  (act.perform { stage := solver.stage run, memory := solver.memory }).2.stage.run.selection

namespace Session

variable {s : Session σ δ n} {problem : Problem σ δ α n}

def questions (problem : Problem σ δ α n) (config : Config) (data : δ) (caller : σ)
    (calls : List (Call δ)) : List (Query α) :=
  (reached problem.logged config data { caller } calls).solver.caller.log

/-- For every sequence of calls on a new solver, with any callbacks: all questions, all lists that
are answered or remembered, and all working selections, also those that runs leave behind, consist of
distinct candidates, and no selected candidate is scored.  So no call but an append by hand is ever
refused a candidate. -/
theorem distinct_of_performAll (problem : Problem σ δ α n) (config : Config) (data : δ) (caller : σ)
    (calls : List (Call δ)) :
    (∀ query ∈ questions problem config data caller calls, query.Distinct problem.candidates) ∧
      (reached problem.logged config data { caller } calls).through Logged.caller =
        reached problem config data caller calls ∧
      (∀ reply, .ok reply ∈
          (performAll problem { solver := .fresh config data caller } calls).1 → reply.Distinct) ∧
      (reached problem config data caller calls).solver.memory.Distinct ∧
      (∀ run ∈ (reached problem config data caller calls).runs, run.selection.Sound) ∧
      (∀ direction config', let solver := (reached problem config data caller calls).solver
        (solver.leftover (.fresh direction config'.toSettings)
            ((solver.scene problem .itself).greedyRun direction)).Sound ∧
          (solver.leftover (.fresh direction config'.toSettings)
            ((solver.scene problem .itself).fullRun config' direction)).Sound) ∧
      ∀ call, ¬ call.IsAppend → ∀ fault,
        ((reached problem config data caller calls).perform problem call).answer = .error fault →
          fault.isRefusal = false := by
  have fresh : Session.Fit problem.ProperLog
      ({ solver := .fresh config data { caller } } : Session (Logged σ α) δ n) :=
    ⟨fun _ member => absurd member List.not_mem_nil, Memory.distinct_empty,
      fun _ member => absurd member List.not_mem_nil⟩
  obtain ⟨replies, fit⟩ := fit_performAll problem.upholds_logged fresh calls
  -- The log only listens, so the logged session takes the same course as the one that is asked about.
  have same : (reached problem.logged config data { caller } calls).through Logged.caller =
      reached problem config data caller calls :=
    (performAll_through problem.agrees_logged.unison _ calls).2
  have answers : (performAll problem.logged { solver := .fresh config data { caller } } calls).1 =
      (performAll problem { solver := .fresh config data caller } calls).1 :=
    (performAll_through problem.agrees_logged.unison _ calls).1
  have memory : (reached problem config data caller calls).solver.memory.Distinct :=
    same ▸ fit.memory
  have runs : ∀ run ∈ (reached problem config data caller calls).runs, run.selection.Sound :=
    same ▸ fit.runs
  refine ⟨fit.caller, same, answers ▸ replies, memory, runs, fun direction config' => ?_,
    fun call own fault => not_isRefusal_of_perform runs memory own⟩
  intro solver
  -- No session holds what a whole run leaves behind, so its selection is followed from the start.
  have begun : Course.Fit solver.memory (fun _ => True)
      { stage := solver.stage (.fresh direction config'.toSettings), memory := solver.memory } :=
    ⟨⟨Selection.sound_empty, trivial⟩, id⟩
  constructor
  · exact ((Scene.ends_greedyRun problem.upholds_unrefused begun).imp
      (fun _ _ kept => kept.1.stage.sound) fun _ _ kept => kept.stage.sound).after
  · exact ((Scene.ends_fullRun problem.upholds_unrefused rfl begun).imp
      (fun _ _ kept => kept.1.stage.sound) fun _ _ kept => kept.stage.sound).after

def brittleCalls : List (Call Unit) :=
  [.construct .minimize, .optimize .maximize .absent .absent,
    .newRun .maximize (some { (default : Config).toSettings with beta := .text "half" }),
    .phase 0 (.iterative 3)]

/-- Two runs that fail, and a phase by hand under settings that are out of order, lead to nineteen
questions. -/
theorem distinct_of_brittle_numbers :
    (questions .brittle default () () brittleCalls).length = 19 ∧
      (∀ query ∈ questions .brittle default () () brittleCalls,
        query.Distinct Problem.brittle.candidates) ∧
      (∀ run ∈ (reached .brittle default () () brittleCalls).runs, run.selection.Sound) ∧
      ∀ fault, ((reached .brittle default () () brittleCalls).perform .brittle
          (.construct .minimize)).answer = .error fault → fault.isRefusal = false := by
  obtain ⟨log, _, _, _, runs, _, unrefused⟩ :=
    distinct_of_performAll Problem.brittle default () () brittleCalls
  exact ⟨by decide +kernel, log, runs, unrefused (.construct .minimize) id⟩

end Session

end Carousel
