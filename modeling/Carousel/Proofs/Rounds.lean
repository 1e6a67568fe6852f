import Carousel.Proofs.Membership

/-!
# The count of rounds

The iterative phase never runs out of candidates, so it ends early only by a fault that comes from the
caller.  No other phase counts rounds.  What a full run reports is therefore its multiplier times the
size of its greedy solution, and the solver has counted the rounds of all its runs.
-/

namespace Carousel

open Act (Completes Fails fails_bind completes_bind completes_bind_pure completes_get_bind ends_bind)
open Stage (Still)
open Scene (Rotates Passage asks_isFeasible)

variable {σ δ α β : Type} {n : Nat}

namespace Stage

/-- Some rounds were counted, for the run and for the solver. -/
structure Counted (count : Nat) (s t : Stage σ n) : Prop where
  rounds : t.run.rounds = s.run.rounds + count
  iteration : t.iteration = s.iteration + count

variable {s m t : Stage σ n}

theorem Counted.trans {first second : Nat} (one : Counted first s m) (two : Counted second m t) :
    Counted (first + second) s t := by
  have := one.rounds
  have := one.iteration
  have := two.rounds
  have := two.iteration
  constructor <;> omega

theorem Still.counted (still : Still s t) : Counted 0 s t := ⟨still.rounds, still.iteration⟩

end Stage

open Stage (Counted)

namespace Scene

variable {scene : Scene σ δ α n} {s m t : Stage σ n} {rounds : Nat}

/-! ## Rounds of the phases -/

theorem counted_of_construction {answer : Unit} (sound : s.run.selection.Sound)
    (completed : scene.construction.Completes s answer t) : Counted 0 s t := by
  obtain ⟨flag, m, grows, rfl⟩ := grows_of_construction sound completed
  have grown := grows.grown asks_isConstructed asks_selectRemaining sound
  exact ⟨grown.rounds, grown.iteration⟩

theorem counted_of_removal {removed : List (Fin n)}
    (completed : scene.removal.Completes s removed t) : Counted 0 s t := by
  obtain ⟨_, _, _, rfl⟩ := completes_removal.1 completed
  exact ⟨rfl, rfl⟩

theorem counted_of_iterative {count : Nat} (sound : s.run.selection.Sound)
    (completed : (scene.iterative rounds).Completes s count t) : Counted rounds s t := by
  obtain ⟨_, joining, m, rotates, rfl⟩ :=
    rotates_of_iterative scene.problem.candidates.nonempty sound completed
  have rotated := rotates.rotated sound
  exact ⟨congrArg (· + rounds) rotated.rounds_eq, rotated.iteration⟩

theorem counted_of_completion {flag : Bool} (sound : s.run.selection.Sound)
    (completed : scene.completion.Completes s flag t) : Counted 0 s t := by
  cases direction : s.run.direction with
  | minimize =>
    obtain ⟨m, grows, rfl⟩ := grows_of_completion_minimize direction sound completed
    have grown := grows.grown asks_isRepaired asks_selectRemaining sound
    exact ⟨grown.rounds, grown.iteration⟩
  | maximize =>
    obtain ⟨_, m, grows, rfl⟩ := grows_of_completion_maximize direction sound completed
    have grown := grows.grown (asks_pure _) asks_selectFitting sound
    exact ⟨grown.rounds, grown.iteration⟩

theorem counted_of_greedy {direction : Direction} {found : List (Fin n)}
    (sound : s.run.selection.Sound) (completed : (scene.greedy direction).Completes s found t) :
    Counted 0 s t := by
  cases direction with
  | minimize => exact counted_of_construction sound (completes_greedy_minimize.1 completed).1
  | maximize =>
    -- Neither the turns of the direction nor the two constructions count a round.
    obtain ⟨m, first, second, _⟩ := completes_greedy_maximize.1 completed
    have between := (past_of_construction (by exact sound) first).sound
    have small := counted_of_construction (by exact sound) first
    have large := counted_of_construction (by exact between) second
    have counted := small.trans (m := m) ⟨large.rounds, large.iteration⟩
    exact ⟨counted.rounds, counted.iteration⟩

namespace Passage

variable {config : Config} {direction : Direction} {start : Stage σ n}

/-- A full run counts its multiplier times the size of its greedy solution. -/
theorem counted_checked (p : Passage scene config direction start)
    (headed : start.run.direction = direction) (sound : start.run.selection.Sound) :
    Counted (config.alpha * p.greedy.length) start p.checked := by
  have trimmed := p.past_trimmed headed sound
  have rotated := p.past_rotated headed sound
  have iterative := counted_of_iterative trimmed.sound p.iterative
  have counted := ((counted_of_greedy sound p.construction).trans
    (counted_of_removal p.removal)).trans iterative
  have checked := (asks_isFeasible _ p.check).toStill.counted
  simpa using (counted.trans (counted_of_completion rotated.sound p.completion)).trans checked

end Passage

end Scene

/-! ## Why the iterative phase ends -/

/-- The fault comes from the caller: a callback can raise it, or it is one of scores that cannot be
ranked. -/
inductive Problem.Causes (problem : Problem σ δ α n) : Fault → Prop where
  | untested {view : View δ} {selected : List α} {caller after : σ} {raised : Raised}
      (raises : (problem.feasible view selected).perform caller = (.error raised, after)) :
      problem.Causes (.raised raised)
  | unscored {view : View δ} {selected : List α} {candidate : α} {caller after : σ}
      {raised : Raised}
      (raises : (problem.score view selected candidate).perform caller = (.error raised, after)) :
      problem.Causes (.raised raised)
  | unranked {fault : Fault} (ranking : fault.isRanking = true) : problem.Causes fault

theorem Problem.upholds_causes (problem : Problem σ δ α n) :
    problem.Upholds (fun _ => True) fun fault _ => problem.Causes fault where
  feasible view positions caller _ _ := by
    unfold Callback.Ends
    split
    · exact trivial
    · exact .untested ‹_›
  score view positions position caller _ _ _ := by
    unfold Callback.Ends
    split
    · exact trivial
    · exact .unscored ‹_›
  ranking _ _ ranking _ := .unranked ranking

namespace Scene

/-- The iterative phase carries out all its rounds, or else the caller has caused a fault in one of
them. -/
theorem iterative_ends (scene : Scene σ δ α n) {s : Stage σ n} (sound : s.run.selection.Sound)
    (rounds : Nat) :
    (∃ t, (scene.iterative rounds).Completes s rounds t ∧ Counted rounds s t ∧
        ∃ joining m, Rotates scene rounds s joining m ∧
          t = scene.noted (recordOf .iterative s.run m.run rounds)
            { m with run := { m.run with rounds := m.run.rounds + rounds } }) ∨
      ∃ fault t, (scene.iterative rounds).Fails s fault t ∧ scene.problem.Causes fault ∧
        ∃ done joining m, done < rounds ∧ Rotates scene done s joining m ∧
          scene.round.Fails m fault t := by
  rcases Act.completes_or_fails (scene.iterative rounds) s with
    ⟨count, t, completed⟩ | ⟨fault, t, failed⟩
  · have counted := counted_of_iterative sound completed
    obtain ⟨rfl, rotated⟩ :=
      rotates_of_iterative scene.problem.candidates.nonempty sound completed
    exact .inl ⟨t, completed, counted, rotated⟩
  · have caused := (upkeep_iterative scene.problem.upholds_causes rounds ⟨sound, trivial⟩).of_fails
      failed
    -- A record is never at fault, and what follows the rounds only counts them.
    rcases fails_bind.1 (fails_recorded.1 failed) with rotating | ⟨begun, m, _, noting⟩
    · exact .inr ⟨fault, t, failed, caused.caller,
        fails_rotate scene.problem.candidates.nonempty sound rotating⟩
    · rcases fails_bind.1 noting with impossible | ⟨_, _, _, impossible⟩
      · exact absurd impossible Act.not_fails_modify
      · exact absurd impossible Act.not_fails_pure

end Scene

/-! ## The count of a solver -/

namespace Solver

variable {solver : Solver σ δ n} {problem : Problem σ δ α n} {direction : Direction}
  {alpha beta : Value} {best : List (Fin n)}

theorem rounds_of_optimize
    (completed : (solver.optimize problem direction alpha beta).answer = .ok best) :
    ∃ config report, solver.callConfig alpha beta = .ok config ∧
      (solver.optimize problem direction alpha beta).after.Recalls report ∧
      report.alpha = config.alpha ∧ report.rounds = report.alpha * report.greedy.length ∧
      (solver.optimize problem direction alpha beta).after.iteration =
        solver.iteration + report.rounds := by
  obtain ⟨config, overridden, p, _, outcome⟩ := passage_of_optimize completed
  have sound : (solver.start direction config).run.selection.Sound := sound_start config
  have counted := p.counted_checked rfl sound
  have rounds : p.report.rounds = p.report.alpha * p.report.greedy.length :=
    counted.rounds.trans (Nat.zero_add _)
  refine ⟨config, p.report, overridden, ?_, rfl, rounds, ?_⟩
  · rw [outcome]
    exact recalls_of_passage p
  · rw [outcome, rounds]
    exact counted.iteration

theorem iteration_construct {found : List (Fin n)}
    (completed : (solver.construct problem direction).answer = .ok found) :
    (solver.construct problem direction).after.iteration = solver.iteration := by
  obtain ⟨course, ended⟩ := completes_of_onNewRun completed
  obtain ⟨stage, constructed, rfl⟩ := Scene.completes_greedyRun.1 ended
  unfold construct
  rw [onNewRun_of_completes ended]
  exact (Scene.counted_of_greedy (by exact Selection.sound_empty) constructed).iteration

end Solver

def PhaseCall.rounds : PhaseCall → Nat
  | .iterative rounds => rounds
  | _ => 0

namespace Session

variable {s : Session σ δ n} {problem : Problem σ δ α n}

/-- The rounds that a call is to carry out: for a full run the product of its multiplier and the size
of its greedy solution, for a phase by hand what it is asked for. -/
def dueRounds (problem : Problem σ δ α n) (s : Session σ δ n) : Call δ → Nat
  | .optimize direction alpha beta =>
    match (s.perform problem (.optimize direction alpha beta)).after.solver.memory.report with
    | some report => report.alpha * report.greedy.length
    | none => 0
  | .phase _ phase => phase.rounds
  | _ => 0

/-- The rounds that several calls are to carry out. -/
def totalRounds (problem : Problem σ δ α n) (s : Session σ δ n) : List (Call δ) → Nat
  | [] => 0
  | call :: rest =>
    s.dueRounds problem call + (s.perform problem call).after.totalRounds problem rest

theorem iteration_onRun {number : Int} {act : Front → Act (Stage σ n) (Reply n)} {count : Nat}
    {reply : Reply n} (sound : ∀ run ∈ s.runs, run.selection.Sound)
    (counts : ∀ front {t u : Stage σ n} {reply}, t.run.selection.Sound →
      (act front).Completes t reply u → Counted count t u)
    (completed : (s.onRun number act).answer = .ok reply) :
    (s.onRun number act).after.solver.iteration = s.solver.iteration + count := by
  unfold onRun at completed ⊢
  cases located : s.locate number with
  | error fault =>
    rw [located] at completed
    cases completed
  | ok place =>
    rw [located] at completed
    have performed : (act (s.front place)).Completes (s.solver.stage (s.runs.get place)) reply _ :=
      Act.completes_of_fst completed
    exact (counts _ (sound _ (List.get_mem _ _)) performed).iteration

/-- Candidates that are appended by hand are no rounds. -/
theorem ends_append (positions : List Int) (t : Stage σ n) :
    (positions.forM (append problem) : Act (Stage σ n) Unit).Ends t (fun _ => Counted 0 t)
      fun _ _ => True := by
  refine Act.ends_forM (fun position _ u counted => ?_) ⟨rfl, rfl⟩
  unfold append
  rw [Act.ends_get_bind]
  split
  · exact ⟨counted.rounds, counted.iteration⟩
  · exact trivial

theorem counted_phaseAct {scene : Scene σ δ α n} {phase : PhaseCall} {t u : Stage σ n}
    {reply : Reply n} (sound : t.run.selection.Sound)
    (completed : (phaseAct scene phase).Completes t reply u) :
    Counted phase.rounds t u := by
  cases phase with
  | construction =>
    obtain ⟨_, m, constructed, finished⟩ := completes_bind.1 completed
    rw [completes_get_bind] at finished
    obtain ⟨_, rfl⟩ := Act.completes_pure.1 finished
    exact Scene.counted_of_construction sound constructed
  | removal =>
    obtain ⟨_, removed, _⟩ := completes_bind_pure.1 completed
    exact Scene.counted_of_removal removed
  | iterative rounds =>
    obtain ⟨_, rotated, _⟩ := completes_bind_pure.1 completed
    exact Scene.counted_of_iterative sound rotated
  | completion =>
    obtain ⟨_, repaired, _⟩ := completes_bind_pure.1 completed
    exact Scene.counted_of_completion sound repaired

/-- A call that completes carries out the rounds that it is to carry out. -/
theorem iteration_perform {call : Call δ} {reply : Reply n}
    (sound : ∀ run ∈ s.runs, run.selection.Sound)
    (completed : (s.perform problem call).answer = .ok reply) :
    (s.perform problem call).after.solver.iteration =
      s.solver.iteration + s.dueRounds problem call := by
  -- Only a full run and the iterative phase by hand move the counter.
  cases call with
  | construct direction =>
    obtain ⟨found, constructed, _⟩ := map_eq_ok.1 completed
    exact Solver.iteration_construct constructed
  | optimize direction alpha beta =>
    obtain ⟨same, after, _⟩ := s.perform_optimize
    rw [same] at completed
    obtain ⟨best, optimized, _⟩ := map_eq_ok.1 completed
    obtain ⟨config, report, _, recalls, _, rounds, counted⟩ := Solver.rounds_of_optimize optimized
    simp only [dueRounds, after, recalls.report, ← rounds]
    exact counted
  | reseed seed =>
    simp only [perform, Solver.reseed]
    split <;> rfl
  | draw bound =>
    simp only [perform, Solver.draw]
    split <;> rfl
  | setData data => rfl
  | newRun direction settings => rfl
  | append number positions =>
    simp only [perform] at completed ⊢
    refine iteration_onRun sound (fun _ t u _ _ appended => ?_) completed
    obtain ⟨_, each, _⟩ := completes_bind_pure.1 appended
    exact (ends_append positions t).of_completes each
  | setDirection number direction =>
    simp only [perform] at completed ⊢
    refine iteration_onRun sound (fun _ t u _ _ turned => ?_) completed
    obtain ⟨_, changed, _⟩ := completes_bind_pure.1 turned
    rw [Scene.completes_update.1 changed]
    exact ⟨rfl, rfl⟩
  | phase number phase =>
    exact iteration_onRun sound (fun _ _ _ _ => counted_phaseAct) completed

theorem iteration_performAll {calls : List (Call δ)} (fit : s.Fit fun _ => True)
    (completed : ∀ fault, .error fault ∉ (s.performAll problem calls).1) :
    (s.performAll problem calls).2.solver.iteration =
      s.solver.iteration + s.totalRounds problem calls := by
  induction calls generalizing s with
  | nil => rfl
  | cons call rest ih =>
    -- The next call starts from sound selections, whatever this one answers.
    have next : (s.perform problem call).after.Fit fun _ => True :=
      (fit_performAll (problem.upholds_causes.imp fun _ _ _ => trivial) fit [call]).2
    cases answered : (s.perform problem call).answer with
    | error fault => exact absurd (answered ▸ .head _) (completed fault)
    | ok reply =>
      have first := iteration_perform fit.runs answered
      have later := ih next fun fault member => completed fault (.tail _ member)
      show ((s.perform problem call).after.performAll problem rest).2.solver.iteration = _
      rw [later, first, totalRounds, Nat.add_assoc]

/-! ## Main result -/

/-- From every sound stage the iterative phase carries out exactly the rounds that it is asked for, one
after the other, counts them for the run and for the solver, and always has a candidate to choose, unless a
fault of the caller ends it within a round.  So a completed full run reports its multiplier times the size of
its greedy solution, and after completed calls a new solver has counted just these products and the
rounds of phases by hand. -/
theorem rounds_never_cut_short (problem : Problem σ δ α n) :
    (∀ (scene : Scene σ δ α n) (s : Stage σ n), s.run.selection.Sound →
      (∀ t, ¬ scene.round.Completes s false t) ∧
      ∀ rounds,
        (∃ t, (scene.iterative rounds).Completes s rounds t ∧ Counted rounds s t ∧
            ∃ joining m, Rotates scene rounds s joining m ∧
              t = scene.noted (Scene.recordOf .iterative s.run m.run rounds)
                { m with run := { m.run with rounds := m.run.rounds + rounds } }) ∨
          ∃ fault t, (scene.iterative rounds).Fails s fault t ∧ scene.problem.Causes fault ∧
            ∃ done joining m, done < rounds ∧ Rotates scene done s joining m ∧
              scene.round.Fails m fault t) ∧
    (∀ (solver : Solver σ δ n) direction alpha beta best,
      (solver.optimize problem direction alpha beta).answer = .ok best →
        ∃ config report, solver.callConfig alpha beta = .ok config ∧
          (solver.optimize problem direction alpha beta).after.Recalls report ∧
          report.alpha = config.alpha ∧ report.rounds = report.alpha * report.greedy.length ∧
          (solver.optimize problem direction alpha beta).after.iteration =
            solver.iteration + report.rounds) ∧
    ∀ config data caller calls,
      (∀ fault, .error fault ∉
        (performAll problem { solver := .fresh config data caller } calls).1) →
      (reached problem config data caller calls).solver.iteration =
        totalRounds problem { solver := .fresh config data caller } calls := by
  refine ⟨fun scene s sound => ⟨fun t went => ?_, scene.iterative_ends sound⟩,
    fun solver direction alpha beta best => Solver.rounds_of_optimize,
    fun config data caller calls completed => ?_⟩
  · cases (Scene.rotates_of_round scene.problem.candidates.nonempty sound went).1
  · have fresh : Fit (fun _ => True) ({ solver := .fresh config data caller } : Session σ δ n) :=
      ⟨trivial, Memory.distinct_empty, fun _ member => absurd member List.not_mem_nil⟩
    have counted := iteration_performAll fresh completed
    exact counted.trans (Nat.zero_add _)

def threeCalls : List (Call Unit) :=
  [.optimize .minimize (.int 3) .absent, .construct .maximize, .optimize .maximize .absent .absent]

/-- The first call carries out three rounds for each of two numbers, the second none, and the third one
for each of two. -/
theorem eight_rounds_of_three_calls :
    let problem : Problem Unit Unit Nat 2 := .ofTable 1 (fun selected => selected.length == 2) []
    totalRounds problem { solver := .fresh default () () } threeCalls = 8 ∧
      (reached problem default () () threeCalls).solver.iteration = 8 ∧
      (∃ report, ((Solver.plain 2).optimize problem .minimize (.int 3) .absent).after.Recalls
        report ∧ report.rounds = report.alpha * report.greedy.length) ∧
      ∀ t, ¬ ((Solver.plain 2).scene problem .itself).round.Completes
        ((Solver.plain 2).start .maximize default) false t := by
  intro problem
  obtain ⟨phase, run, session⟩ := rounds_never_cut_short problem
  have total : totalRounds problem { solver := .fresh default () () } threeCalls = 8 := by
    decide +kernel
  have completed : (performAll problem { solver := .fresh default () () } threeCalls).1.all
      (·.toOption.isSome) = true := by decide +kernel
  have optimized : ((Solver.plain 2).optimize problem .minimize (.int 3) .absent).answer =
      .ok [0, 1] := eq_ok_of_toOption (by decide +kernel)
  obtain ⟨_, report, _, recalls, _, rounds, _⟩ := run _ _ _ _ _ optimized
  refine ⟨total, ?_, ⟨report, recalls, rounds⟩, (phase _ _ (Solver.sound_start default)).1⟩
  rw [session default () () threeCalls, total]
  intro fault member
  cases List.all_eq_true.1 completed _ member

end Session

end Carousel
