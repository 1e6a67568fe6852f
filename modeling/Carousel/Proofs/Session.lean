import Carousel.Proofs.Run.Unison
import Carousel.Session

/-!
# Sessions in unison

With problems that are in unison, alike solvers answer the same calls alike and stay alike.  Whole
calls are answered by the solver alone; phases by hand also go by the runs of the session and by the
active one.
-/

namespace Carousel

open Act (Lockstep)

variable {σ τ δ α α' β : Type} {n offset : Nat} {F : Fault → Fault → Prop} {K : σ → τ → Prop}
  {old : Memory n}

attribute [ext] Outcome

structure Outcome.Alike {S T : Type} (F : Fault → Fault → Prop) (R : S → T → Prop)
    (left : Outcome S β) (right : Outcome T β) : Prop where
  answer : Related F Eq left.answer right.answer
  after : R left.after right.after
  notices : left.notices = right.notices

/-- The solvers differ at most in the states of the callers, by a fixed number of rounds, and in what
was remembered before. -/
structure Solver.Alike (offset : Nat) (K : σ → τ → Prop) (old : Memory n) (left : Solver σ δ n)
    (right : Solver τ δ n) : Prop where
  config : left.config = right.config
  data : left.data = right.data
  generator : left.generator = right.generator
  caller : K left.caller right.caller
  iteration : left.iteration = offset + right.iteration
  memory : left.memory = right.memory.over old

def Call.IsWhole : Call δ → Prop
  | .construct .. | .optimize .. | .reseed _ | .draw _ | .setData _ => True
  | .newRun .. | .append .. | .setDirection .. | .phase .. => False

def Session.reached (problem : Problem σ δ α n) (config : Config) (data : δ) (caller : σ)
    (calls : List (Call δ)) : Session σ δ n :=
  (performAll problem { solver := .fresh config data caller } calls).2

/-- The solvers are alike; if `hands` holds, the runs by hand are the same. -/
structure Session.Alike (hands : Prop) (offset : Nat) (K : σ → τ → Prop) (old : Memory n)
    (left : Session σ δ n) (right : Session τ δ n) : Prop where
  solver : Solver.Alike offset K old left.solver right.solver
  runs : hands → left.runs = right.runs
  active : hands → left.active = right.active

namespace Solver.Alike

variable {left : Solver σ δ n} {right : Solver τ δ n} {problem : Problem σ δ α n}
  {problem' : Problem τ δ α' n}

theorem matched (alike : Solver.Alike offset K old left right)
    (unison : problem.Unison F offset K problem') (front : Front) :
    Scene.Matched F (Stage.Alike offset K) (left.scene problem front)
      (right.scene problem' front) := by
  unfold scene
  rw [alike.data, alike.config]
  exact unison _ _ front

theorem stage (alike : Solver.Alike offset K old left right) (run : Run n) :
    Stage.Alike offset K (left.stage run) (right.stage run) :=
  ⟨rfl, alike.iteration, alike.generator, rfl, alike.caller⟩

theorem absorb (alike : Solver.Alike offset K old left right) {s : Stage σ n} {t : Stage τ n}
    (stages : Stage.Alike offset K s t) :
    Solver.Alike offset K old (left.absorb s) (right.absorb t) :=
  { alike with
    iteration := stages.iteration
    generator := stages.generator
    caller := stages.caller }

theorem onNewRun (alike : Solver.Alike offset K old left right) (run : Run n)
    {act : Act (Course σ n) β} {act' : Act (Course τ n) β}
    (inner : Lockstep F (Course.Alike offset K old) act act') :
    Outcome.Alike F (Solver.Alike offset K old) (left.onNewRun run act)
      (right.onNewRun run act') := by
  have start : Course.Alike offset K old { stage := left.stage run, memory := left.memory }
      { stage := right.stage run, memory := right.memory } := ⟨alike.stage run, alike.memory⟩
  obtain ⟨same, after⟩ := inner start
  exact ⟨same, { alike.absorb after.stage with memory := after.memory }, after.stage.notices⟩

theorem construct (alike : Solver.Alike offset K old left right)
    (unison : problem.Unison F offset K problem') (direction : Direction) :
    Outcome.Alike F (Solver.Alike offset K old) (left.construct problem direction)
      (right.construct problem' direction) := by
  unfold Solver.construct
  rw [alike.config]
  exact alike.onNewRun _ (alike.matched unison .itself).lockstep_greedyRun

theorem optimizeWith (alike : Solver.Alike offset K old left right)
    (unison : problem.Unison F offset K problem') (direction : Direction) (config : Config) :
    Outcome.Alike F (Solver.Alike offset K old) (left.optimizeWith problem direction config)
      (right.optimizeWith problem' direction config) :=
  alike.onNewRun _ ((alike.matched unison .itself).lockstep_fullRun config)

end Solver.Alike

namespace Session.Alike

variable {hands : Prop} {left : Session σ δ n} {right : Session τ δ n}
  {problem : Problem σ δ α n} {problem' : Problem τ δ α' n}

theorem ofOutcome (alike : Session.Alike hands offset K old left right)
    {outcome : Outcome (Solver σ δ n) β} {outcome' : Outcome (Solver τ δ n) β}
    (outcomes : Outcome.Alike F (Solver.Alike offset K old) outcome outcome') (reply : β → Reply n)
    {active active' : Option Nat} (same : hands → active = active') :
    Outcome.Alike F (Session.Alike hands offset K old) (left.ofOutcome outcome reply active)
      (right.ofOutcome outcome' reply active') :=
  ⟨outcomes.answer.map reply, ⟨outcomes.after, alike.runs, same⟩, outcomes.notices⟩

theorem front_eq (alike : Session.Alike hands offset K old left right) (manual : hands)
    (number : Nat) : left.front number = right.front number := by
  simp only [front, activeRun?, alike.runs manual, alike.active manual]

theorem onRun (alike : Session.Alike hands offset K old left right) (manual : hands)
    (refl : ∀ fault, F fault fault) (number : Int)
    {act : Front → Act (Stage σ n) (Reply n)} {act' : Front → Act (Stage τ n) (Reply n)}
    (inner : ∀ front, Lockstep F (Stage.Alike offset K) (act front) (act' front)) :
    Outcome.Alike F (Session.Alike hands offset K old) (left.onRun number act)
      (right.onRun number act') := by
  obtain ⟨solver, runs, active⟩ := left
  obtain ⟨solver', runs', active'⟩ := right
  cases alike.runs manual
  cases alike.active manual
  simp only [Session.onRun, locate]
  -- With the same runs a number means the same run on both sides, or none on both.
  split
  · exact ⟨.of_eq refl rfl, alike, rfl⟩
  · rename_i place _
    obtain ⟨same, after⟩ := inner (front ⟨solver', runs, active⟩ place)
      (alike.solver.stage (runs.get place))
    rw [alike.front_eq manual]
    refine ⟨same, ⟨alike.solver.absorb after, fun _ => ?_, fun _ => rfl⟩, after.notices⟩
    exact congrArg (runs.set place) after.run

theorem phaseAct {left : Scene σ δ α n} {right : Scene τ δ α' n}
    (matched : Scene.Matched F (Stage.Alike offset K) left right) (phase : PhaseCall) :
    Lockstep F (Stage.Alike offset K) (Session.phaseAct left phase)
      (Session.phaseAct right phase) := by
  cases phase with
  | construction =>
    refine .bind matched.coupled.construction fun _ => .get_bind fun s t alike => ?_
    rw [alike.run]
    exact .pure _
  | removal => exact .bind matched.coupledThrough.removal fun _ => .pure _
  | iterative rounds => exact .bind (matched.coupledThrough.iterative rounds) fun _ => .pure _
  | completion => exact .bind matched.coupledThrough.completion fun _ => .pure _

theorem append {left : Scene σ δ α n} {right : Scene τ δ α' n}
    (matched : Scene.Matched F (Stage.Alike offset K) left right) (number : Int) :
    Lockstep F (Stage.Alike offset K) (Session.append left.problem number : Act (Stage σ n) Unit)
      (Session.append right.problem number : Act (Stage τ n) Unit) := by
  refine .get_bind fun s t alike => ?_
  rw [alike.run]
  split
  · exact Scene.Matched.lockstep_update _
  · rename_i refusal _
    cases refusal with
    | selected position => exact .throw (matched.label position)
    | outOfRange number => exact .throw (matched.refl _)

theorem reseed (alike : Session.Alike hands offset K old left right)
    (refl : ∀ fault, F fault fault) (seed : Value) :
    Outcome.Alike F (Session.Alike hands offset K old) (left.perform problem (.reseed seed))
      (right.perform problem' (.reseed seed)) := by
  refine alike.ofOutcome ?_ _ alike.active
  unfold Solver.reseed
  rw [alike.solver.config]
  split
  · exact ⟨.of_eq refl rfl, alike.solver, rfl⟩
  · exact ⟨.answered rfl, { alike.solver with config := rfl, generator := rfl }, rfl⟩

theorem draw (alike : Session.Alike hands offset K old left right)
    (refl : ∀ fault, F fault fault) (bound : Int) :
    Outcome.Alike F (Session.Alike hands offset K old) (left.perform problem (.draw bound))
      (right.perform problem' (.draw bound)) := by
  refine alike.ofOutcome ?_ _ alike.active
  unfold Solver.draw
  rw [alike.solver.generator]
  split
  · exact ⟨.of_eq refl rfl, alike.solver, rfl⟩
  · exact ⟨.answered rfl, { alike.solver with generator := rfl }, rfl⟩

theorem newRun (alike : Session.Alike hands offset K old left right) (manual : hands)
    (direction : Direction) (settings : Option Settings) :
    Outcome.Alike F (Session.Alike hands offset K old)
      (left.perform problem (.newRun direction settings))
      (right.perform problem' (.newRun direction settings)) := by
  simp only [Session.perform, alike.solver.config, alike.runs manual]
  exact ⟨.answered rfl, ⟨alike.solver, fun _ => rfl, fun _ => rfl⟩, rfl⟩

/-- Alike sessions carry out a call alike, if it is whole or they have the same runs by hand. -/
theorem perform (alike : Session.Alike hands offset K old left right)
    (unison : problem.Unison F offset K problem') {call : Call δ} (able : call.IsWhole ∨ hands) :
    Outcome.Alike F (Session.Alike hands offset K old) (left.perform problem call)
      (right.perform problem' call) := by
  have matched (front : Front) := alike.solver.matched unison front
  have refl := (matched .itself).refl
  cases call with
  | construct direction =>
    exact alike.ofOutcome (alike.solver.construct unison direction) _ fun _ => rfl
  | optimize direction alpha beta =>
    simp only [Session.perform, Solver.callConfig, alike.solver.config]
    split
    · exact ⟨.of_eq refl rfl, alike, rfl⟩
    · exact alike.ofOutcome (alike.solver.optimizeWith unison direction _) _ fun _ => rfl
  | reseed seed => exact alike.reseed refl seed
  | draw bound => exact alike.draw refl bound
  | setData data =>
    exact ⟨.answered rfl, { alike with solver := { alike.solver with data := rfl } }, rfl⟩
  | newRun direction settings => exact alike.newRun (able.resolve_left id) direction settings
  | append number positions =>
    simp only [Session.perform]
    refine alike.onRun (able.resolve_left id) refl number fun front => ?_
    exact .bind (.forM (append (matched front)) positions) fun _ => .pure _
  | setDirection number direction =>
    simp only [Session.perform]
    refine alike.onRun (able.resolve_left id) refl number fun _ => ?_
    exact .bind (Scene.Matched.lockstep_update _) fun _ => .pure _
  | phase number phase =>
    exact alike.onRun (able.resolve_left id) refl number fun front => phaseAct (matched front) phase

/-- Alike sessions give the same answers to the same calls, up to related faults, and stay alike. -/
theorem performAll (alike : Session.Alike hands offset K old left right)
    (unison : problem.Unison F offset K problem') {calls : List (Call δ)}
    (able : ∀ call ∈ calls, call.IsWhole ∨ hands) :
    List.Forall₂ (Related F Eq) (left.performAll problem calls).1 (right.performAll problem' calls).1 ∧
      Session.Alike hands offset K old (left.performAll problem calls).2
        (right.performAll problem' calls).2 := by
  induction calls generalizing left right with
  | nil => exact ⟨.nil, alike⟩
  | cons call rest ih =>
    have first := alike.perform unison (able call (.head _))
    obtain ⟨answers, last⟩ := ih first.after fun call member => able call (.tail _ member)
    exact ⟨.cons first.answer answers, last⟩

end Session.Alike

/-! ## Richer callers

A caller may keep more than its own callbacks need.  Without the rest, calls do the same. -/

/-- Callbacks that do the same to what `read` gives of the state of the caller agree. -/
theorem Problem.agrees_of_read {read : τ → σ} {problem : Problem σ δ α n}
    {problem' : Problem τ δ α n} (candidates : problem.candidates = problem'.candidates)
    (label : problem.label = problem'.label)
    (feasible : ∀ view selected rich,
      ((problem.feasible view selected).perform (read rich)).1 =
          ((problem'.feasible view selected).perform rich).1 ∧
        read ((problem'.feasible view selected).perform rich).2 =
          ((problem.feasible view selected).perform (read rich)).2)
    (score : ∀ view selected candidate rich,
      ((problem.score view selected candidate).perform (read rich)).1 =
          ((problem'.score view selected candidate).perform rich).1 ∧
        read ((problem'.score view selected candidate).perform rich).2 =
          ((problem.score view selected candidate).perform (read rich)).2) :
    problem.Agrees 0 (fun caller rich => read rich = caller) problem' where
  candidates := candidates
  label := label
  feasible := by
    rintro _ rich view selected rfl
    rw [Nat.zero_add]
    exact feasible view selected rich
  score := by
    rintro _ rich view selected candidate rfl
    rw [Nat.zero_add]
    exact score view selected candidate rich

namespace Session

variable {read : τ → σ} {problem : Problem σ δ α n} {problem' : Problem τ δ α n}

def through (read : τ → σ) (s : Session τ δ n) : Session σ δ n :=
  { s with solver := { s.solver with caller := read s.solver.caller } }

theorem alike_through (read : τ → σ) (s : Session τ δ n) :
    Session.Alike True 0 (fun caller rich => read rich = caller) {} (s.through read) s :=
  ⟨⟨rfl, rfl, rfl, rfl, (Nat.zero_add _).symm, s.solver.memory.over_empty.symm⟩, fun _ => rfl,
    fun _ => rfl⟩

/-- Alike sessions are the same up to what is not read of their callers. -/
theorem through_eq_through {κ : Type} {s : Session σ δ n} {t : Session τ δ n} {read : σ → κ}
    {read' : τ → κ} (alike : Session.Alike True 0 K {} s t)
    (same : read' t.solver.caller = read s.solver.caller) : t.through read' = s.through read := by
  obtain ⟨⟨config, data, generator, caller, iteration, memory⟩, runs, active⟩ := alike
  rw [Nat.zero_add] at iteration
  rw [Memory.over_empty] at memory
  dsimp only [through]
  rw [config, data, generator, same, iteration, memory, runs trivial, active trivial]

theorem through_eq_of_alike {s : Session σ δ n} {t : Session τ δ n}
    (alike : Session.Alike True 0 (fun caller rich => read rich = caller) {} s t) :
    t.through read = s := by
  show t.through read = s.through id
  exact through_eq_through alike alike.solver.caller

theorem perform_through
    (unison : problem.Unison Eq 0 (fun caller rich => read rich = caller) problem')
    (s : Session τ δ n) (call : Call δ) :
    (s.perform problem' call).answer = ((s.through read).perform problem call).answer ∧
      (s.perform problem' call).after.through read =
        ((s.through read).perform problem call).after ∧
      (s.perform problem' call).notices = ((s.through read).perform problem call).notices := by
  have able : call.IsWhole ∨ True := .inr trivial
  have alike := (alike_through read s).perform unison able
  exact ⟨alike.answer.eq.symm, through_eq_of_alike alike.after, alike.notices.symm⟩

theorem performAll_through
    (unison : problem.Unison Eq 0 (fun caller rich => read rich = caller) problem')
    (s : Session τ δ n) (calls : List (Call δ)) :
    (s.performAll problem' calls).1 = ((s.through read).performAll problem calls).1 ∧
      (s.performAll problem' calls).2.through read =
        ((s.through read).performAll problem calls).2 := by
  obtain ⟨answers, alike⟩ := (alike_through read s).performAll unison fun _ _ => .inr trivial
  have same := List.forall₂_eq_eq_eq ▸ answers.imp fun _ _ => Related.eq
  exact ⟨same.symm, through_eq_of_alike alike⟩

end Session

end Carousel
