import Carousel.Proofs.Run.Passage

/-!
# Full runs that a fault ends

A fault ends a full run while the greedy solution is constructed, while it is refined, or at the check
of the better solution.  What was found before the fault is remembered, and the report never is.
-/

namespace Carousel

open Act (Completes Fails completes_bind fails_bind)

variable {σ δ α β : Type} {n : Nat}

/-- What is remembered is replaced by what was found, and kept if nothing was found. -/
def Memory.Replaces (finds : List (Fin n) → Prop) (before after : Option (List (Fin n))) : Prop :=
  (∃ found, finds found ∧ after = some found) ∨ (¬ ∃ found, finds found) ∧ after = before

namespace Scene

variable {scene : Scene σ δ α n} {config : Config} {direction : Direction} {course after : Course σ n}
  {fault : Fault}

/-- The whole construction of a run, which is two constructions for a large solution, comes to its end
with this one. -/
def Constructs (scene : Scene σ δ α n) (direction : Direction) (start : Stage σ n)
    (greedy : List (Fin n)) : Prop :=
  ∃ constructed, (scene.greedy direction).Completes start greedy constructed

/-- The search of a full run comes to its end, with this refined solution, and then the fault arises
in the check of the better solution. -/
def BreaksCheck (scene : Scene σ δ α n) (config : Config) (direction : Direction)
    (course : Course σ n) (fault : Fault) (refined : List (Fin n)) : Prop :=
  ∃ greedy searched stage,
    (scene.search config direction).Completes course (greedy, refined) searched ∧
    (scene.isFeasible (better direction greedy refined)).Fails searched.stage fault stage

inductive Broken (scene : Scene σ δ α n) (config : Config) (direction : Direction)
    (course : Course σ n) (fault : Fault) : Course σ n → Prop where
  | constructing {stage : Stage σ n}
      (failed : (scene.greedy direction).Fails course.stage fault stage) :
      Broken scene config direction course fault { course with stage }
  | refining {greedy : List (Fin n)} {constructed : Course σ n} {stage : Stage σ n}
      (construction : (scene.greedyRun direction).Completes course greedy constructed)
      (failed : (scene.refine (config.alpha * greedy.length)).Fails constructed fault
        { constructed with stage }) :
      Broken scene config direction course fault { constructed with stage }
  | checking {greedy refined : List (Fin n)} {searched : Course σ n} {stage : Stage σ n}
      (search : (scene.search config direction).Completes course (greedy, refined) searched)
      (failed : (scene.isFeasible (better direction greedy refined)).Fails searched.stage fault
        stage) :
      Broken scene config direction course fault { searched with stage }

theorem not_fails_remember {change : Memory n → Memory n} :
    ¬ (remember change : Act (Course σ n) Unit).Fails course fault after := Act.not_fails_modify

theorem not_fails_warnUnless {feasible : Bool} {size : Nat} {s t : Stage σ n} :
    ¬ (warnUnless feasible direction size : Act (Stage σ n) Unit).Fails s fault t := by
  cases feasible with
  | true => exact Act.not_fails_pure
  | false => exact Act.not_fails_modify

theorem fails_greedyRun :
    (scene.greedyRun direction).Fails course fault after ↔
      ∃ stage, (scene.greedy direction).Fails course.stage fault stage ∧
        after = { course with stage } := by
  unfold greedyRun
  simp only [fails_bind, fails_onStage, not_fails_remember, Act.not_fails_pure, and_false,
    exists_false, or_false]

/-- A refinement that fails has found nothing to remember. -/
theorem memory_of_fails_refine {rounds : Nat}
    (failed : (scene.refine rounds).Fails course fault after) : after.memory = course.memory := by
  unfold refine at failed
  simp only [fails_bind, fails_onStage, completes_onStage, not_fails_remember, Act.not_fails_get,
    Act.not_fails_pure, and_false, exists_false, or_false] at failed
  -- One of the three phases failed, and the memory is written after the last of them.
  rcases failed with ⟨_, _, rfl⟩ | ⟨_, _, ⟨_, _, rfl⟩, ⟨_, _, rfl⟩ | ⟨_, _, ⟨_, _, rfl⟩, _, _, rfl⟩⟩
  · rfl
  · rfl
  · rfl

theorem fails_conclude {greedy refined : List (Fin n)} :
    (scene.conclude config direction greedy refined).Fails course fault after ↔
      ∃ stage, (scene.isFeasible (better direction greedy refined)).Fails course.stage fault stage ∧
        after = { course with stage } := by
  unfold conclude
  simp only [fails_bind, fails_onStage, not_fails_remember, not_fails_warnUnless,
    not_fails_announce, Act.not_fails_get, Act.not_fails_pure, and_false, false_and, exists_false,
    or_false]
  rfl

theorem completes_search {greedy refined : List (Fin n)} :
    (scene.search config direction).Completes course (greedy, refined) after ↔
      ∃ constructed, (scene.greedyRun direction).Completes course greedy constructed ∧
        (scene.refine (config.alpha * greedy.length)).Completes constructed refined after := by
  unfold search
  simp only [completes_bind, Act.completes_pure]
  constructor
  · rintro ⟨_, constructed, construction, _, _, refinement, equal, rfl⟩
    cases equal
    exact ⟨constructed, construction, refinement⟩
  · rintro ⟨constructed, construction, refinement⟩
    exact ⟨greedy, constructed, construction, refined, after, refinement, rfl, rfl⟩

theorem broken_of_fullRun (failed : (scene.fullRun config direction).Fails course fault after) :
    Broken scene config direction course fault after := by
  rcases fails_bind.1 failed with constructing | ⟨greedy, constructed, construction, failed⟩
  · obtain ⟨stage, broke, rfl⟩ := fails_greedyRun.1 constructing
    exact .constructing broke
  rcases fails_bind.1 failed with refining | ⟨refined, searched, refinement, concluding⟩
  · -- The memory is still that of the construction, so only the stage has changed.
    have kept : after = { constructed with stage := after.stage } := by
      rw [← memory_of_fails_refine refining]
    rw [kept] at refining ⊢
    exact .refining construction refining
  · obtain ⟨stage, refused, rfl⟩ := fails_conclude.1 concluding
    exact .checking (completes_search.2 ⟨constructed, construction, refinement⟩) refused

/-! ## What a broken run remembers -/

namespace Broken

theorem report (broken : Broken scene config direction course fault after) :
    after.memory.report = course.memory.report := by
  cases broken with
  | constructing _ => rfl
  | refining construction _ =>
    obtain ⟨_, _, rfl⟩ := completes_greedyRun.1 construction
    rfl
  | checking search _ =>
    obtain ⟨_, construction, refinement⟩ := completes_search.1 search
    obtain ⟨_, _, rfl⟩ := completes_greedyRun.1 construction
    obtain ⟨_, _, _, _, _, _, _, _, _, _, rfl⟩ := completes_refine.1 refinement
    rfl

/-- The greedy solution is replaced exactly if the whole construction came to its end. -/
theorem greedy (broken : Broken scene config direction course fault after) :
    Memory.Replaces (scene.Constructs direction course.stage) course.memory.greedy
      after.memory.greedy := by
  cases broken with
  | constructing failed =>
    exact .inr ⟨fun ⟨_, _, completed⟩ => failed.not_completes completed, rfl⟩
  | refining construction _ =>
    obtain ⟨stage, completed, rfl⟩ := completes_greedyRun.1 construction
    exact .inl ⟨_, ⟨stage, completed⟩, rfl⟩
  | checking search _ =>
    obtain ⟨_, construction, refinement⟩ := completes_search.1 search
    obtain ⟨stage, completed, rfl⟩ := completes_greedyRun.1 construction
    obtain ⟨_, _, _, _, _, _, _, _, _, _, rfl⟩ := completes_refine.1 refinement
    exact .inl ⟨_, ⟨stage, completed⟩, rfl⟩

/-- The refined solution is replaced exactly if the fault arose in the check at the end. -/
theorem refined (broken : Broken scene config direction course fault after) :
    Memory.Replaces (scene.BreaksCheck config direction course fault) course.memory.refined
      after.memory.refined := by
  cases broken with
  | constructing failed =>
    refine .inr ⟨?_, rfl⟩
    rintro ⟨_, _, _, _, search, _⟩
    obtain ⟨_, construction, _⟩ := completes_search.1 search
    obtain ⟨_, completed, _⟩ := completes_greedyRun.1 construction
    exact failed.not_completes completed
  | refining construction failed =>
    refine .inr ⟨?_, ?_⟩
    · -- Both constructions are the same one, and its refinement cannot fail and complete.
      rintro ⟨_, _, _, _, search, _⟩
      obtain ⟨_, again, refinement⟩ := completes_search.1 search
      obtain ⟨rfl, rfl⟩ := construction.unique again
      exact failed.not_completes refinement
    · obtain ⟨_, _, rfl⟩ := completes_greedyRun.1 construction
      rfl
  | checking search failed =>
    obtain ⟨_, construction, refinement⟩ := completes_search.1 search
    obtain ⟨_, _, _, _, _, _, _, _, _, _, rfl⟩ := completes_refine.1 refinement
    exact .inl ⟨_, ⟨_, _, _, search, failed⟩, rfl⟩

end Broken

end Scene

end Carousel
