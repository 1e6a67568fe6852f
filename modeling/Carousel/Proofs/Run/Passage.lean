import Carousel.Proofs.Run.Phase
import Carousel.Solver

/-!
# Completed full runs

A full run that completes has passed through five stages: the greedy solution was constructed, then
trimmed, rotated and completed, and the better of the two solutions was checked.  A passage names
these stages and what was found on the way; what a solver holds afterwards is read off the passage.
-/

namespace Carousel

open Act (Completes Fails completes_bind completes_bind_pure)
open Stage (Past)

variable {σ δ α β : Type} {n : Nat}

namespace Scene

def better (direction : Direction) (greedy refined : List (Fin n)) : List (Fin n) :=
  if direction.isImprovement refined.length greedy.length then refined else greedy

/-- A full run up to the comparison: the greedy solution and the refined one. -/
def search (scene : Scene σ δ α n) (config : Config) (direction : Direction) :
    Act (Course σ n) (List (Fin n) × List (Fin n)) := do
  let greedy ← scene.greedyRun direction
  let refined ← scene.refine (config.alpha * greedy.length)
  return (greedy, refined)

/-- The stages that a completed full run passes through, and what it finds on the way. -/
structure Passage (scene : Scene σ δ α n) (config : Config) (direction : Direction)
    (start : Stage σ n) where
  greedy : List (Fin n)
  constructed : Stage σ n
  removed : List (Fin n)
  trimmed : Stage σ n
  rounds : Nat
  rotated : Stage σ n
  repaired : Bool
  completed : Stage σ n
  verdict : Bool
  checked : Stage σ n
  terms : start.run.config = config.toSettings
  construction : (scene.greedy direction).Completes start greedy constructed
  removal : scene.removal.Completes constructed removed trimmed
  iterative : (scene.iterative (config.alpha * greedy.length)).Completes trimmed rounds rotated
  completion : scene.completion.Completes rotated repaired completed
  check : (scene.isFeasible (better direction greedy completed.run.selection.order)).Completes
    completed verdict checked

namespace Passage

variable {scene : Scene σ δ α n} {config : Config} {direction : Direction} {start : Stage σ n}

def refined (p : Passage scene config direction start) : List (Fin n) := p.completed.run.selection.order

def best (p : Passage scene config direction start) : List (Fin n) := better direction p.greedy p.refined

def status (p : Passage scene config direction start) : Status :=
  if p.verdict then .feasible else .infeasible

def report (p : Passage scene config direction start) : Report (Fin n) :=
  reportOf p.checked.run config direction p.greedy p.refined p.best p.status

def memory (p : Passage scene config direction start) : Memory n :=
  { greedy := some p.greedy, refined := some p.refined, report := some p.report }

def warning (p : Passage scene config direction start) : List Notice :=
  if p.verdict then [] else [.infeasible direction p.best.length]

def last (p : Passage scene config direction start) : Stage σ n :=
  scene.announced
    (.solved direction p.greedy.length p.refined.length p.best.length p.status)
    { p.checked with notices := p.checked.notices ++ p.warning }

end Passage

variable {scene : Scene σ δ α n} {config : Config} {direction : Direction} {course after : Course σ n}

theorem perform_onStage_iff {act : Act (Stage σ n) β} {result : Except Fault β} :
    (onStage act).perform course = (result, after) ↔
      ∃ stage, act.perform course.stage = (result, stage) ∧ after = { course with stage } := by
  have performed : (onStage act).perform course =
      ((act.perform course.stage).1, { course with stage := (act.perform course.stage).2 }) := rfl
  rw [performed]
  rcases act.perform course.stage with ⟨answered, stage⟩
  constructor
  · intro equal
    cases equal
    exact ⟨stage, rfl, rfl⟩
  · rintro ⟨_, equal, rfl⟩
    cases equal
    rfl

theorem completes_onStage {act : Act (Stage σ n) β} {answer : β} :
    (onStage act).Completes course answer after ↔
      ∃ stage, act.Completes course.stage answer stage ∧ after = { course with stage } :=
  perform_onStage_iff

theorem fails_onStage {act : Act (Stage σ n) β} {fault : Fault} :
    (onStage act).Fails course fault after ↔
      ∃ stage, act.Fails course.stage fault stage ∧ after = { course with stage } :=
  perform_onStage_iff

theorem completes_remember {change : Memory n → Memory n} {answer : Unit} :
    (remember change : Act (Course σ n) Unit).Completes course answer after ↔
      after = { course with memory := change course.memory } := Act.completes_modify

theorem completes_warnUnless {feasible : Bool} {size : Nat} {s t : Stage σ n} {answer : Unit} :
    (warnUnless feasible direction size).Completes s answer t ↔
      t = { s with notices := s.notices ++
        if feasible then [] else [.infeasible direction size] } := by
  cases feasible with
  | true => simp [warnUnless]
  | false => exact Act.completes_modify

/-- The direction of a large construction is turned twice, and the greedy solution is what the
second construction leaves. -/
theorem completes_greedy_maximize {s t : Stage σ n} {found : List (Fin n)} :
    (scene.greedy .maximize).Completes s found t ↔
      ∃ m, scene.construction.Completes
          { s with run := { s.run with direction := .minimize } } () m ∧
        scene.construction.Completes
          { m with run := { m.run with direction := .maximize } } () t ∧
        found = t.run.selection.order := by
  unfold greedy turn
  simp only [completes_bind, completes_update, Act.completes_get, Act.completes_pure]
  constructor
  · rintro ⟨_, _, rfl, _, m, first, _, _, rfl, _, _, second, _, _, ⟨rfl, rfl⟩, rfl, rfl⟩
    exact ⟨m, first, second, rfl⟩
  · rintro ⟨m, first, second, rfl⟩
    exact ⟨(), _, rfl, (), m, first, (), _, rfl, (), _, second, _, _, ⟨rfl, rfl⟩, rfl, rfl⟩

theorem completes_greedy_minimize {s t : Stage σ n} {found : List (Fin n)} :
    (scene.greedy .minimize).Completes s found t ↔
      scene.construction.Completes s () t ∧ found = t.run.selection.order := by
  unfold greedy
  simp only [completes_bind, Act.completes_get, Act.completes_pure]
  constructor
  · rintro ⟨_, _, construction, _, _, ⟨rfl, rfl⟩, rfl, rfl⟩
    exact ⟨construction, rfl⟩
  · rintro ⟨construction, rfl⟩
    exact ⟨(), _, construction, _, _, ⟨rfl, rfl⟩, rfl, rfl⟩

theorem order_of_greedy {s t : Stage σ n} {found : List (Fin n)}
    (constructed : (scene.greedy direction).Completes s found t) :
    found = t.run.selection.order := by
  cases direction with
  | minimize => exact (completes_greedy_minimize.1 constructed).2
  | maximize =>
    obtain ⟨_, _, _, found⟩ := completes_greedy_maximize.1 constructed
    exact found

theorem config_of_greedy {s t : Stage σ n} {found : List (Fin n)} (sound : s.run.selection.Sound)
    (constructed : (scene.greedy direction).Completes s found t) : t.run.config = s.run.config := by
  cases direction with
  | minimize => exact (past_of_construction sound (completes_greedy_minimize.1 constructed).1).config
  | maximize =>
    obtain ⟨m, first, second, _⟩ := completes_greedy_maximize.1 constructed
    have small := past_of_construction (by exact sound) first
    have large := past_of_construction (by exact small.sound) second
    exact large.config.trans small.config

theorem past_of_greedy {s t : Stage σ n} {found : List (Fin n)} (headed : s.run.direction = direction)
    (sound : s.run.selection.Sound) (constructed : (scene.greedy direction).Completes s found t) :
    Past s t := by
  cases direction with
  | minimize => exact past_of_construction sound (completes_greedy_minimize.1 constructed).1
  | maximize =>
    -- The direction is turned before each of the two constructions, the second time back.
    obtain ⟨m, first, second, _⟩ := completes_greedy_maximize.1 constructed
    have small := past_of_construction (by exact sound) first
    have large := past_of_construction (by exact small.sound) second
    exact ⟨large.direction.trans headed.symm, large.config.trans small.config,
      large.warnings.trans small.warnings, large.sound⟩

theorem completes_greedyRun {found : List (Fin n)} :
    (scene.greedyRun direction).Completes course found after ↔
      ∃ stage, (scene.greedy direction).Completes course.stage found stage ∧
        after = { stage, memory := { course.memory with greedy := some found } } := by
  unfold greedyRun
  simp only [completes_bind, completes_onStage, completes_remember, Act.completes_pure]
  constructor
  · rintro ⟨_, _, ⟨stage, construction, rfl⟩, _, _, rfl, rfl, rfl⟩
    exact ⟨stage, construction, rfl⟩
  · rintro ⟨stage, construction, rfl⟩
    exact ⟨_, _, ⟨stage, construction, rfl⟩, (), _, rfl, rfl, rfl⟩

theorem completes_refine {asked : Nat} {found : List (Fin n)} :
    (scene.refine asked).Completes course found after ↔
      ∃ removed trimmed rounds rotated repaired stage,
        scene.removal.Completes course.stage removed trimmed ∧
        (scene.iterative asked).Completes trimmed rounds rotated ∧
        scene.completion.Completes rotated repaired stage ∧
        found = stage.run.selection.order ∧
        after = { stage, memory := { course.memory with refined := some found } } := by
  unfold refine
  simp only [completes_bind, completes_onStage, completes_remember, Act.completes_get,
    Act.completes_pure]
  constructor
  · rintro ⟨removed, _, ⟨trimmed, removal, rfl⟩, rounds, _,
      ⟨rotated, iterative, rfl⟩, repaired, _, ⟨stage, completion, rfl⟩, _, _, ⟨rfl, rfl⟩,
      _, _, rfl, rfl, rfl⟩
    exact ⟨removed, trimmed, rounds, rotated, repaired, stage, removal, iterative, completion,
      rfl, rfl⟩
  · rintro ⟨removed, trimmed, rounds, rotated, repaired, stage, removal, iterative, completion,
      rfl, rfl⟩
    exact ⟨removed, _, ⟨trimmed, removal, rfl⟩, rounds, _,
      ⟨rotated, iterative, rfl⟩, repaired, _, ⟨stage, completion, rfl⟩, _, _, ⟨rfl, rfl⟩,
      (), _, rfl, rfl, rfl⟩

/-- The search of a full run ends where its completion phase does. -/
theorem Passage.completes_search {start : Stage σ n} {memory : Memory n}
    (p : Passage scene config direction start) :
    (scene.search config direction).Completes { stage := start, memory } (p.greedy, p.refined)
      { stage := p.completed
        memory := { memory with greedy := some p.greedy, refined := some p.refined } } := by
  refine completes_bind.2 ⟨_, _, completes_greedyRun.2 ⟨_, p.construction, rfl⟩, ?_⟩
  refine completes_bind_pure.2 ⟨p.refined, ?_, rfl⟩
  exact completes_refine.2 ⟨_, _, _, _, _, _, p.removal, p.iterative, p.completion, rfl, rfl⟩

/-- The end of a full run checks the better solution, and reports what the check answered. -/
theorem completes_conclude {greedy refined best : List (Fin n)}
    (completed : (scene.conclude config direction greedy refined).Completes course best after) :
    best = better direction greedy refined ∧
    ∃ verdict checked, (scene.isFeasible best).Completes course.stage verdict checked ∧
      let status : Status := if verdict then .feasible else .infeasible
      after = {
        stage := scene.announced
          (.solved direction greedy.length refined.length best.length status)
          { checked with notices := checked.notices ++
              if verdict then [] else [.infeasible direction best.length] }
        memory := { course.memory with
          report := some (reportOf checked.run config direction greedy refined best status) } } := by
  unfold conclude at completed
  simp only [completes_bind, completes_onStage, completes_remember, completes_warnUnless,
    completes_announce, Act.completes_get, Act.completes_pure] at completed
  obtain ⟨verdict, _, ⟨checked, check, rfl⟩, _, _, ⟨_, rfl, rfl⟩, _, _, ⟨rfl, rfl⟩, _, _, rfl,
    _, _, ⟨_, rfl, rfl⟩, rfl, rfl⟩ := completed
  exact ⟨rfl, verdict, checked, check, rfl⟩

theorem passage_of_fullRun {best : List (Fin n)}
    (terms : course.stage.run.config = config.toSettings)
    (completed : (scene.fullRun config direction).Completes course best after) :
    ∃ p : Passage scene config direction course.stage,
      best = p.best ∧ after = { stage := p.last, memory := p.memory } := by
  unfold fullRun at completed
  obtain ⟨greedy, _, constructing, rest⟩ := completes_bind.1 completed
  obtain ⟨constructed, construction, rfl⟩ := completes_greedyRun.1 constructing
  obtain ⟨refined, _, refining, concluding⟩ := completes_bind.1 rest
  obtain ⟨removed, trimmed, rounds, rotated, repaired, ended, removal, iterative, completion,
    rfl, rfl⟩ := completes_refine.1 refining
  obtain ⟨rfl, verdict, checked, check, rfl⟩ := completes_conclude concluding
  exact ⟨⟨greedy, constructed, removed, trimmed, rounds, rotated, repaired, ended, verdict, checked,
    terms, construction, removal, iterative, completion, check⟩, rfl, rfl⟩

/-! ## What a passage keeps -/

namespace Passage

variable {start : Stage σ n}

theorem greedy_eq (p : Passage scene config direction start) :
    p.greedy = p.constructed.run.selection.order := order_of_greedy p.construction

theorem status_eq_feasible_iff (p : Passage scene config direction start) :
    p.status = .feasible ↔ p.verdict = true := by
  unfold status
  cases p.verdict with
  | true => simp
  | false => simp

theorem status_eq_infeasible_iff (p : Passage scene config direction start) :
    p.status = .infeasible ↔ p.verdict = false := by
  unfold status
  cases p.verdict with
  | true => simp
  | false => simp

theorem length_greedy (p : Passage scene config direction start) :
    p.greedy.length = p.constructed.run.selection.size := by
  rw [p.greedy_eq]
  rfl

theorem past_constructed (p : Passage scene config direction start)
    (headed : start.run.direction = direction) (sound : start.run.selection.Sound) :
    Past start p.constructed :=
  past_of_greedy headed sound p.construction

theorem nodup_greedy (p : Passage scene config direction start)
    (headed : start.run.direction = direction) (sound : start.run.selection.Sound) :
    p.greedy.Nodup := by
  rw [p.greedy_eq]
  exact (p.past_constructed headed sound).sound.nodup

theorem past_trimmed (p : Passage scene config direction start)
    (headed : start.run.direction = direction) (sound : start.run.selection.Sound) :
    Past start p.trimmed := by
  have constructed := p.past_constructed headed sound
  exact constructed.trans (past_of_removal constructed.sound p.removal)

theorem past_rotated (p : Passage scene config direction start)
    (headed : start.run.direction = direction) (sound : start.run.selection.Sound) :
    Past start p.rotated := by
  have trimmed := p.past_trimmed headed sound
  exact trimmed.trans
    (past_of_iterative scene.problem.candidates.nonempty trimmed.sound p.iterative)

theorem past_completed (p : Passage scene config direction start)
    (headed : start.run.direction = direction) (sound : start.run.selection.Sound) :
    Past start p.completed := by
  have rotated := p.past_rotated headed sound
  exact rotated.trans (past_of_completion rotated.sound p.completion)

theorem length_refined_le (p : Passage scene config direction start)
    (headed : start.run.direction = direction) (sound : start.run.selection.Sound) :
    p.refined.length ≤ n := (p.past_completed headed sound).sound.size_le

theorem length_trimmed (p : Passage scene config direction start)
    (headed : start.run.direction = direction) (sound : start.run.selection.Sound) :
    (p.trimmed.run.selection.size : Int) = survivors config.beta p.greedy.length := by
  have checked := (p.past_constructed headed sound).config.trans p.terms
  obtain ⟨_, trimmed⟩ := (completes_removal_of_config checked).1 p.removal
  rw [trimmed, selection_noted, size_trimmed, p.length_greedy]

/-- A run warns of an infeasible solution at its end, and of nothing else. -/
theorem warnings_last (p : Passage scene config direction start)
    (headed : start.run.direction = direction) (sound : start.run.selection.Sound) :
    p.last.warnings = start.warnings ++ p.warning := by
  have completed := (p.past_completed headed sound).warnings
  have checked := (asks_isFeasible _ p.check).notices
  have warned : p.warning.filter Notice.isWarning = p.warning := by
    unfold warning
    split <;> rfl
  unfold Stage.warnings at completed ⊢
  rw [last, announced, List.filter_append, List.filter_append, warned, checked, completed]
  split <;> simp [Notice.isWarning]

end Passage

end Scene

end Carousel
