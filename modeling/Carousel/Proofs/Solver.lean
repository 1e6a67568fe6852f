import Carousel.Proofs.Run.Lockstep
import Carousel.Proofs.Run.Passage
import Carousel.Proofs.Settings
import Carousel.Session

/-!
# Completed calls of a solver

A full run that a solver completes is a passage from the stage of a new run, and the solver keeps
what the passage has found.  A greedy run goes by the stored configuration instead of that of the
call, and in the same way.  At the end stands a family of small problems that can be computed.
-/

namespace Carousel

open Act (Completes)
open Scene (Passage)

variable {σ δ α : Type} {n : Nat}

namespace Universe

theorem elementsAt_finRange (u : Universe α n) : u.elementsAt (List.finRange n) = u.toList := by
  refine List.ext_getElem (by simp [toList]) fun i _ _ => ?_
  simp [elementsAt, element, toList, Vector.get]

theorem elementsAt_perm {u : Universe α n} {positions : List (Fin n)}
    (full : positions.Perm (List.finRange n)) : (u.elementsAt positions).Perm u.toList :=
  u.elementsAt_finRange ▸ full.map u.element

end Universe

namespace Solver

/-- The solver remembers a full run with this report. -/
structure Recalls (solver : Solver σ δ n) (report : Report (Fin n)) : Prop where
  greedy : solver.memory.greedy = some report.greedy
  refined : solver.memory.refined = some report.refined
  report : solver.memory.report = some report

variable {solver : Solver σ δ n} {problem : Problem σ δ α n} {direction : Direction}
  {alpha beta : Value} {best : List (Fin n)}

def start (solver : Solver σ δ n) (direction : Direction) (config : Config) : Stage σ n :=
  solver.stage (.fresh direction config.toSettings)

theorem sound_start (config : Config) : (solver.start direction config).run.selection.Sound :=
  Selection.sound_empty

theorem onNewRun_of_completes {run : Run n} {β : Type} {act : Act (Course σ n) β} {answer : β}
    {course : Course σ n}
    (completed : act.Completes { stage := solver.stage run, memory := solver.memory } answer
      course) :
    solver.onNewRun run act =
      { answer := .ok answer
        after := { solver.absorb course.stage with memory := course.memory }
        notices := course.stage.notices } := by
  unfold onNewRun
  rw [completed]

theorem completes_of_onNewRun {run : Run n} {β : Type} {act : Act (Course σ n) β} {answer : β}
    (answered : (solver.onNewRun run act).answer = .ok answer) :
    ∃ course, act.Completes { stage := solver.stage run, memory := solver.memory } answer course :=
  ⟨_, Act.completes_of_fst answered⟩

/-- A completed full run is a passage, and the solver remembers what was found on it. -/
theorem passage_of_optimize
    (completed : (solver.optimize problem direction alpha beta).answer = .ok best) :
    ∃ config, solver.callConfig alpha beta = .ok config ∧
      ∃ p : Passage (solver.scene problem .itself) config direction (solver.start direction config),
        best = p.best ∧
        solver.optimize problem direction alpha beta =
          { answer := .ok p.best
            after := { solver.absorb p.last with memory := p.memory }
            notices := p.last.notices } := by
  unfold optimize at completed ⊢
  cases overridden : solver.callConfig alpha beta with
  | error fault =>
    rw [overridden] at completed
    cases completed
  | ok config =>
    rw [overridden] at completed
    obtain ⟨course, ended⟩ := completes_of_onNewRun completed
    have terms : (solver.start direction config).run.config = config.toSettings := rfl
    obtain ⟨p, rfl, rfl⟩ := Scene.passage_of_fullRun terms ended
    exact ⟨config, rfl, p, rfl, onNewRun_of_completes ended⟩

theorem recalls_of_passage {config : Config} {stage : Stage σ n}
    (p : Passage (solver.scene problem .itself) config direction (solver.start direction config)) :
    Recalls { solver.absorb stage with memory := p.memory } p.report :=
  ⟨rfl, rfl, rfl⟩

/-- The greedy solution of a full run is what a greedy run gives: neither the multiplier nor the
share of the call plays a part in it. -/
theorem construct_of_passage {config : Config}
    (overridden : solver.callConfig alpha beta = .ok config)
    (p : Passage (solver.scene problem .itself) config direction (solver.start direction config)) :
    (solver.construct problem direction).answer = .ok p.greedy := by
  have kept := Config.kept_of_override (by simp) overridden
  have related : Stage.Retuned (solver.start direction solver.config)
      (solver.start direction config) :=
    ⟨config.toSettings, congrArg Value.bool kept.1, kept.2, rfl⟩
  have matched : Scene.Matched Eq Stage.Retuned (solver.scene problem .itself)
      (solver.scene problem .itself) := Scene.matched_retuned
  -- The greedy part of the call and the greedy run take the same steps.
  have same := (matched.lockstep_greedy direction related).1.eq
  have found : (((solver.scene problem .itself).greedy direction).perform
      (solver.start direction config)).1 = .ok p.greedy := congrArg Prod.fst p.construction
  have constructed : ((solver.scene problem .itself).greedy direction).Completes
      (solver.start direction solver.config) p.greedy
      (((solver.scene problem .itself).greedy direction).perform
        (solver.start direction solver.config)).2 := Act.completes_of_fst (same.trans found)
  exact congrArg Outcome.answer
    (onNewRun_of_completes (Scene.completes_greedyRun.2 ⟨_, constructed, rfl⟩))

end Solver

namespace Session

variable {session : Session σ δ n} {problem : Problem σ δ α n} {direction : Direction}
  {alpha beta : Value}

/-- A session answers a full run as its solver does. -/
theorem perform_optimize :
    let outcome := session.solver.optimize problem direction alpha beta
    let performed := session.perform problem (.optimize direction alpha beta)
    performed.answer = outcome.answer.map .positions ∧ performed.after.solver = outcome.after ∧
      performed.notices = outcome.notices := by
  simp only [perform, Solver.optimize]
  cases session.solver.callConfig alpha beta with
  | error fault => exact ⟨rfl, rfl, rfl⟩
  | ok config => exact ⟨rfl, rfl, rfl⟩

end Session

/-! ## Problems over numbers -/

/-- The numbers up to `n`, with a test of their own and a table of scores, in which a row is looked
up by how many numbers are selected.  Scores that the table leaves out are zero. -/
def Problem.ofTable (n : Nat) (accepts : List Nat → Bool) (rows : List (List Int)) :
    Problem Unit Unit Nat (n + 1) where
  candidates := ⟨Vector.range (n + 1), n.succ_pos⟩
  feasible _ selected := pure (accepts selected)
  score _ selected number := pure (.int ((rows.getD selected.length []).getD number 0))
  label := toString

def Problem.anyTwo : Problem Unit Unit Nat 3 :=
  .ofTable 2 (fun selected => decide (selected.length ≤ 2)) []

/-- Two numbers of which none is feasible, and none can be scored beside another. -/
def Problem.brittle : Problem Unit Unit Nat 2 :=
  { ofTable 1 (fun _ => false) [] with
    score := fun _ selected _ => match selected with
      | [] => pure (.int 0)
      | _ => throw ⟨.runtime, "not alone"⟩ }

/-- A solver that has not done anything, for callbacks without a state. -/
def Solver.plain (n : Nat) : Solver Unit Unit n := .fresh default () ()

def Stage.holding (direction : Direction) (order : List (Fin n)) : Stage Unit n :=
  let run : Run n := .fresh direction default
  (Solver.plain n).stage { run with selection := .holding order }

theorem Problem.ofTable_decides (n : Nat) (accepts : List Nat → Bool) (rows : List (List Int)) :
    (ofTable n accepts rows).Decides accepts :=
  fun _ _ caller => ⟨caller, rfl⟩

end Carousel
