import Carousel.Proofs.Greedy
import Carousel.Proofs.Overrides
import Carousel.Proofs.Run.Breakage
import Carousel.Proofs.Run.Choice
import Carousel.Proofs.Window

/-!
# Runs that never fail

A run can only fail where a callback raises something or where scores cannot be ranked.  If every test is
answered and every score is a whole number, neither happens, and each phase and each full run comes to its
end.
-/

namespace Carousel

open Act (fails_bind)

variable {σ δ α : Type} {n : Nat}

namespace Scene

/-- Every test is answered, and every score is a whole number. -/
structure Reliable (scene : Scene σ δ α n) : Prop where
  tests : ∀ positions s, ∃ verdict t, (scene.isFeasible positions).Completes s verdict t
  rates : ∀ selected position s, ∃ (score : Int) (t : Stage σ n),
    (scene.rate selected position).Completes s (.int score) t

namespace Reliable

variable {scene : Scene σ δ α n} {config : Config} {direction : Direction} {s t : Stage σ n}
  {course after : Course σ n} {fault : Fault}

/-! ## Questions -/

theorem not_fails_isFeasible (reliable : scene.Reliable) {positions : List (Fin n)} :
    ¬ (scene.isFeasible positions).Fails s fault t := by
  intro failed
  obtain ⟨_, _, tested⟩ := reliable.tests positions s
  exact failed.not_completes tested

theorem integers_of_sweep (reliable : scene.Reliable) {selected : List α} {eligible : List (Fin n)}
    {scores : List Score} (swept : Act.Sweeps (scene.rate selected) eligible s scores t) :
    ∃ integers, List.Forall₂ (fun score i => Column.integer? score = some i) scores integers := by
  induction swept with
  | nil => exact ⟨[], .nil⟩
  | @cons position _ _ _ s _ _ first _ ih =>
    obtain ⟨integers, rest⟩ := ih
    obtain ⟨integer, _, rated⟩ := reliable.rates selected position s
    rw [(first.unique rated).1]
    exact ⟨integer :: integers, .cons rfl rest⟩

theorem not_balks (reliable : scene.Reliable) {eligible : List (Fin n)} :
    ¬ Balks scene eligible s fault t := by
  intro balks
  cases balks with
  | unscored _ _ raised =>
    obtain ⟨_, _, rated⟩ := reliable.rates _ _ _
    exact raised.not_completes rated
  | @unranked scores _ _ scored refused =>
    by_cases nobody : eligible = []
    · -- Without candidates nothing is ranked.
      subst nobody
      cases refused
    · obtain ⟨integers, all⟩ := reliable.integers_of_sweep scored
      have counted := Score.Counted.exact all
      have aligned := counted.length_eq.trans scored.length_eq
      rw [chooseBest_of_counted _ nobody counted aligned] at refused
      cases refused

/-! ## The four phases -/

theorem not_fails_construction (reliable : scene.Reliable) (sound : s.run.selection.Sound) :
    ¬ scene.construction.Fails s fault t := by
  intro failed
  cases fault_of_construction sound failed with
  | untested _ _ raised => exact reliable.not_fails_isFeasible raised
  | unchosen _ _ balks => exact reliable.not_balks balks

theorem not_fails_removal (checked : s.run.config = config.toSettings) :
    ¬ scene.removal.Fails s fault t := by
  intro failed
  obtain ⟨uncounted, _⟩ := fails_removal.1 failed
  rw [checked, Settings.countOf_toSettings] at uncounted
  cases uncounted

theorem not_fails_iterative (reliable : scene.Reliable) {rounds : Nat} (sound : s.run.selection.Sound) :
    ¬ (scene.iterative rounds).Fails s fault t := by
  intro failed
  obtain ⟨_, _, broken⟩ := fault_of_iterative sound failed
  cases broken with
  | unchosen _ balks => exact reliable.not_balks balks
  | untested _ _ _ raised => exact reliable.not_fails_isFeasible raised

theorem not_fails_completion (reliable : scene.Reliable) (sound : s.run.selection.Sound) :
    ¬ scene.completion.Fails s fault t := by
  intro failed
  have failed := Act.fails_get_bind.1 (fails_recorded.1 failed)
  cases direction : s.run.direction with
  | minimize =>
    rw [direction] at failed
    obtain ⟨_, _, testing | ⟨_, _, choosing⟩⟩ := stalls_of_repair sound failed
    · exact reliable.not_fails_isFeasible (Act.fails_get_bind.1 testing)
    · exact reliable.not_balks (fails_selectRemaining.1 choosing)
  | maximize =>
    rw [direction] at failed
    rcases fails_bind.1 failed with failed | ⟨_, _, _, impossible⟩
    · obtain ⟨_, _, impossible | ⟨_, _, choosing⟩⟩ := stalls_of_saturate sound failed
      · exact Act.not_fails_pure impossible
      · rcases fails_bind.1 choosing with trying | ⟨_, _, _, choosing⟩
        · exact not_fails_fitting reliable.not_fails_isFeasible trying
        · exact reliable.not_balks (fails_select.1 choosing)
    · exact Act.not_fails_pure impossible

/-! ## Runs -/

theorem not_fails_greedy (reliable : scene.Reliable) (sound : s.run.selection.Sound) :
    ¬ (scene.greedy direction).Fails s fault t := by
  intro failed
  cases direction with
  | minimize =>
    simp only [greedy, fails_bind, Act.not_fails_get, Act.not_fails_pure, and_false, exists_false,
      or_false] at failed
    exact reliable.not_fails_construction sound failed
  | maximize =>
    simp only [greedy, turn, update, fails_bind, Act.completes_modify, Act.not_fails_modify,
      Act.not_fails_get, Act.not_fails_pure, and_false, exists_false, or_false, false_or] at failed
    obtain ⟨_, _, rfl, failed | ⟨_, m, first, _, _, rfl, failed⟩⟩ := failed
    · exact reliable.not_fails_construction (by exact sound) failed
    · -- The second construction continues from what the first one has left.
      have small := past_of_construction (by exact sound) first
      exact reliable.not_fails_construction (by exact small.sound) failed

theorem not_fails_refine (reliable : scene.Reliable) {rounds : Nat}
    (checked : course.stage.run.config = config.toSettings)
    (sound : course.stage.run.selection.Sound) : ¬ (scene.refine rounds).Fails course fault after := by
  intro failed
  unfold refine at failed
  simp only [fails_bind, fails_onStage, completes_onStage, not_fails_remember, Act.not_fails_get,
    Act.not_fails_pure, and_false, exists_false, or_false] at failed
  rcases failed with ⟨_, removing, _⟩ | ⟨_, _, ⟨trimmed, removal, rfl⟩, failed⟩
  · exact not_fails_removal checked removing
  have sound := (past_of_removal sound removal).sound
  rcases failed with ⟨_, rotating, _⟩ | ⟨_, _, ⟨rotated, iterative, rfl⟩, _, completing, _⟩
  · exact reliable.not_fails_iterative sound rotating
  have sound := (past_of_iterative scene.problem.candidates.nonempty sound iterative).sound
  exact reliable.not_fails_completion sound completing

theorem completes_greedyRun (reliable : scene.Reliable) (sound : course.stage.run.selection.Sound) :
    ∃ greedy after, (scene.greedyRun direction).Completes course greedy after := by
  refine Act.exists_completes fun _ _ failed => ?_
  obtain ⟨_, constructing, _⟩ := fails_greedyRun.1 failed
  exact reliable.not_fails_greedy sound constructing

/-- A full run of a reliable scene comes to its end. -/
theorem completes_fullRun (reliable : scene.Reliable)
    (headed : course.stage.run.direction = direction)
    (checked : course.stage.run.config = config.toSettings)
    (sound : course.stage.run.selection.Sound) :
    ∃ best after, (scene.fullRun config direction).Completes course best after := by
  refine Act.exists_completes fun _ _ failed => ?_
  cases broken_of_fullRun failed with
  | constructing constructing => exact reliable.not_fails_greedy sound constructing
  | refining construction refining =>
    obtain ⟨_, constructed, rfl⟩ := Scene.completes_greedyRun.1 construction
    have checked := (config_of_greedy sound constructed).trans checked
    have sound := (past_of_greedy headed sound constructed).sound
    exact reliable.not_fails_refine checked sound refining
  | checking _ checking => exact reliable.not_fails_isFeasible checking

end Reliable

end Scene

namespace Solver

variable {solver : Solver σ δ n} {problem : Problem σ δ α n}

theorem construct_of_reliable (reliable : (solver.scene problem .itself).Reliable)
    (direction : Direction) : ∃ greedy, (solver.construct problem direction).answer = .ok greedy := by
  let course : Course σ n := { stage := solver.start direction solver.config, memory := solver.memory }
  have sound : course.stage.run.selection.Sound := sound_start solver.config
  obtain ⟨greedy, _, completed⟩ : ∃ greedy after,
      ((solver.scene problem .itself).greedyRun direction).Completes course greedy after :=
    reliable.completes_greedyRun sound
  exact ⟨greedy, congrArg Outcome.answer (onNewRun_of_completes completed)⟩

/-- A full run with values that fit is a passage from its beginning to its end. -/
theorem passage_of_reliable (reliable : (solver.scene problem .itself).Reliable)
    (direction : Direction) {alpha beta : Value} (alphaFits : Settings.AlphaFits alpha)
    (betaFits : Settings.BetaFits beta) :
    ∃ config, ∃ p : Scene.Passage (solver.scene problem .itself) config direction
        (solver.start direction config),
      solver.optimize problem direction alpha beta =
        { answer := .ok p.best
          after := { solver.absorb p.last with memory := p.memory }
          notices := p.last.notices } := by
  obtain ⟨config, overridden, _⟩ := solver.config.overridden_of_fits alphaFits betaFits
  have called : solver.callConfig alpha beta = .ok config := overridden
  let course : Course σ n := { stage := solver.start direction config, memory := solver.memory }
  have sound : course.stage.run.selection.Sound := sound_start config
  obtain ⟨best, _, completed⟩ : ∃ best after,
      ((solver.scene problem .itself).fullRun config direction).Completes course best after :=
    reliable.completes_fullRun rfl rfl sound
  have answered : (solver.optimize problem direction alpha beta).answer = .ok best := by
    rw [optimize, called]
    exact congrArg Outcome.answer (onNewRun_of_completes completed)
  obtain ⟨config, _, p, rfl, outcome⟩ := passage_of_optimize answered
  exact ⟨config, p, outcome⟩

end Solver

end Carousel
