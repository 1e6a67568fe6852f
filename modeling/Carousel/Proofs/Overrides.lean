import Carousel.Proofs.Session
import Carousel.Proofs.Settings
import Carousel.Proofs.Solver

/-!
# Overrides of a single call

A run goes by its own configuration, and the stored one is only shown to the callbacks.  If they do
not look at it, a full run with overrides is the full run of a solver in which the overridden values
are stored.  What is stored changes with a new seed alone.
-/

namespace Carousel

open Act (Lockstep)
open Settings (AlphaFits BetaFits)

variable {σ δ α β : Type} {n : Nat}

/-- The callbacks do not look at the stored configuration. -/
structure Problem.Incurious (problem : Problem σ δ α n) : Prop where
  feasible : ∀ (view : View δ) config selected,
    problem.feasible { view with config } selected = problem.feasible view selected
  score : ∀ (view : View δ) config selected candidate,
    problem.score { view with config } selected candidate = problem.score view selected candidate

/-! ## Runs with another stored configuration -/

theorem Stage.eq_of_alike {s t : Stage σ n} (alike : Stage.Alike 0 Eq s t) : s = t := by
  obtain ⟨run, iteration, generator, notices, caller⟩ := alike
  rw [Nat.zero_add] at iteration
  cases s
  cases t
  simp_all

theorem Stage.alike_refl (s : Stage σ n) : Stage.Alike 0 Eq s s :=
  ⟨rfl, (Nat.zero_add _).symm, rfl, rfl, rfl⟩

theorem Course.eq_of_alike {c d : Course σ n} (alike : Course.Alike 0 Eq {} c d) : c = d := by
  have memory := alike.memory
  have stage := Stage.eq_of_alike alike.stage
  rw [Memory.over_empty] at memory
  cases c
  cases d
  simp_all

theorem Course.alike_refl (c : Course σ n) : Course.Alike 0 Eq {} c c :=
  ⟨Stage.alike_refl c.stage, c.memory.over_empty.symm⟩

/-- An action is in lockstep with itself. -/
theorem Stage.lockstep_refl (act : Act (Stage σ n) β) : Lockstep Eq (Stage.Alike 0 Eq) act act := by
  intro s t alike
  rw [Stage.eq_of_alike alike]
  exact ⟨.of_eq (fun _ => rfl) rfl, Stage.alike_refl _⟩

namespace Scene

variable {scene : Scene σ δ α n}

theorem call_configured {callback : View δ → Callback σ β} {config : Config}
    (incurious : ∀ view, callback { view with config } = callback view) :
    { scene with config }.call callback = scene.call callback := by
  funext stage
  have same : callback ({ scene with config }.view stage) = callback (scene.view stage) :=
    incurious (scene.view stage)
  simp only [call, same]

theorem isFeasible_configured (incurious : scene.problem.Incurious) (config : Config)
    (positions : List (Fin n)) :
    { scene with config }.isFeasible positions = scene.isFeasible positions := by
  simp only [isFeasible]
  rw [call_configured fun view => incurious.feasible view config _]

theorem select_configured (incurious : scene.problem.Incurious) (config : Config)
    (eligible : List (Fin n)) :
    { scene with config }.select eligible = scene.select eligible := by
  have rated (selected : List α) :
      { scene with config }.rate selected = scene.rate selected := by
    funext position
    simp only [rate]
    rw [call_configured fun view => incurious.score view config _ _]
  simp only [select, rated]

/-- Callbacks that do not look at the stored configuration cannot tell two of them apart. -/
theorem matched_configured (incurious : scene.problem.Incurious) (config : Config)
    (own : scene.front = .itself) :
    Matched Eq (Stage.Alike 0 Eq) scene { scene with config } := by
  apply Matched.of_alike
  · intro fault
    rfl
  · intro position
    rfl
  · intro run
    simp only [reports, own]
  · intro positions
    rw [isFeasible_configured incurious config]
    exact Stage.lockstep_refl _
  · intro eligible
    rw [select_configured incurious config]
    exact Stage.lockstep_refl _

theorem perform_fullRun_configured (incurious : scene.problem.Incurious) (config own : Config)
    (itself : scene.front = .itself) (direction : Direction) (course : Course σ n) :
    ({ scene with config }.fullRun own direction).perform course =
      (scene.fullRun own direction).perform course := by
  have matched := matched_configured incurious config itself
  have steps : Lockstep Eq (Course.Alike 0 Eq {}) (scene.fullRun own direction)
      ({ scene with config }.fullRun own direction) := matched.lockstep_fullRun own
  obtain ⟨same, after⟩ := steps (Course.alike_refl course)
  exact Prod.ext same.eq.symm (Course.eq_of_alike after).symm

end Scene

/-! ## Overridden values -/

namespace Config

/-- The configuration with the given values in place of the stored ones; the rest is as stored. -/
structure Overridden (stored : Config) (alpha beta : Value) (config : Config) : Prop where
  alpha : (alpha = .absent ∧ config.alpha = stored.alpha) ∨ alpha = .int config.alpha
  beta : (beta = .absent ∧ config.beta = stored.beta) ∨ beta = config.beta.number.toValue
  seed : config.seed = stored.seed
  randomTieBreak : config.randomTieBreak = stored.randomTieBreak
  verbose : config.verbose = stored.verbose

theorem checkGiven_of_alphaFits (stored : Config) {alpha : Value} (fits : AlphaFits alpha) :
    ∃ found, Settings.checkGiven Settings.checkAlpha ⟨stored.alpha, stored.alpha_pos⟩ alpha =
        .ok found ∧
      ((alpha = .absent ∧ found.val = stored.alpha) ∨ alpha = .int found.val) := by
  rcases fits with rfl | ⟨i, positive, rfl⟩
  · exact ⟨_, rfl, .inl ⟨rfl, rfl⟩⟩
  · obtain ⟨multiplier, rfl⟩ := Int.eq_ofNat_of_zero_le (by omega : 0 ≤ i)
    exact ⟨⟨multiplier, by omega⟩, Settings.checkAlpha_int multiplier (by omega), .inr rfl⟩

theorem checkGiven_of_betaFits (stored : Config) {beta : Value} (fits : BetaFits beta) :
    ∃ found, Settings.checkGiven Settings.checkBeta stored.beta beta = .ok found ∧
      ((beta = .absent ∧ found = stored.beta) ∨ beta = found.number.toValue) := by
  rcases fits with rfl | ⟨number, least, most, rfl⟩
  · exact ⟨_, rfl, .inl ⟨rfl, rfl⟩⟩
  · refine ⟨⟨number, least, most⟩, ?_, .inr rfl⟩
    have present : number.toValue.isAbsent = false := by cases number <;> rfl
    rw [Settings.checkGiven, present]
    exact Settings.checkBeta_toValue ⟨number, least, most⟩

/-- Values that fit override what is stored. -/
theorem overridden_of_fits (stored : Config) {alpha beta : Value} (alphaFits : AlphaFits alpha)
    (betaFits : BetaFits beta) :
    ∃ config, stored.override [("alpha", alpha), ("beta", beta)] = .ok config ∧
      stored.Overridden alpha beta config := by
  obtain ⟨multiplier, checkedAlpha, hasAlpha⟩ := checkGiven_of_alphaFits stored alphaFits
  obtain ⟨share, checkedBeta, hasBeta⟩ := checkGiven_of_betaFits stored betaFits
  refine ⟨{ stored with
    alpha := multiplier.val, alpha_pos := multiplier.property, beta := share }, ?_, hasAlpha, hasBeta,
    rfl, rfl, rfl⟩
  rw [override_share, checkedAlpha, checkedBeta]
  rfl

end Config

namespace Solver

variable {solver : Solver σ δ n} {problem : Problem σ δ α n}

theorem callConfig_absent (solver : Solver σ δ n) :
    solver.callConfig .absent .absent = .ok solver.config := rfl

/-- A run with a configuration of its own is the run of the solver that stores this configuration. -/
theorem optimizeWith_configured (incurious : problem.Incurious) (direction : Direction)
    (config : Config) :
    let outcome := solver.optimizeWith problem direction config
    { solver with config }.optimizeWith problem direction config =
      { outcome with after := { outcome.after with config } } := by
  let scene := solver.scene problem .itself
  let course : Course σ n := { stage := solver.start direction config, memory := solver.memory }
  have same : ({ scene with config }.fullRun config direction).perform course = _ :=
    Scene.perform_fullRun_configured incurious config config rfl direction course
  exact congrArg (fun found : Except Fault (List (Fin n)) × Course σ n =>
    { answer := found.1
      after := { { solver with config }.absorb found.2.stage with memory := found.2.memory }
      notices := found.2.stage.notices : Outcome (Solver σ δ n) _ }) same

end Solver

namespace Session

variable {problem : Problem σ δ α n}

def configured (s : Session σ δ n) (config : Config) : Session σ δ n :=
  { s with solver := { s.solver with config } }

theorem perform_configured (incurious : problem.Incurious) (s : Session σ δ n)
    {alpha beta : Value} {config : Config}
    (overridden : s.solver.callConfig alpha beta = .ok config) (direction : Direction) :
    let outcome := s.perform problem (.optimize direction alpha beta)
    (s.configured config).perform problem (.optimize direction .absent .absent) =
      { outcome with after := outcome.after.configured config } := by
  have stored : (s.configured config).solver.callConfig .absent .absent = .ok config :=
    Solver.callConfig_absent _
  have same : (s.configured config).solver.optimizeWith problem direction config = _ :=
    Solver.optimizeWith_configured incurious direction config
  simp only [perform, overridden, stored, same]
  rfl

/-- Without a reseed the stored configuration stays. -/
theorem config_performAll_of_kept (problem : Problem σ δ α n) (s : Session σ δ n)
    {calls : List (Call δ)} (kept : ∀ call ∈ calls, ∀ seed, call ≠ .reseed seed) :
    (s.performAll problem calls).2.solver.config = s.solver.config := by
  induction calls generalizing s with
  | nil => rfl
  | cons call rest ih =>
    have first : (s.perform problem call).after.solver.config = s.solver.config := by
      cases call with
      | reseed seed => exact absurd rfl (kept _ (.head _) seed)
      | construct direction => rfl
      | setData data => rfl
      | newRun direction settings => rfl
      | _ =>
        simp only [perform, Solver.draw, onRun]
        split
        · rfl
        · rfl
    have later := ih (s.perform problem call).after fun c member => kept c (.tail _ member)
    exact later.trans first

/-- For callbacks that do not look at the stored configuration, a full run with valid overrides
answers, records and leaves behind what the run without overrides does where the overridden values
are stored.  The stored configuration stays through every sequence of calls without a reseed, whatever
they answer. -/
theorem overrides_equal_configuration (incurious : problem.Incurious) (s : Session σ δ n)
    {alpha beta : Value} (alphaFits : AlphaFits alpha) (betaFits : BetaFits beta) :
    ∃ config, s.solver.callConfig alpha beta = .ok config ∧
      s.solver.config.Overridden alpha beta config ∧
      (∀ direction,
        let outcome := s.perform problem (.optimize direction alpha beta)
        (s.configured config).perform problem (.optimize direction .absent .absent) =
          { outcome with after := outcome.after.configured config }) ∧
      ∀ calls : List (Call δ), (∀ call ∈ calls, ∀ seed, call ≠ .reseed seed) →
        (s.performAll problem calls).2.solver.config = s.solver.config := by
  obtain ⟨config, overridden, given⟩ := s.solver.config.overridden_of_fits alphaFits betaFits
  refine ⟨config, overridden, given, ?_, ?_⟩
  · intro direction
    exact perform_configured incurious s overridden direction
  · intro calls kept
    exact config_performAll_of_kept problem s kept

/-- Three rounds for each chosen number instead of ten, and nothing removed: once as overrides of a
large run, once as stored values. -/
theorem overrides_equal_configuration_of_three_numbers :
    let session : Session Unit Unit 3 := { solver := .plain 3 }
    let outcome := session.perform .anyTwo (.optimize .maximize (.int 3) (.int 0))
    (outcome.after.solver.memory.report.map fun report => (report.alpha, report.rounds)) =
        some (3, 9) ∧
      ∃ config : Config, config.alpha = 3 ∧ config.beta.number = .int 0 ∧
        (session.configured config).perform .anyTwo (.optimize .maximize .absent .absent) =
          { outcome with after := outcome.after.configured config } ∧
        (session.performAll .anyTwo [.optimize .maximize (.int 3) (.int 0),
          .optimize .minimize (.int 0) .absent]).2.solver.config = session.solver.config := by
  intro session outcome
  have incurious : Problem.anyTwo.Incurious := ⟨fun _ _ _ => rfl, fun _ _ _ _ => rfl⟩
  have alphaFits : AlphaFits (.int 3) := .inr ⟨3, by decide, rfl⟩
  have betaFits : BetaFits (.int 0) :=
    .inr ⟨.int 0, by decide +kernel, by decide +kernel, rfl⟩
  obtain ⟨config, _, given, same, kept⟩ :=
    overrides_equal_configuration incurious session alphaFits betaFits
  have three : config.alpha = 3 := by
    obtain ⟨absent, _⟩ | given := given.alpha
    · cases absent
    · have equal : (3 : Int) = config.alpha := Scalar.int.inj (Value.scalar.inj given)
      omega
  have zero : config.beta.number = .int 0 := by
    obtain ⟨absent, _⟩ | given := given.beta
    · cases absent
    · cases number : config.beta.number with
      | int i =>
        rw [number] at given
        cases given
        rfl
      | real x =>
        rw [number] at given
        cases given
  refine ⟨by decide +kernel, config, three, zero, same .maximize, kept _ ?_⟩
  simp

end Session

end Carousel
