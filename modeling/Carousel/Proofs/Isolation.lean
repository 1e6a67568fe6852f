import Carousel.Proofs.Session
import Carousel.Proofs.Setup
import Carousel.Proofs.Solver

/-!
# Runs do not leak into each other

When the callbacks answer by what they are shown, a call that leaves the runs by hand alone depends on
nothing but the configuration, the data and the generator of its solver.  A new seed renews the
generator, so whatever was done before, the solver goes on like a new one that was set up with the
seed.
-/

namespace Carousel

variable {σ δ α : Type} {n : Nat}

/-- The answers of the callbacks depend on the selection, the candidate, the direction, the stored
configuration and the data alone. -/
structure Problem.Steady (problem : Problem σ δ α n) : Prop where
  feasible : ∀ (view : View δ) iteration selected c d,
    ((problem.feasible { view with iteration } selected).perform c).1 =
      ((problem.feasible view selected).perform d).1
  score : ∀ (view : View δ) iteration selected candidate c d,
    ((problem.score { view with iteration } selected candidate).perform c).1 =
      ((problem.score view selected candidate).perform d).1

theorem Problem.Steady.agrees {problem : Problem σ δ α n} (steady : problem.Steady)
    (offset : Nat) : problem.Agrees offset (fun _ _ => True) problem where
  candidates := rfl
  label := rfl
  feasible _ _ view _ _ := ⟨steady.feasible view _ _ _ _, trivial⟩
  score _ _ view _ _ _ := ⟨steady.score view _ _ _ _ _, trivial⟩

theorem Memory.empty_over (memory : Memory n) : ({} : Memory n).over memory = memory := rfl

namespace Session

variable {s t : Session σ δ n} {problem : Problem σ δ α n}

def outcome (problem : Problem σ δ α n) (s : Session σ δ n) (calls : List (Call δ))
    (call : Call δ) : Outcome (Session σ δ n) (Reply n) :=
  (s.performAll problem calls).2.perform problem call

/-- Call for call, both sessions give the same answers and the same notices and find the same
solutions and reports, each adding them to what it remembered before. -/
def Echoes (problem : Problem σ δ α n) (s t : Session σ δ n) : Prop :=
  ∀ ⦃calls call⦄, (∀ c ∈ call :: calls, c.IsWhole) →
    (s.outcome problem calls call).answer = (t.outcome problem calls call).answer ∧
      (s.outcome problem calls call).notices = (t.outcome problem calls call).notices ∧
      ∃ found : Memory n,
        (s.outcome problem calls call).after.solver.memory = found.over s.solver.memory ∧
          (t.outcome problem calls call).after.solver.memory = found.over t.solver.memory

/-- The session without what it has counted, remembered and begun. -/
def renewed (s : Session σ δ n) : Session σ δ n :=
  { solver := { s.solver with iteration := 0, memory := {} } }

theorem alike_renewed (config : t.solver.config = s.solver.config)
    (data : t.solver.data = s.solver.data) (generator : t.solver.generator = s.solver.generator) :
    Session.Alike False t.solver.iteration (fun _ _ => True) t.solver.memory t s.renewed :=
  ⟨⟨config, data, generator, trivial, rfl, t.solver.memory.empty_over.symm⟩, nofun, nofun⟩

theorem outcome_alike (steady : problem.Steady) {calls : List (Call δ)} {call : Call δ}
    (whole : ∀ c ∈ call :: calls, c.IsWhole) {offset : Nat} {old : Memory n}
    (alike : Session.Alike False offset (fun _ _ => True) old s t) :
    Outcome.Alike Eq (Session.Alike False offset (fun _ _ => True) old) (s.outcome problem calls call)
      (t.outcome problem calls call) := by
  have unison := (steady.agrees offset).unison
  have before := (alike.performAll unison fun c member => .inl (whole c (.tail _ member))).2
  exact before.perform unison (.inl (whole call (.head _)))

/-- Sessions with the same configuration, data and generator cannot be told apart by whole calls. -/
theorem echoes_of_same (steady : problem.Steady) (config : t.solver.config = s.solver.config)
    (data : t.solver.data = s.solver.data) (generator : t.solver.generator = s.solver.generator) :
    s.Echoes problem t := by
  intro calls call whole
  -- Both sessions are compared with the one that has forgotten everything else.
  have left := outcome_alike steady whole (alike_renewed (s := s) (t := s) rfl rfl rfl)
  have right := outcome_alike steady whole (alike_renewed (s := s) config data generator)
  exact ⟨left.answer.eq.trans right.answer.eq.symm, left.notices.trans right.notices.symm, _,
    left.after.solver.memory, right.after.solver.memory⟩

end Session

/-! ## What calls do to the configuration -/

namespace Solver

variable {solver : Solver σ δ n} {config : Config} {seed : Value}

theorem reseed_eq_ok (answered : (solver.reseed seed).answer = .ok config) :
    solver.config.override [("seed", seed)] = .ok config ∧
      (solver.reseed seed).after = { solver with config, generator := .ofSeed config.seed } := by
  unfold reseed at answered ⊢
  cases overridden : solver.config.override [("seed", seed)] with
  | error fault =>
    rw [overridden] at answered
    cases answered
  | ok changed =>
    rw [overridden] at answered
    cases answered
    exact ⟨rfl, rfl⟩

/-- A reseed changes nothing of the configuration but the seed. -/
theorem config_reseed (solver : Solver σ δ n) (seed : Value) :
    ∃ seed', (solver.reseed seed).after.config = { solver.config with seed := seed' } := by
  unfold reseed
  cases absent : seed.isAbsent with
  | true =>
    rw [Value.eq_absent absent, Config.override_seed_absent]
    exact ⟨_, rfl⟩
  | false =>
    rw [Config.override_seed _ absent]
    cases Settings.checkSeed seed with
    | error fault => exact ⟨_, rfl⟩
    | ok number => exact ⟨number, rfl⟩

end Solver

namespace Session

theorem config_perform (problem : Problem σ δ α n) (s : Session σ δ n) (call : Call δ) :
    ∃ seed, (s.perform problem call).after.solver.config = { s.solver.config with seed } := by
  have same : ∃ seed, s.solver.config = { s.solver.config with seed } := ⟨_, rfl⟩
  cases call with
  | construct direction => exact same
  | setData data => exact same
  | newRun direction settings => exact same
  | reseed seed => exact s.solver.config_reseed seed
  | _ =>
    simp only [perform, Solver.draw, onRun]
    split
    · exact same
    · exact same

/-- No sequence of calls changes anything of the configuration but the seed. -/
theorem config_performAll (problem : Problem σ δ α n) (s : Session σ δ n) (calls : List (Call δ)) :
    ∃ seed, (s.performAll problem calls).2.solver.config = { s.solver.config with seed } := by
  induction calls generalizing s with
  | nil => exact ⟨_, rfl⟩
  | cons call rest ih =>
    obtain ⟨_, first⟩ := config_perform problem s call
    obtain ⟨seed, later⟩ := ih (s.perform problem call).after
    exact ⟨seed, later.trans (by rw [first])⟩

theorem solver_reseed (problem : Problem σ δ α n) (s : Session σ δ n) (seed : Value) :
    (s.perform problem (.reseed seed)).after.solver = (s.solver.reseed seed).after := rfl

/-! ## Main result -/

/-- Whole calls depend on the configuration, the data and the generator of a solver alone.  So
after any calls a solver with a new seed goes on like a new solver that was set up with this seed, and
one whose configuration has not changed goes on after a renewal like at the beginning. -/
theorem runs_do_not_leak {setup : Setup σ δ α} {defaults : Settings} {prepared : Prepared σ δ α}
    (built : setup.prepare defaults = .ok prepared) (steady : prepared.problem.Steady) :
    (∀ s t : Session σ δ prepared.size, t.solver.config = s.solver.config →
      t.solver.data = s.solver.data → t.solver.generator = s.solver.generator →
      s.Echoes prepared.problem t) ∧
    ∀ history : List (Call δ),
      let s := (performAll prepared.problem { solver := prepared.solver } history).2
      (∀ seed config, seed.isAbsent = false →
        (s.perform prepared.problem (.reseed seed)).answer = .ok (.config config) →
        ∃ fresh : Solver σ δ prepared.size,
          { setup with
              fields := setup.fields.reseeded seed, data := s.solver.data }.prepare defaults =
            .ok { prepared with solver := fresh } ∧
          (s.perform prepared.problem (.reseed seed)).after.Echoes prepared.problem
            { solver := fresh }) ∧
      (s.solver.config = prepared.solver.config → s.solver.data = prepared.solver.data →
        (s.perform prepared.problem (.reseed .absent)).answer = .ok (.config s.solver.config) ∧
          (s.perform prepared.problem (.reseed .absent)).after.Echoes prepared.problem
            { solver := prepared.solver }) := by
  refine ⟨fun s t => echoes_of_same steady, fun history => ?_⟩
  intro s
  obtain ⟨_, kept⟩ := config_performAll prepared.problem { solver := prepared.solver } history
  have begun := Setup.solver_of_prepare built
  constructor
  · intro seed config present answered
    obtain ⟨_, reseeded, same⟩ := map_eq_ok.1 answered
    cases same
    obtain ⟨overridden, after⟩ := Solver.reseed_eq_ok reseeded
    rw [Config.override_seed _ present] at overridden
    obtain ⟨number, checked, renewed⟩ := map_eq_ok.1 overridden
    refine ⟨_, Setup.prepare_reseeded s.solver.data built present checked, ?_⟩
    -- Up to the seed, the configuration is still the one that was set up.
    have same : config = { prepared.solver.config with seed := number } :=
      renewed.symm.trans (by rw [kept])
    have now := (solver_reseed prepared.problem s seed).trans after
    refine echoes_of_same steady ?_ ?_ ?_
    · rw [now, same]
      rfl
    · rw [now]
      rfl
    · rw [now, same]
      rfl
  · intro unchanged data
    have reseeded : (s.solver.reseed .absent).answer = .ok s.solver.config := by
      rw [Solver.reseed, Config.override_seed_absent]
    have now := (solver_reseed prepared.problem s .absent).trans (Solver.reseed_eq_ok reseeded).2
    have generator : prepared.solver.generator = .ofSeed prepared.solver.config.seed :=
      congrArg Solver.generator begun
    refine ⟨congrArg (Except.map Reply.config) reseeded, echoes_of_same steady ?_ ?_ ?_⟩
    · rw [now]
      exact unchanged.symm
    · rw [now]
      exact data.symm
    · rw [now, generator, unchanged]

end Session

def Setup.threeNumbers : Setup Unit Unit Value where
  feasible := some fun _ selected => pure (decide (2 ≤ selected.length))
  score := some fun _ _ _ => pure (.int 0)
  candidates := .range 0 3 1
  element _ value := value
  label := Value.written
  data := ()
  caller := ()
  basis := .defaults
  fields := [("alpha", .int 2)]

/-- After a greedy run, a full run and a phase by hand, a solver of three numbers goes on with the
seed seven like a new one that was set up with it. -/
theorem runs_do_not_leak_of_three_numbers :
    ∃ prepared, Setup.threeNumbers.prepare .builtin = .ok prepared ∧
      let s := (Session.performAll prepared.problem { solver := prepared.solver }
        [.construct .minimize, .optimize .maximize .absent .absent, .newRun .minimize none,
          .phase 0 .construction]).2
      ∃ fresh : Solver Unit Unit prepared.size,
        { Setup.threeNumbers with fields := [("alpha", .int 2), ("seed", .int 7)] }.prepare
            .builtin = .ok { prepared with solver := fresh } ∧
          (s.perform prepared.problem (.reseed (.int 7))).after.Echoes prepared.problem
            { solver := fresh } := by
  have succeeds : (Setup.threeNumbers.prepare .builtin).toOption.isSome = true := by
    decide +kernel
  cases built : Setup.threeNumbers.prepare .builtin with
  | error fault =>
    rw [built] at succeeds
    cases succeeds
  | ok prepared =>
    have steady : prepared.problem.Steady := by
      obtain ⟨_, _, _, _, _, _, _, test, rating, _, _, rfl⟩ := Setup.prepare_eq_ok.1 built
      cases test
      cases rating
      exact ⟨fun _ _ _ _ _ => rfl, fun _ _ _ _ _ _ => rfl⟩
    refine ⟨prepared, rfl, ?_⟩
    intro s
    have reseeded : (s.perform prepared.problem (.reseed (.int 7))).answer =
        .ok (.config { s.solver.config with seed := 7 }) := by
      show (s.solver.reseed (.int 7)).answer.map Reply.config = _
      rw [Solver.reseed, Config.override_seed _ rfl]
      rfl
    exact ((Session.runs_do_not_leak built steady).2 _).1 _ _ rfl reseeded

end Carousel
