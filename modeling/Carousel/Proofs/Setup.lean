import Carousel.Proofs.Settings
import Carousel.Solver

/-!
# Setups with another seed

A setup that succeeds also succeeds with another seed in the place of its own, and leads to the same
problem and to a solver that differs in its seed alone.
-/

namespace Carousel

variable {σ δ α : Type}

def Fields.reseeded (fields : Fields) (seed : Value) : Fields :=
  fields.filter (fun field => field.1 != "seed") ++ [("seed", seed)]

namespace Settings

variable {s t : Settings} {form : Form} {fields : Fields} {seed : Value}

/-! ## Names -/

theorem refusal_eq_ok {refused : String × Value → Bool} {fault : String × Value → Fault} :
    (match fields.find? refused with
      | some field => .error (fault field)
      | none => .ok () : Except Fault Unit) = .ok () ↔
      ∀ field ∈ fields, refused field = false := by
  split
  · rename_i field found
    have member := List.mem_of_find?_eq_some found
    have contained := List.find?_some found
    constructor
    · intro impossible
      cases impossible
    · intro others
      rw [others field member] at contained
      cases contained
  · rename_i nothing
    simpa using nothing

theorem requireOpen_eq_ok :
    requireOpen form fields = .ok () ↔ ∀ field ∈ fields, form.filled.contains field.1 = false :=
  refusal_eq_ok

theorem requireSingle_eq_ok :
    requireSingle form fields = .ok () ↔ ∀ field ∈ fields, form.fixed.contains field.1 = false :=
  refusal_eq_ok

theorem forall_mem_reseeded {p : String → Prop} (others : ∀ field ∈ fields, p field.1)
    (own : p "seed") : ∀ field ∈ fields.reseeded seed, p field.1 := by
  intro field member
  rcases List.mem_append.1 member with old | new
  · exact others field (List.mem_filter.1 old).1
  · rw [List.mem_singleton.1 new]
    exact own

theorem given_reseeded (present : seed.isAbsent = false) :
    given (fields.reseeded seed) = (given fields).reseeded seed := by
  simp [given, Fields.reseeded, present, List.filter_filter, Bool.and_comm]

/-! ## Values -/

theorem set?_of_ne_seed {name : String} {value : Value} (other : name ≠ "seed") :
    { s with seed }.set? name value = (s.set? name value).map fun t => { t with seed } := by
  unfold set?
  split <;> first | rfl | exact absurd rfl other

theorem assign_reseeded (first seed : Value) (assigned : s.assign form fields = .ok t) :
    { s with seed := first }.assign form (fields.reseeded seed) = .ok { t with seed } := by
  induction fields generalizing s first with
  | nil =>
    cases assigned
    rfl
  | cons field rest ih =>
    obtain ⟨name, value⟩ := field
    rw [assign] at assigned
    by_cases own : name = "seed"
    · -- The old seed is left out, and whatever it was plays no part in the rest.
      subst own
      have dropped : Fields.reseeded (("seed", value) :: rest) seed = Fields.reseeded rest seed := by
        simp [Fields.reseeded]
      rw [dropped]
      exact ih (s := { s with seed := value }) first assigned
    · have kept : Fields.reseeded ((name, value) :: rest) seed =
          (name, value) :: Fields.reseeded rest seed := by
        simp [Fields.reseeded, own]
      rw [kept, assign, set?_of_ne_seed own]
      cases replaced : s.set? name value with
      | none =>
        rw [replaced] at assigned
        cases assigned
      | some changed =>
        rw [replaced] at assigned
        exact ih first assigned

theorem validate_reseeded {config : Config} {number : Nat} (valid : t.validate = .ok config)
    (checked : checkSeed seed = .ok number) :
    { t with seed }.validate = .ok { config with seed := number } := by
  unfold validate at valid
  simp only [bind_eq_ok] at valid
  obtain ⟨alpha, isAlpha, beta, isBeta, _, _, tieBreak, isTieBreak, configured⟩ := valid
  cases configured
  simp only [validate, isAlpha, isBeta, checked, isTieBreak, bind, Except.bind, pure, Except.pure]

theorem resolve_reseeded {config : Config} {number : Nat} (resolved : s.resolve fields = .ok config)
    (present : seed.isAbsent = false) (checked : checkSeed seed = .ok number) :
    s.resolve (fields.reseeded seed) = .ok { config with seed := number } := by
  unfold resolve at resolved ⊢
  obtain ⟨_, opened, rest⟩ := bind_eq_ok.1 resolved
  obtain ⟨settings, assigned, valid⟩ := bind_eq_ok.1 rest
  have stillOpen : requireOpen .resolve (fields.reseeded seed) = .ok () :=
    requireOpen_eq_ok.2 (forall_mem_reseeded (p := fun name => Form.resolve.filled.contains name = false)
      (requireOpen_eq_ok.1 opened) rfl)
  refine bind_eq_ok.2 ⟨(), stillOpen, bind_eq_ok.2 ⟨{ settings with seed }, ?_, ?_⟩⟩
  · rw [given_reseeded present]
    exact assign_reseeded s.seed seed assigned
  · exact validate_reseeded valid checked

end Settings

theorem Config.override_reseeded {stored config : Config} {fields : Fields} {seed : Value}
    {number : Nat} (overridden : stored.override fields = .ok config)
    (present : seed.isAbsent = false) (checked : Settings.checkSeed seed = .ok number) :
    stored.override (fields.reseeded seed) = .ok { config with seed := number } := by
  unfold override at overridden ⊢
  obtain ⟨_, opened, replaced⟩ := bind_eq_ok.1 overridden
  have stillOpen : Settings.requireOpen .override (fields.reseeded seed) = .ok () :=
    Settings.requireOpen_eq_ok.2 (Settings.forall_mem_reseeded
      (p := fun name => Form.override.filled.contains name = false)
      (Settings.requireOpen_eq_ok.1 opened) rfl)
  refine bind_eq_ok.2 ⟨(), stillOpen, ?_⟩
  rw [Settings.given_reseeded present]
  -- Without any fields nothing is assigned, and the stored settings pass the check again.
  have assigned : ∃ settings, stored.toSettings.assign .solver (Settings.given fields) =
      .ok settings ∧ settings.validate = .ok config := by
    split at replaced
    · rename_i nothing
      rw [nothing]
      cases replaced
      exact ⟨_, rfl, stored.validate_toSettings⟩
    · exact bind_eq_ok.1 replaced
  obtain ⟨settings, assigned, valid⟩ := assigned
  have again := Settings.assign_reseeded stored.toSettings.seed seed assigned
  split
  · rename_i nothing
    simp [Fields.reseeded] at nothing
  · exact bind_eq_ok.2 ⟨_, again, Settings.validate_reseeded valid checked⟩

namespace Setup

variable {setup : Setup σ δ α} {defaults : Settings} {seed : Value} {number : Nat}

theorem resolve_reseeded {config : Config} (resolved : setup.resolve defaults = .ok config)
    (data : δ) (present : seed.isAbsent = false) (checked : Settings.checkSeed seed = .ok number) :
    { setup with fields := setup.fields.reseeded seed, data }.resolve defaults =
      .ok { config with seed := number } := by
  unfold resolve at resolved ⊢
  cases basis : setup.basis with
  | defaults =>
    rw [basis] at resolved
    exact Settings.resolve_reseeded resolved present checked
  | settings settings =>
    rw [basis] at resolved
    obtain ⟨own, valid, overridden⟩ := bind_eq_ok.1 resolved
    exact bind_eq_ok.2 ⟨own, valid, Config.override_reseeded overridden present checked⟩
  | other value =>
    rw [basis] at resolved
    cases resolved

/-- What a setup needs to succeed, and what it then leads to. -/
theorem prepare_eq_ok {prepared : Prepared σ δ α} :
    setup.prepare defaults = .ok prepared ↔
      Settings.requireSingle .setup setup.fields = .ok () ∧
      (∃ known, Settings.builtin.assign .setup setup.fields = .ok known) ∧
      ∃ feasible score config size found, setup.feasible = some feasible ∧
        setup.score = some score ∧ setup.resolve defaults = .ok config ∧
        Universe.ofValue setup.candidates = .ok ⟨size, found⟩ ∧
        prepared = {
          size
          problem := {
            candidates := found.relabel fun position value => setup.element position value
            feasible, score, label := setup.label }
          solver := .fresh config setup.data setup.caller } := by
  unfold prepare
  constructor
  · intro built
    obtain ⟨_, single, built⟩ := bind_eq_ok.1 built
    obtain ⟨known, assigned, built⟩ := bind_eq_ok.1 built
    refine ⟨single, ⟨known, assigned⟩, ?_⟩
    cases test : setup.feasible with
    | none =>
      rw [test] at built
      cases built
    | some feasible =>
      cases rating : setup.score with
      | none =>
        rw [test, rating] at built
        cases built
      | some score =>
        rw [test, rating] at built
        obtain ⟨config, resolved, built⟩ := bind_eq_ok.1 built
        obtain ⟨⟨size, found⟩, formed, built⟩ := bind_eq_ok.1 built
        cases built
        exact ⟨feasible, score, config, size, found, rfl, rfl, resolved, formed, rfl⟩
  · rintro ⟨single, ⟨known, assigned⟩, feasible, score, config, size, found, test, rating, resolved,
      formed, rfl⟩
    simp only [single, assigned, test, rating, resolved, formed, bind, Except.bind, pure, Except.pure]

/-- A solver that was set up has not done anything. -/
theorem solver_of_prepare {prepared : Prepared σ δ α}
    (built : setup.prepare defaults = .ok prepared) :
    prepared.solver = .fresh prepared.solver.config setup.data setup.caller := by
  obtain ⟨_, _, _, _, _, _, _, _, _, _, _, rfl⟩ := prepare_eq_ok.1 built
  rfl

/-- A setup that succeeds also succeeds with another valid seed. -/
theorem prepare_reseeded {prepared : Prepared σ δ α} (data : δ)
    (built : setup.prepare defaults = .ok prepared) (present : seed.isAbsent = false)
    (checked : Settings.checkSeed seed = .ok number) :
    { setup with fields := setup.fields.reseeded seed, data }.prepare defaults =
      .ok { prepared with
        solver := .fresh { prepared.solver.config with seed := number } data setup.caller } := by
  obtain ⟨single, ⟨known, assigned⟩, feasible, score, config, size, found, test, rating, resolved,
    formed, rfl⟩ := prepare_eq_ok.1 built
  have stillSingle : Settings.requireSingle .setup (setup.fields.reseeded seed) = .ok () :=
    Settings.requireSingle_eq_ok.2 (Settings.forall_mem_reseeded
      (p := fun name => Form.setup.fixed.contains name = false)
      (Settings.requireSingle_eq_ok.1 single) rfl)
  have stillKnown := Settings.assign_reseeded Settings.builtin.seed seed assigned
  exact prepare_eq_ok.2 ⟨stillSingle, ⟨_, stillKnown⟩, feasible, score, _, size, found, test, rating,
    resolve_reseeded resolved data present checked, formed, rfl⟩

end Setup

end Carousel
