import Carousel.Proofs.Isolation
import Carousel.Proofs.Overrides

/-!
# Resolving configurations

Settings are merged name by name, and only the last value given to a name counts.  So it makes no
difference whether defaults are merged first and checked afterwards, or checked first and overridden
afterwards, nor whether values come one after the other or all at once.
-/

namespace Carousel

open Settings (given parameters)

/-! ## Last values -/

namespace Fields

variable {fields rest : Fields} {name : String} {value : Value}

def Known (fields : Fields) : Prop := ∀ field ∈ fields, field.1 ∈ parameters

def last? (fields : Fields) (name : String) : Option Value :=
  (fields.reverse.find? fun field => field.1 == name).map (·.2)

theorem Known.given (known : fields.Known) : Known (given fields) := by
  intro field member
  exact known field (List.mem_filter.1 member).1

theorem last?_cons (field : String × Value) (rest : Fields) (name : String) :
    last? (field :: rest) name =
      (last? rest name).or (if field.1 = name then some field.2 else none) := by
  by_cases same : field.1 = name <;> simp [last?, List.find?_append, same]

theorem last?_eq_none_iff : fields.last? name = none ↔ ∀ field ∈ fields, field.1 ≠ name := by
  simp [last?]

theorem mem_of_last? (found : fields.last? name = some value) : (name, value) ∈ fields := by
  rw [last?, Option.map_eq_some_iff] at found
  obtain ⟨⟨name', value'⟩, found, rfl⟩ := found
  have same : name' = name := by simpa using List.find?_some found
  exact same ▸ List.mem_reverse.1 (List.mem_of_find?_eq_some found)

/-- If a name is given one value only, this is the last one. -/
theorem last?_of_unique (member : (name, value) ∈ fields)
    (unique : ∀ other, (name, other) ∈ fields → other = value) :
    fields.last? name = some value := by
  cases found : fields.last? name with
  | none => exact absurd rfl (last?_eq_none_iff.1 found _ member)
  | some other => rw [unique other (mem_of_last? found)]

/-- The last value that overrides give to a name, the absent one if there is none. -/
def lastGiven (chain : List Fields) (name : String) : Value :=
  (last? (given chain.flatten) name).getD .absent

def merged (chain : List Fields) : Fields := parameters.map fun name => (name, lastGiven chain name)

theorem known_merged (chain : List Fields) : Known (merged chain) := by
  intro field member
  obtain ⟨name, known, rfl⟩ := List.mem_map.1 member
  exact known

theorem mem_given_iff {field : String × Value} :
    field ∈ given fields ↔ field ∈ fields ∧ field.2.isAbsent = false := by
  simp [given]

theorem last?_merged (chain : List Fields) (known : name ∈ parameters) :
    last? (given (merged chain)) name = last? (given chain.flatten) name := by
  -- A merged call gives a parameter once, with the last value that the chain gives it.
  have own {value : Value} (member : (name, value) ∈ merged chain) :
      value = lastGiven chain name := by
    obtain ⟨other, _, same⟩ := List.mem_map.1 member
    cases same
    rfl
  cases found : last? (given chain.flatten) name with
  | none =>
    apply last?_eq_none_iff.2
    intro ⟨other, value⟩ member same
    cases same
    obtain ⟨member, present⟩ := mem_given_iff.1 member
    have absent : value = .absent := by rw [own member, lastGiven, found, Option.getD_none]
    cases absent
    cases present
  | some value =>
    have given : lastGiven chain name = value := by rw [lastGiven, found, Option.getD_some]
    have present := (mem_given_iff.1 (mem_of_last? found)).2
    apply last?_of_unique
    · exact mem_given_iff.2 ⟨List.mem_map.2 ⟨name, known, by rw [given]⟩, present⟩
    · intro other member
      rw [own (mem_given_iff.1 member).1, given]

end Fields

/-! ## Merging -/

namespace Settings

variable {s t : Settings} {form : Form} {fields rest : Fields} {name other : String} {value : Value}
  {config : Config}

def lookup (s : Settings) (name : String) : Value :=
  match name with
  | "alpha" => s.alpha
  | "beta" => s.beta
  | "seed" => s.seed
  | "random_tie_break" => s.randomTieBreak
  | "verbose" => s.verbose
  | _ => .absent

theorem ext_lookup (same : ∀ name ∈ parameters, s.lookup name = t.lookup name) : s = t := by
  simp only [parameters, List.forall_mem_cons] at same
  obtain ⟨alpha, beta, seed, tieBreak, verbose, _⟩ := same
  cases s
  cases t
  simp_all [lookup]

theorem eq_of_mem_parameters (known : name ∈ parameters) : name = "alpha" ∨ name = "beta" ∨
    name = "seed" ∨ name = "random_tie_break" ∨ name = "verbose" := by
  simpa [parameters] using known

theorem set?_of_known (known : name ∈ parameters) (s : Settings) (value : Value) :
    s.set? name value = some (s.put name value) := by
  obtain rfl | rfl | rfl | rfl | rfl := eq_of_mem_parameters known <;> rfl

theorem lookup_put (known : name ∈ parameters) (known' : other ∈ parameters) (s : Settings)
    (value : Value) :
    (s.put name value).lookup other = if name = other then value else s.lookup other := by
  obtain rfl | rfl | rfl | rfl | rfl := eq_of_mem_parameters known <;>
    obtain rfl | rfl | rfl | rfl | rfl := eq_of_mem_parameters known' <;> rfl

def putAll (s : Settings) (fields : Fields) : Settings :=
  fields.foldl (fun s field => s.put field.1 field.2) s

theorem putAll_append (s : Settings) (fields rest : Fields) :
    s.putAll (fields ++ rest) = (s.putAll fields).putAll rest := List.foldl_append

theorem assign_of_known (known : fields.Known) (form : Form) (s : Settings) :
    s.assign form fields = .ok (s.putAll fields) := by
  induction fields generalizing s with
  | nil => rfl
  | cons field rest ih =>
    obtain ⟨first, others⟩ := List.forall_mem_cons.1 known
    rw [assign, set?_of_known first]
    exact ih others _

theorem lookup_putAll (known : fields.Known) (member : name ∈ parameters) (s : Settings) :
    (s.putAll fields).lookup name = (fields.last? name).getD (s.lookup name) := by
  induction fields generalizing s with
  | nil => rfl
  | cons field rest ih =>
    obtain ⟨first, others⟩ := List.forall_mem_cons.1 known
    -- What is put first counts only if nothing is put later.
    have later : ((s.put field.1 field.2).putAll rest).lookup name = _ := ih others _
    rw [lookup_put first member] at later
    rw [Fields.last?_cons, putAll, List.foldl_cons]
    refine later.trans ?_
    by_cases same : field.1 = name <;> cases Fields.last? rest name <;> simp [same]

/-- Merging depends on the last values alone. -/
theorem putAll_congr (known : fields.Known) (known' : rest.Known)
    (same : ∀ name ∈ parameters, fields.last? name = rest.last? name) (s : Settings) :
    s.putAll fields = s.putAll rest := by
  apply ext_lookup
  intro name member
  rw [lookup_putAll known member, lookup_putAll known' member, same name member]

/-! ## Checking -/

theorem eq_of_checkAlpha_ok {alpha : { alpha : Nat // 0 < alpha }}
    (checked : checkAlpha value = .ok alpha) : value = .int alpha.val := by
  obtain rfl | ⟨i, positive, rfl⟩ := alphaFits_iff.2 (.inr ⟨alpha, checked⟩)
  · cases checked
  · obtain ⟨multiplier, rfl⟩ := Int.eq_ofNat_of_zero_le (by omega : 0 ≤ i)
    rw [checkAlpha_int multiplier (by omega)] at checked
    rw [← Except.ok.inj checked]

theorem eq_of_checkBeta_ok {beta : Share} (checked : checkBeta value = .ok beta) :
    value = beta.number.toValue := by
  obtain rfl | ⟨number, least, most, rfl⟩ := betaFits_of_checkBeta checked
  · cases checked
  · have passed : checkBeta number.toValue = .ok ⟨number, least, most⟩ :=
      checkBeta_toValue ⟨number, least, most⟩
    cases passed.symm.trans checked
    rfl

theorem eq_of_checkSeed_ok {seed : Nat} (checked : checkSeed value = .ok seed) :
    value = .int seed := by
  unfold checkSeed at checked
  split at checked
  · split at checked
    · cases checked
      simp [Int.toNat_of_nonneg ‹_›]
    · cases checked
  · cases checked

/-- A check changes no value. -/
theorem toSettings_of_validate (valid : s.validate = .ok config) : config.toSettings = s := by
  simp only [validate, bind_eq_ok] at valid
  obtain ⟨alpha, isAlpha, beta, isBeta, seed, isSeed, tieBreak, isTieBreak, same⟩ := valid
  cases same
  cases s
  simp only [Config.toSettings, mk.injEq]
  exact ⟨(eq_of_checkAlpha_ok isAlpha).symm, (eq_of_checkBeta_ok isBeta).symm,
    (eq_of_checkSeed_ok isSeed).symm, (checkTieBreak_eq_ok isTieBreak).symm, trivial⟩

theorem requireOpen_of_known (known : fields.Known)
    (free : ∀ name ∈ parameters, name ∉ form.filled) :
    requireOpen form fields = .ok () := by
  apply requireOpen_eq_ok.2
  intro field member
  simpa using free field.1 (known field member)

/-- Defaults are merged first, and then checked. -/
theorem resolve_of_known (known : fields.Known) (defaults : Settings) :
    defaults.resolve fields = (defaults.putAll (given fields)).validate := by
  rw [resolve, requireOpen_of_known known (by decide), assign_of_known known.given]
  rfl

/-- Nothing is left unchecked where nothing is given: what is there has been checked already. -/
theorem override_of_known (known : fields.Known) (config : Config) :
    config.override fields = (config.toSettings.putAll (given fields)).validate := by
  rw [Config.override, requireOpen_of_known known (by decide)]
  cases changes : given fields with
  | nil => exact config.validate_toSettings.symm
  | cons field rest =>
    show (config.toSettings.assign .solver (field :: rest) >>= validate) = _
    rw [← changes, assign_of_known known.given]
    rfl

theorem resolve_eq_override (valid : s.validate = .ok config) (known : fields.Known) :
    s.resolve fields = config.override fields := by
  rw [resolve_of_known known, override_of_known known, toSettings_of_validate valid]

theorem kind_of_validate {fault : Fault} (refused : s.validate = .error fault) :
    fault.kind = .configuration := by
  obtain rfl | rfl | rfl | rfl := refused_of_validate refused <;> rfl

end Settings

/-! ## Chains of overrides -/

namespace Config

variable {config last : Config} {chain : List Fields}

theorem validate_of_chain (known : ∀ fields ∈ chain, Fields.Known fields)
    (overridden : chain.foldlM override config = .ok last) :
    (config.toSettings.putAll (given chain.flatten)).validate = .ok last := by
  induction chain generalizing config with
  | nil =>
    cases overridden
    exact validate_toSettings _
  | cons fields rest ih =>
    obtain ⟨first, others⟩ := List.forall_mem_cons.1 known
    rw [List.foldlM_cons] at overridden
    obtain ⟨middle, changed, later⟩ := bind_eq_ok.1 overridden
    rw [Settings.override_of_known first] at changed
    have merged : given (fields :: rest).flatten = given fields ++ given rest.flatten := by
      simp [given]
    -- What has been checked is what the next override starts from.
    rw [merged, Settings.putAll_append, ← Settings.toSettings_of_validate changed]
    exact ih others later

theorem override_merged (known : ∀ fields ∈ chain, Fields.Known fields)
    (overridden : chain.foldlM override config = .ok last) :
    config.override (Fields.merged chain) = .ok last := by
  have flat : Fields.Known chain.flatten := by
    intro field member
    obtain ⟨fields, inside, member⟩ := List.mem_flatten.1 member
    exact known fields inside field member
  have merged := Fields.known_merged chain
  rw [Settings.override_of_known merged, ← validate_of_chain known overridden]
  congr 1
  apply Settings.putAll_congr merged.given flat.given
  intro name member
  exact Fields.last?_merged chain member

end Config

/-! ## Stored configurations -/

namespace Session

variable {σ δ α : Type} {n : Nat} {problem : Problem σ δ α n} {s : Session σ δ n}

theorem config_perform_of_kept (problem : Problem σ δ α n) (s : Session σ δ n) {call : Call δ}
    (kept : ∀ seed, call ≠ .reseed seed) :
    (s.perform problem call).after.solver.config = s.solver.config := by
  have only : ∀ other ∈ [call], ∀ seed, other ≠ .reseed seed := by simpa using kept
  exact config_performAll_of_kept problem s only

/-- A refused seed leaves everything as it is. -/
theorem refused_reseed {seed : Value} {fault : Fault}
    (refused : (s.perform problem (.reseed seed)).answer = .error fault) :
    fault = .badSeed seed ∧ (s.perform problem (.reseed seed)).after = s := by
  have refused : (s.solver.reseed seed).answer = .error fault := map_eq_error.1 refused
  simp only [perform, ofOutcome, Solver.reseed] at refused ⊢
  -- Without a seed the stored one stays, which is never refused.
  cases absent : seed.isAbsent with
  | true =>
    rw [Value.eq_absent absent, Config.override_seed_absent] at refused
    cases refused
  | false =>
    rw [Config.override_seed _ absent] at refused ⊢
    cases checked : Settings.checkSeed seed with
    | ok number =>
      rw [checked] at refused
      cases refused
    | error cause =>
      rw [checked] at refused
      cases refused
      exact ⟨Settings.eq_of_checkSeed checked, rfl⟩

/-- Defaults that pass the checks may be merged with other values before the checks or after them,
and overrides may come one by one or all at once.  So the configuration of a solver is checked at
all times, and only a seed that is accepted changes it. -/
theorem resolution_stays_valid :
    (∀ (defaults : Settings) (config : Config) (fields : Fields),
      defaults.validate = .ok config → fields.Known →
        (defaults.resolve fields = do (← defaults.validate).override fields) ∧
        ∀ fault, defaults.resolve fields = .error fault → fault.kind = .configuration) ∧
    (∀ (config last : Config) (chain : List Fields), (∀ fields ∈ chain, Fields.Known fields) →
      chain.foldlM Config.override config = .ok last →
        config.override (Fields.merged chain) = .ok last) ∧
    ∀ (setup : Setup σ δ α) (defaults : Settings) (prepared : Prepared σ δ α)
        (calls : List (Call δ)),
      setup.prepare defaults = .ok prepared →
        setup.resolve defaults = .ok prepared.solver.config ∧
        let s := (performAll prepared.problem { solver := prepared.solver } calls).2
        s.solver.config.toSettings.validate = .ok s.solver.config ∧
        (∃ seed, s.solver.config = { prepared.solver.config with seed }) ∧
        (∀ seed fault, (s.perform prepared.problem (.reseed seed)).answer = .error fault →
          fault.kind = .configuration ∧ (s.perform prepared.problem (.reseed seed)).after = s) ∧
        ∀ call, (∀ seed, call ≠ .reseed seed) →
          (s.perform prepared.problem call).after.solver.config = s.solver.config := by
  refine ⟨?_, fun config last chain => Config.override_merged, ?_⟩
  · intro defaults config fields valid known
    rw [valid]
    refine ⟨Settings.resolve_eq_override valid known, fun fault refused => ?_⟩
    rw [Settings.resolve_of_known known] at refused
    exact Settings.kind_of_validate refused
  · intro setup defaults prepared calls built
    obtain ⟨_, _, _, _, _, _, _, _, _, resolved, _, rfl⟩ := Setup.prepare_eq_ok.1 built
    refine ⟨resolved, Config.validate_toSettings _, config_performAll _ _ calls, ?_, ?_⟩
    · intro seed fault refused
      obtain ⟨rfl, unchanged⟩ := refused_reseed refused
      exact ⟨rfl, unchanged⟩
    · intro call kept
      exact config_perform_of_kept _ _ kept

/-- A solver of three numbers after a good seed, a bad one and a run that is refused, and the
built-in settings under two overrides of the multiplier. -/
theorem resolution_stays_valid_of_three_numbers :
    let fields : Fields := [("alpha", .int 3), ("beta", .absent)]
    let chain : List Fields := [fields, [("alpha", .int 5), ("seed", .absent)]]
    (∃ config last, Settings.builtin.validate = .ok config ∧
      Settings.builtin.resolve fields = config.override fields ∧
      chain.foldlM Config.override config = .ok last ∧
      config.override (Fields.merged chain) = .ok last) ∧
    ∃ prepared, Setup.threeNumbers.prepare .builtin = .ok prepared ∧
      let s := (performAll prepared.problem { solver := prepared.solver }
        [.reseed (.int 7), .reseed (.text "7"), .optimize .maximize (.int 0) .absent]).2
      s.solver.config.toSettings.validate = .ok s.solver.config ∧
        (s.perform prepared.problem (.construct .minimize)).after.solver.config =
          s.solver.config := by
  intro fields chain
  obtain ⟨agree, chains, stays⟩ := resolution_stays_valid (σ := Unit) (δ := Unit) (α := Value)
  constructor
  · have succeeds : (Settings.builtin.validate >>= chain.foldlM Config.override).toOption.isSome =
        true := by decide +kernel
    obtain ⟨last, found⟩ := Option.isSome_iff_exists.1 succeeds
    obtain ⟨config, valid, overridden⟩ := bind_eq_ok.1 (eq_ok_of_toOption found)
    have known : ∀ fields ∈ chain, Fields.Known fields := by
      simp only [chain, fields, Fields.Known, List.forall_mem_cons]
      decide
    obtain ⟨same, _⟩ := agree _ config fields valid (known fields (.head _))
    rw [valid] at same
    exact ⟨config, last, valid, same, overridden, chains config last chain known overridden⟩
  · cases built : Setup.threeNumbers.prepare .builtin with
    | error fault =>
      have succeeds : (Setup.threeNumbers.prepare .builtin).toOption.isSome = true := by
        decide +kernel
      rw [built] at succeeds
      cases succeeds
    | ok prepared =>
      obtain ⟨_, valid, _, _, kept⟩ := stays _ _ _
        [.reseed (.int 7), .reseed (.text "7"), .optimize .maximize (.int 0) .absent] built
      exact ⟨prepared, rfl, valid, kept _ nofun⟩

end Session

end Carousel
