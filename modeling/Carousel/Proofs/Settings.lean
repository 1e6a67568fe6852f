import Carousel.Proofs.Except
import Carousel.Settings.Basic

/-!
# Overrides of configurations

Settings that are replaced by name keep what no name replaces, and a configuration has what its
settings had.  So a configuration whose multiplier and share are overridden keeps the rest, and the
only faults of an override are those of a name or of a value that is out of range.
-/

namespace Carousel

/-- A fault of settings: a name has no place, or a value is out of range. -/
def Fault.isSetting : Fault → Bool
  | .filledName .. | .unknownName .. => true
  | .badAlpha _ | .badBeta _ | .badSeed _ | .badTieBreak _ => true
  | _ => false

theorem Value.eq_absent {value : Value} (absent : value.isAbsent = true) : value = .absent := by
  unfold isAbsent at absent
  split at absent
  · rfl
  · cases absent

namespace Settings

variable {s t : Settings} {form : Form}

def parameters : List String := ["alpha", "beta", "seed", "random_tie_break", "verbose"]

/-- The settings differ at most in the multiplier and the share. -/
structure Retuned (s t : Settings) : Prop where
  seed : t.seed = s.seed
  randomTieBreak : t.randomTieBreak = s.randomTieBreak
  verbose : t.verbose = s.verbose

theorem retuned_of_assign {fields : Fields}
    (named : ∀ field ∈ fields, field.1 = "alpha" ∨ field.1 = "beta")
    (assigned : s.assign form fields = .ok t) : Retuned s t := by
  induction fields generalizing s with
  | nil =>
    cases assigned
    exact ⟨rfl, rfl, rfl⟩
  | cons field rest ih =>
    obtain ⟨name, value⟩ := field
    have others : ∀ field ∈ rest, field.1 = "alpha" ∨ field.1 = "beta" :=
      fun field member => named field (.tail _ member)
    cases named (name, value) (.head _) with
    | inl isAlpha =>
      cases isAlpha
      have later : Retuned { s with alpha := value } t := ih others assigned
      exact ⟨later.seed, later.randomTieBreak, later.verbose⟩
    | inr isBeta =>
      cases isBeta
      have later : Retuned { s with beta := value } t := ih others assigned
      exact ⟨later.seed, later.randomTieBreak, later.verbose⟩

/-! ## Checks -/

@[simp] theorem checkAlpha_int (alpha : Nat) (positive : 0 < alpha) :
    checkAlpha (.int alpha) = .ok ⟨alpha, positive⟩ := by
  simp [checkAlpha, positive]

@[simp] theorem checkBeta_toValue (beta : Share) : checkBeta beta.number.toValue = .ok beta := by
  obtain ⟨number, least, most⟩ := beta
  cases number with
  | int i => simp [checkBeta, Number.toValue, Share.ofNumber?, least, most]
  | real x => simp [checkBeta, Number.toValue, Share.ofNumber?, least, most]

theorem countOf_of_checkBeta {s : Settings} {beta : Share} (checked : checkBeta s.beta = .ok beta)
    (size : Nat) : s.countOf size = .ok (beta.countOf size) := by
  rw [countOf, checked]

@[simp] theorem countOf_toSettings (config : Config) (size : Nat) :
    config.toSettings.countOf size = .ok (config.beta.countOf size) :=
  countOf_of_checkBeta (checkBeta_toValue config.beta) size

@[simp] theorem checkSeed_int (seed : Nat) : checkSeed (.int seed) = .ok seed := by
  simp [checkSeed]

@[simp] theorem checkTieBreak_bool (yes : Bool) : checkTieBreak (.bool yes) = .ok yes := rfl

theorem checkTieBreak_eq_ok {value : Value} {yes : Bool} (checked : checkTieBreak value = .ok yes) :
    value = .scalar (.bool yes) := by
  unfold checkTieBreak at checked
  split at checked
  · cases checked
    rfl
  · cases checked

theorem validate_eq_ok {config : Config} (valid : s.validate = .ok config) :
    s.randomTieBreak = .scalar (.bool config.randomTieBreak) ∧ s.verbose = config.verbose := by
  unfold validate at valid
  simp only [bind_eq_ok] at valid
  obtain ⟨alpha, _, beta, _, seed, _, tieBreak, checked, configured⟩ := valid
  cases configured
  exact ⟨checkTieBreak_eq_ok checked, rfl⟩

theorem eq_of_checkAlpha {value : Value} {fault : Fault}
    (refused : checkAlpha value = .error fault) : fault = .badAlpha value := by
  unfold checkAlpha at refused
  split at refused
  · split at refused <;> cases refused
    rfl
  · cases refused
    rfl

theorem eq_of_checkBeta {value : Value} {fault : Fault}
    (refused : checkBeta value = .error fault) : fault = .badBeta value := by
  unfold checkBeta at refused
  dsimp only at refused
  split at refused
  · cases refused
  · exact (Except.error.inj refused).symm

theorem eq_of_checkSeed {value : Value} {fault : Fault}
    (refused : checkSeed value = .error fault) : fault = .badSeed value := by
  unfold checkSeed at refused
  split at refused
  · split at refused <;> cases refused
    rfl
  · cases refused
    rfl

theorem eq_of_checkTieBreak {value : Value} {fault : Fault}
    (refused : checkTieBreak value = .error fault) : fault = .badTieBreak value := by
  unfold checkTieBreak at refused
  split at refused <;> cases refused
  rfl

/-- A value that is checked if it is given; an absent one leaves what is stored. -/
def checkGiven {β : Type} (check : Value → Except Fault β) (stored : β) (value : Value) :
    Except Fault β :=
  if value.isAbsent then .ok stored else check value

section

variable {β : Type} {check : Value → Except Fault β} {stored found : β} {value : Value}

theorem given_of_checkGiven (checked : checkGiven check stored value = .ok found) :
    value.isAbsent = true ∨ ∃ found, check value = .ok found := by
  unfold checkGiven at checked
  split at checked
  · exact .inl ‹_›
  · exact .inr ⟨found, checked⟩

theorem misfit_of_checkGiven {fault : Fault}
    (failed : checkGiven check stored value = .error fault) :
    check value = .error fault ∧ ¬ (value.isAbsent = true ∨ ∃ found, check value = .ok found) := by
  unfold checkGiven at failed
  split at failed
  · cases failed
  · rename_i given
    exact ⟨failed, by simp [given, failed]⟩

end

/-- The value is absent or a positive integer. -/
def AlphaFits (value : Value) : Prop := value = .absent ∨ ∃ i : Int, 0 < i ∧ value = .int i

/-- The value is absent or a number in `[0, 1]`. -/
def BetaFits (value : Value) : Prop :=
  value = .absent ∨ ∃ number : Number, (Number.int 0).le number = true ∧
    number.le (Number.int 1) = true ∧ value = number.toValue

/-- What fits is absent or passes its check. -/
theorem alphaFits_iff {value : Value} :
    AlphaFits value ↔ value.isAbsent = true ∨ ∃ alpha, checkAlpha value = .ok alpha := by
  constructor
  · rintro (rfl | ⟨i, positive, rfl⟩)
    · exact .inl rfl
    · have natural : ((i.toNat : Nat) : Int) = i := Int.toNat_of_nonneg (by omega)
      rw [← natural]
      exact .inr ⟨_, checkAlpha_int i.toNat (by omega)⟩
  · rintro (absent | ⟨alpha, checked⟩)
    · exact .inl (Value.eq_absent absent)
    · unfold checkAlpha at checked
      split at checked
      · split at checked
        · rename_i i positive
          exact .inr ⟨i, positive, rfl⟩
        · cases checked
      · cases checked

theorem eq_of_ofNumber? {number : Number} {share : Share}
    (found : Share.ofNumber? number = some share) : share.number = number := by
  unfold Share.ofNumber? at found
  split at found
  · cases found
    rfl
  · cases found

theorem betaFits_of_checkBeta {value : Value} {beta : Share}
    (checked : checkBeta value = .ok beta) : BetaFits value := by
  have fits {number : Number} (found : Share.ofNumber? number = some beta) :
      BetaFits number.toValue :=
    .inr ⟨number, eq_of_ofNumber? found ▸ beta.least, eq_of_ofNumber? found ▸ beta.most, rfl⟩
  unfold checkBeta at checked
  dsimp only at checked
  split at checked
  · rename_i share found
    cases checked
    split at found
    · exact fits found
    · exact fits found
    · cases found
  · cases checked

theorem betaFits_iff {value : Value} :
    BetaFits value ↔ value.isAbsent = true ∨ ∃ beta, checkBeta value = .ok beta := by
  constructor
  · rintro (rfl | ⟨number, least, most, rfl⟩)
    · exact .inl rfl
    · exact .inr ⟨⟨number, least, most⟩, checkBeta_toValue ⟨number, least, most⟩⟩
  · rintro (absent | ⟨beta, checked⟩)
    · exact .inl (Value.eq_absent absent)
    · exact betaFits_of_checkBeta checked

/-- What the checks refuse is the first value that is out of range. -/
theorem refused_of_validate {fault : Fault} (refused : s.validate = .error fault) :
    fault = .badAlpha s.alpha ∨ fault = .badBeta s.beta ∨ fault = .badSeed s.seed ∨
      fault = .badTieBreak s.randomTieBreak := by
  unfold validate at refused
  rcases bind_eq_error.1 refused with alpha | ⟨_, _, refused⟩
  · exact .inl (eq_of_checkAlpha alpha)
  rcases bind_eq_error.1 refused with beta | ⟨_, _, refused⟩
  · exact .inr (.inl (eq_of_checkBeta beta))
  rcases bind_eq_error.1 refused with seed | ⟨_, _, refused⟩
  · exact .inr (.inr (.inl (eq_of_checkSeed seed)))
  rcases bind_eq_error.1 refused with tieBreak | ⟨_, _, refused⟩
  · exact .inr (.inr (.inr (eq_of_checkTieBreak tieBreak)))
  · cases refused

theorem isSetting_of_validate {fault : Fault} (refused : s.validate = .error fault) :
    fault.isSetting = true := by
  obtain rfl | rfl | rfl | rfl := refused_of_validate refused <;> rfl

theorem isSetting_of_assign {fields : Fields} {fault : Fault}
    (refused : s.assign form fields = .error fault) : fault.isSetting = true := by
  induction fields generalizing s with
  | nil => cases refused
  | cons field rest ih =>
    rw [assign] at refused
    split at refused
    · exact ih refused
    · cases refused
      unfold misfit
      split <;> rfl

end Settings

namespace Config

theorem isSetting_of_override {config : Config} {fields : Fields} {fault : Fault}
    (refused : config.override fields = .error fault) : fault.isSetting = true := by
  unfold override at refused
  rcases bind_eq_error.1 refused with filled | ⟨_, _, refused⟩
  · unfold Settings.requireOpen at filled
    split at filled <;> cases filled
    rfl
  · split at refused
    · cases refused
    · rcases bind_eq_error.1 refused with refused | ⟨settings, _, refused⟩
      · exact Settings.isSetting_of_assign refused
      · exact Settings.isSetting_of_validate refused

/-- Settings that were read off a configuration pass every check. -/
theorem validate_toSettings (config : Config) : config.toSettings.validate = .ok config := by
  simp [Settings.validate, toSettings, config.alpha_pos, bind, Except.bind, pure, Except.pure]

/-! ## Overrides of a seed -/

theorem override_seed_absent (config : Config) :
    config.override [("seed", .absent)] = .ok config := rfl

theorem override_seed (config : Config) {seed : Value} (present : seed.isAbsent = false) :
    config.override [("seed", seed)] =
      (Settings.checkSeed seed).map fun number => { config with seed := number } := by
  have opened : Settings.requireOpen .override [("seed", seed)] = .ok () := rfl
  have changes : Settings.given [("seed", seed)] = [("seed", seed)] := by
    simp [Settings.given, present]
  have assigned : config.toSettings.assign .solver [("seed", seed)] =
      .ok { config.toSettings with seed := seed } := rfl
  unfold override
  simp only [opened, changes, assigned, bind, Except.bind]
  simp only [Settings.validate, toSettings, Settings.checkAlpha_int _ config.alpha_pos,
    Settings.checkBeta_toValue, Settings.checkTieBreak_bool, bind, Except.bind]
  cases Settings.checkSeed seed with
  | error fault => rfl
  | ok number => rfl

/-! ## Overrides of a multiplier and a share -/

/-- The multiplier and the share are checked in this order, each one only if it is given. -/
theorem override_share (config : Config) (alpha beta : Value) :
    config.override [("alpha", alpha), ("beta", beta)] = (do
      let multiplier ← Settings.checkGiven Settings.checkAlpha ⟨config.alpha, config.alpha_pos⟩ alpha
      let share ← Settings.checkGiven Settings.checkBeta config.beta beta
      return { config with
        alpha := multiplier.val, alpha_pos := multiplier.property, beta := share }) := by
  have opened : Settings.requireOpen .override [("alpha", alpha), ("beta", beta)] = .ok () := rfl
  -- What is not given stays as stored, and stored values pass their own checks.
  cases noAlpha : alpha.isAbsent <;> cases noBeta : beta.isAbsent <;>
    simp [override, opened, Settings.given, Settings.checkGiven, noAlpha, noBeta, Settings.assign,
      Settings.set?, Settings.validate, toSettings, config.alpha_pos, bind, Except.bind, pure,
      Except.pure]

theorem fits_of_override {stored config : Config} {alpha beta : Value}
    (overridden : stored.override [("alpha", alpha), ("beta", beta)] = .ok config) :
    Settings.AlphaFits alpha ∧ Settings.BetaFits beta := by
  rw [override_share] at overridden
  obtain ⟨_, checkedAlpha, rest⟩ := bind_eq_ok.1 overridden
  obtain ⟨_, checkedBeta, _⟩ := bind_eq_ok.1 rest
  exact ⟨Settings.alphaFits_iff.2 (Settings.given_of_checkGiven checkedAlpha),
    Settings.betaFits_iff.2 (Settings.given_of_checkGiven checkedBeta)⟩

/-- A refused override is a faulty configuration, and one of its values does not fit. -/
theorem misfit_of_override {stored : Config} {alpha beta : Value} {fault : Fault}
    (refused : stored.override [("alpha", alpha), ("beta", beta)] = .error fault) :
    fault.kind = .configuration ∧ ¬ (Settings.AlphaFits alpha ∧ Settings.BetaFits beta) := by
  rw [override_share] at refused
  rw [Settings.alphaFits_iff, Settings.betaFits_iff]
  rcases bind_eq_error.1 refused with failed | ⟨_, _, refused⟩
  · obtain ⟨failed, misfit⟩ := Settings.misfit_of_checkGiven failed
    exact ⟨Settings.eq_of_checkAlpha failed ▸ rfl, fun fits => misfit fits.1⟩
  rcases bind_eq_error.1 refused with failed | ⟨_, _, refused⟩
  · obtain ⟨failed, misfit⟩ := Settings.misfit_of_checkGiven failed
    exact ⟨Settings.eq_of_checkBeta failed ▸ rfl, fun fits => misfit fits.2⟩
  · cases refused

/-- An override of the multiplier and the share keeps the tie-breaking policy and the flag. -/
theorem kept_of_override {stored config : Config} {fields : Fields}
    (named : ∀ field ∈ fields, field.1 = "alpha" ∨ field.1 = "beta")
    (overridden : stored.override fields = .ok config) :
    config.randomTieBreak = stored.randomTieBreak ∧ config.verbose = stored.verbose := by
  unfold override at overridden
  obtain ⟨_, _, replaced⟩ := bind_eq_ok.1 overridden
  split at replaced
  · cases replaced
    exact ⟨rfl, rfl⟩
  · -- The absent fields are left out, and the others have the same names as before.
    obtain ⟨settings, assigned, valid⟩ := bind_eq_ok.1 replaced
    have kept := Settings.retuned_of_assign
      (fun field member => named field (List.mem_filter.1 member |>.1)) assigned
    obtain ⟨tieBreak, verbose⟩ := Settings.validate_eq_ok valid
    have same : Value.scalar (.bool config.randomTieBreak) =
        .scalar (.bool stored.randomTieBreak) := tieBreak.symm.trans kept.randomTieBreak
    simp only [Value.scalar.injEq, Scalar.bool.injEq] at same
    exact ⟨same, verbose.symm.trans kept.verbose⟩

end Config

end Carousel
