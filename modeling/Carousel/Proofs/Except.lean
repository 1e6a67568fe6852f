/-!
# Results that may be faults

What a sequence of steps gives, read off its parts: all steps before a fault have given something.
Two results are related when both are answers or both are faults, and these are related.
-/

namespace Carousel

variable {ε ε' β β' γ : Type} {result : Except ε β}

theorem bind_eq_ok {next : β → Except ε γ} {answer : γ} :
    result >>= next = .ok answer ↔ ∃ found, result = .ok found ∧ next found = .ok answer := by
  cases result with
  | error fault => simp [bind, Except.bind]
  | ok found => simp [bind, Except.bind]

theorem bind_eq_error {next : β → Except ε γ} {fault : ε} :
    result >>= next = .error fault ↔
      result = .error fault ∨ ∃ found, result = .ok found ∧ next found = .error fault := by
  cases result with
  | error cause => simp [bind, Except.bind]
  | ok found => simp [bind, Except.bind]

theorem map_eq_ok {change : β → γ} {answer : γ} :
    result.map change = .ok answer ↔ ∃ found, result = .ok found ∧ change found = answer := by
  cases result with
  | error fault => simp [Except.map]
  | ok found => simp [Except.map]

theorem map_eq_error {change : β → γ} {fault : ε} :
    result.map change = .error fault ↔ result = .error fault := by
  cases result with
  | error cause => simp [Except.map]
  | ok found => simp [Except.map]

theorem eq_ok_of_toOption {answer : β} (found : result.toOption = some answer) :
    result = .ok answer := by
  cases result with
  | error fault => cases found
  | ok _ =>
    cases found
    rfl

/-! ## Checks of several things -/

/-- All checks pass together if each of them does. -/
theorem forM_eq_ok {check : β → Except ε Unit} {xs : List β} :
    xs.forM check = .ok () ↔ ∀ x ∈ xs, check x = .ok () := by
  induction xs with
  | nil => simp [List.forM, pure, Except.pure]
  | cons x xs ih =>
    show (check x >>= fun _ => xs.forM check) = .ok () ↔ _
    rw [bind_eq_ok, ih, List.forall_mem_cons]
    constructor
    · intro ⟨(), passed, later⟩
      exact ⟨passed, later⟩
    · intro ⟨passed, later⟩
      exact ⟨(), passed, later⟩

/-- The fault of several checks is the first one. -/
theorem forM_of_first {check : β → Except ε Unit} {before after : List β} {x : β}
    (passed : ∀ y ∈ before, check y = .ok ()) {fault : ε} (failed : check x = .error fault) :
    (before ++ x :: after).forM check = .error fault := by
  induction before with
  | nil =>
    show (check x >>= fun _ => after.forM check) = .error fault
    rw [failed]
    rfl
  | cons y before ih =>
    show (check y >>= fun _ => (before ++ x :: after).forM check) = .error fault
    rw [List.forall_mem_cons] at passed
    rw [passed.1]
    exact ih passed.2

theorem exists_first_of_forM {check : β → Except ε Unit} {xs : List β} {fault : ε}
    (failed : xs.forM check = .error fault) :
    ∃ before x after, xs = before ++ x :: after ∧ (∀ y ∈ before, check y = .ok ()) ∧
      check x = .error fault := by
  induction xs with
  | nil => cases failed
  | cons x xs ih =>
    have steps : (check x >>= fun _ => xs.forM check) = .error fault := failed
    obtain failed | ⟨_, passed, later⟩ := bind_eq_error.1 steps
    · exact ⟨[], x, xs, rfl, List.forall_mem_nil _, failed⟩
    · obtain ⟨before, y, after, rfl, earlier, failed⟩ := ih later
      exact ⟨x :: before, y, after, rfl, List.forall_mem_cons.2 ⟨passed, earlier⟩, failed⟩

/-! ## Related results -/

inductive Related (F : ε → ε' → Prop) (Q : β → β' → Prop) : Except ε β → Except ε' β' → Prop where
  | answered {answer : β} {answer' : β'} (related : Q answer answer') :
      Related F Q (.ok answer) (.ok answer')
  | faulted {fault : ε} {fault' : ε'} (related : F fault fault') :
      Related F Q (.error fault) (.error fault')

namespace Related

variable {F : ε → ε → Prop} {left right : Except ε β}

theorem of_eq (refl : ∀ fault, F fault fault) (equal : left = right) : Related F Eq left right := by
  cases equal
  cases left with
  | error fault => exact .faulted (refl fault)
  | ok answer => exact .answered rfl

theorem eq (related : Related Eq Eq left right) : left = right := by
  cases related with
  | answered equal => rw [equal]
  | faulted equal => rw [equal]

theorem map (related : Related F Eq left right) (f : β → γ) :
    Related F Eq (left.map f) (right.map f) := by
  cases related with
  | answered equal => exact .answered (congrArg f equal)
  | faulted faults => exact .faulted faults

theorem mapError {F : ε' → ε' → Prop} {Q : β → β' → Prop} {right : Except ε β'}
    (refl : ∀ fault, F fault fault) (related : Related Eq Q left right) (f : ε → ε') :
    Related F Q (left.mapError f) (right.mapError f) := by
  cases related with
  | answered answers => exact .answered answers
  | faulted equal => exact equal ▸ .faulted (refl _)

end Related

end Carousel
