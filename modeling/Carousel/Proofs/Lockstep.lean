import Mathlib.Data.List.Forall2
import Carousel.Proofs.Except
import Carousel.Run.Basic

/-!
# Actions in lockstep

Two actions are parallel under relations of faults, answers and states when, carried out at related
states, they give related answers or related faults and leave related states.  They are in lockstep
when they even give the same answer.  What is put together from parallel actions in the same way is
parallel.
-/

namespace Carousel.Act

variable {S T β β' γ γ' ι : Type} {F : Fault → Fault → Prop} {Q : β → β' → Prop}
  {Q' : γ → γ' → Prop} {R : S → T → Prop}

/-- Carried out at related states, the actions end in related ways at related states. -/
def Parallel (F : Fault → Fault → Prop) (Q : β → β' → Prop) (R : S → T → Prop) (left : Act S β)
    (right : Act T β') : Prop :=
  ∀ ⦃s t⦄, R s t →
    Related F Q (left.perform s).1 (right.perform t).1 ∧ R (left.perform s).2 (right.perform t).2

namespace Parallel

theorem pure {answer : β} {answer' : β'} (related : Q answer answer') :
    Parallel F Q R (Pure.pure answer) (Pure.pure answer') :=
  fun _ _ states => ⟨.answered related, states⟩

theorem bind {left : Act S β} {right : Act T β'} {next : β → Act S γ} {next' : β' → Act T γ'}
    (first : Parallel F Q R left right)
    (rest : ∀ ⦃answer answer'⦄, Q answer answer' → Parallel F Q' R (next answer) (next' answer')) :
    Parallel F Q' R (left >>= next) (right >>= next') := by
  intro s t states
  obtain ⟨related, after⟩ := first states
  rw [perform_bind, perform_bind]
  revert related after
  rcases left.perform s with ⟨_ | answer, s'⟩ <;> rcases right.perform t with ⟨_ | answer', t'⟩ <;>
    intro related after <;> cases related
  · rename_i faults
    exact ⟨.faulted faults, after⟩
  · rename_i answers
    exact rest answers after

theorem mapM {ask : ι → Act S β} {ask' : ι → Act T β'}
    (single : ∀ x, Parallel F Q R (ask x) (ask' x)) (xs : List ι) :
    Parallel F (List.Forall₂ Q) R (xs.mapM ask) (xs.mapM ask') := by
  induction xs with
  | nil =>
    rw [List.mapM_nil, List.mapM_nil]
    exact pure .nil
  | cons x xs ih =>
    rw [List.mapM_cons, List.mapM_cons]
    exact bind (single x) fun _ _ first => bind ih fun _ _ others => pure (.cons first others)

end Parallel

/-- Carried out at related states, the actions give the same answer or related faults and leave
related states. -/
def Lockstep (F : Fault → Fault → Prop) (R : S → T → Prop) (left : Act S β) (right : Act T β) :
    Prop :=
  Parallel F Eq R left right

namespace Lockstep

theorem pure (answer : β) :
    Lockstep F R (Pure.pure answer : Act S β) (Pure.pure answer : Act T β) :=
  Parallel.pure rfl

theorem throw {fault fault' : Fault} (faults : F fault fault') :
    Lockstep F R (MonadExcept.throw fault : Act S β) (MonadExcept.throw fault' : Act T β) :=
  fun _ _ related => ⟨.faulted faults, related⟩

theorem modify {change : S → S} {change' : T → T}
    (keeps : ∀ ⦃s t⦄, R s t → R (change s) (change' t)) :
    Lockstep F R (modify change : Act S PUnit) (modify change' : Act T PUnit) :=
  fun _ _ related => ⟨.answered rfl, keeps related⟩

theorem set {after : S} {after' : T} (related : R after after') :
    Lockstep F R (set after : Act S PUnit) (set after' : Act T PUnit) :=
  fun _ _ _ => ⟨.answered rfl, related⟩

theorem lift (refl : ∀ fault, F fault fault) (result : Except Fault β) :
    Lockstep F R (liftM result : Act S β) (liftM result : Act T β) := by
  cases result with
  | error fault => exact throw (refl fault)
  | ok answer => exact pure answer

theorem bind {left : Act S β} {right : Act T β} {next : β → Act S γ} {next' : β → Act T γ}
    (first : Lockstep F R left right) (rest : ∀ answer, Lockstep F R (next answer) (next' answer)) :
    Lockstep F R (left >>= next) (right >>= next') :=
  Parallel.bind first fun answer _ equal => equal ▸ rest answer

/-- An action that looks at its state may go on with what related states have in common. -/
theorem get_bind {next : S → Act S γ} {next' : T → Act T γ}
    (rest : ∀ ⦃s t⦄, R s t → Lockstep F R (next s) (next' t)) :
    Lockstep F R (get >>= next) (get >>= next') := by
  intro s t related
  rw [perform_bind, perform_bind, perform_get, perform_get]
  exact rest related related

theorem mapM {ask : ι → Act S β} {ask' : ι → Act T β} (single : ∀ x, Lockstep F R (ask x) (ask' x))
    (xs : List ι) : Lockstep F R (xs.mapM ask) (xs.mapM ask') := by
  have answers := Parallel.mapM single xs
  rwa [List.forall₂_eq_eq_eq] at answers

theorem forM {ask : ι → Act S PUnit} {ask' : ι → Act T PUnit}
    (single : ∀ x, Lockstep F R (ask x) (ask' x)) (xs : List ι) :
    Lockstep F R (xs.forM ask) (xs.forM ask') := by
  induction xs with
  | nil => exact pure _
  | cons x xs ih => exact bind (single x) fun _ => ih

end Lockstep

end Carousel.Act
