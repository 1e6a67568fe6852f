import Carousel.Proofs.Lockstep

/-!
# Coupled actions

A coupling compares actions on two kinds of states, and what is put together from compared actions in
the same way compares too.  Lockstep is one coupling.  Another one lets the right action do what the left
one does until a mishap: what happens after it is not compared, but it can be told from the state.
-/

namespace Carousel.Act

variable {S T β γ ι : Type}

/-- A comparison of actions that can look at states of which it knows something. -/
structure Coupling (S T : Type) where
  states : S → T → Prop
  Holds : {β : Type} → Act S β → Act T β → Prop
  pure : ∀ {β : Type} (answer : β), Holds (Pure.pure answer) (Pure.pure answer)
  bind : ∀ {β γ : Type} {left : Act S β} {right : Act T β} {next : β → Act S γ}
    {next' : β → Act T γ}, Holds left right → (∀ answer, Holds (next answer) (next' answer)) →
      Holds (left >>= next) (right >>= next')
  get_bind : ∀ {β : Type} {next : S → Act S β} {next' : T → Act T β},
    (∀ ⦃s t⦄, states s t → Holds (next s) (next' t)) → Holds (get >>= next) (get >>= next')

namespace Coupling

variable {C : Coupling S T}

theorem mapM {ask : ι → Act S β} {ask' : ι → Act T β} (single : ∀ x, C.Holds (ask x) (ask' x))
    (xs : List ι) : C.Holds (xs.mapM ask) (xs.mapM ask') := by
  induction xs with
  | nil =>
    rw [List.mapM_nil, List.mapM_nil]
    exact C.pure []
  | cons x xs ih =>
    rw [List.mapM_cons, List.mapM_cons]
    exact C.bind (single x) fun _ => C.bind ih fun _ => C.pure _

theorem filterM {ask : ι → Act S Bool} {ask' : ι → Act T Bool}
    (single : ∀ x, C.Holds (ask x) (ask' x)) (xs : List ι) :
    C.Holds (xs.filterM ask) (xs.filterM ask') := by
  have gathered (before : List ι) :
      C.Holds (List.filterAuxM ask xs before) (List.filterAuxM ask' xs before) := by
    induction xs generalizing before with
    | nil => exact C.pure before
    | cons x xs ih => exact C.bind (single x) fun _ => ih _
  exact C.bind (gathered []) fun _ => C.pure _

end Coupling

def lockstep (F : Fault → Fault → Prop) (R : S → T → Prop) : Coupling S T where
  states := R
  Holds := Lockstep F R
  pure := .pure
  bind := .bind
  get_bind := .get_bind

/-! ## Up to a mishap -/

variable {I Mishap : S → Prop} {f : S → T} {s : S}

/-- Carried out at `s`, the left action keeps `I` and every mishap, and if none has happened, the right
one does the same at the image of `s`. -/
structure MirrorsAt (I Mishap : S → Prop) (f : S → T) (s : S) (left : Act S β) (right : Act T β) :
    Prop where
  kept : I (left.perform s).2
  stays : Mishap s → Mishap (left.perform s).2
  mirrored : Mishap (left.perform s).2 ∨
    right.perform (f s) = ((left.perform s).1, f (left.perform s).2)

theorem MirrorsAt.bind {left : Act S β} {right : Act T β} {next : β → Act S γ}
    {next' : β → Act T γ} (first : MirrorsAt I Mishap f s left right)
    (rest : ∀ answer t, left.perform s = (.ok answer, t) →
      MirrorsAt I Mishap f t (next answer) (next' answer)) :
    MirrorsAt I Mishap f s (left >>= next) (right >>= next') := by
  -- A mishap in the first part outlives the second one; without it both second parts start alike.
  obtain ⟨kept, stays, mirrored⟩ := first
  cases done : left.perform s with
  | mk found t =>
    rw [done] at kept stays mirrored
    cases found with
    | error fault =>
      have ends : (left >>= next).perform s = (.error fault, t) := by
        rw [perform_bind, done]
      refine ⟨ends ▸ kept, ends ▸ stays, ?_⟩
      rw [ends, perform_bind]
      apply mirrored.imp id
      intro same
      rw [same]
    | ok answer =>
      obtain ⟨kept', stays', mirrored'⟩ := rest answer t done
      have ends : (left >>= next).perform s = (next answer).perform t := by
        rw [perform_bind, done]
      refine ⟨ends ▸ kept', ends ▸ fun before => stays' (stays before), ?_⟩
      rw [ends, perform_bind]
      cases mirrored with
      | inl mishap => exact .inl (stays' mishap)
      | inr same =>
        rw [same]
        exact mirrored'

theorem MirrorsAt.get_bind {next : S → Act S β} {next' : T → Act T β}
    (rest : MirrorsAt I Mishap f s (next s) (next' (f s))) :
    MirrorsAt I Mishap f s (get >>= next) (get >>= next') :=
  ⟨rest.kept, rest.stays, rest.mirrored⟩

theorem mirrorsAt_pure (answer : β) (kept : I s) :
    MirrorsAt I Mishap f s (pure answer) (pure answer) :=
  ⟨kept, id, .inr rfl⟩

theorem mirrorsAt_throw (fault : Fault) (kept : I s) :
    MirrorsAt I Mishap f s (throw fault : Act S β) (throw fault) :=
  ⟨kept, id, .inr rfl⟩

theorem mirrorsAt_lift (result : Except Fault β) (kept : I s) :
    MirrorsAt I Mishap f s (liftM result : Act S β) (liftM result) := by
  cases result with
  | error fault => exact mirrorsAt_throw fault kept
  | ok answer => exact mirrorsAt_pure answer kept

def mirror (I Mishap : S → Prop) (f : S → T) : Coupling S T where
  states s t := I s ∧ t = f s
  Holds left right := ∀ s, I s → MirrorsAt I Mishap f s left right
  pure answer _ kept := mirrorsAt_pure answer kept
  bind first rest s kept := (first s kept).bind fun answer t done => by
    apply rest answer t
    have kept := (first s kept).kept
    rwa [done] at kept
  get_bind rest s kept := .get_bind (rest ⟨kept, rfl⟩ s kept)

end Carousel.Act
