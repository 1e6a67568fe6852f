import Carousel.Proofs.Act

/-!
# What an action leaves

`Ends act s Q E` says of an action carried out at `s` what it leaves in either case: `Q` of its answer,
or `E` of the fault that ends it.  A fault skips what follows, so `E` stays the same through an action
while `Q` is what the next part starts from.
-/

namespace Carousel.Act

variable {S β γ ι : Type} {Q Q' : β → S → Prop} {E E' : Fault → S → Prop} {I : S → Prop}

def Ends (act : Act S β) (s : S) (Q : β → S → Prop) (E : Fault → S → Prop) : Prop :=
  match act.perform s with
  | (.ok answer, t) => Q answer t
  | (.error fault, t) => E fault t

theorem ends_iff {act : Act S β} {s : S} :
    act.Ends s Q E ↔
      (∀ answer t, act.Completes s answer t → Q answer t) ∧
        ∀ fault t, act.Fails s fault t → E fault t := by
  unfold Ends Completes Fails
  rcases act.perform s with ⟨_ | _, t⟩ <;> simp

theorem Ends.of_completes {act : Act S β} {s t : S} {answer : β} (ends : act.Ends s Q E)
    (completed : act.Completes s answer t) : Q answer t :=
  (ends_iff.1 ends).1 answer t completed

theorem Ends.of_fails {act : Act S β} {s t : S} {fault : Fault} (ends : act.Ends s Q E)
    (failed : act.Fails s fault t) : E fault t :=
  (ends_iff.1 ends).2 fault t failed

theorem Ends.imp {act : Act S β} {s : S} (ends : act.Ends s Q E)
    (answered : ∀ answer t, Q answer t → Q' answer t)
    (faulted : ∀ fault t, E fault t → E' fault t) : act.Ends s Q' E' :=
  ends_iff.2
    ⟨fun answer t completed => answered answer t (ends.of_completes completed),
      fun fault t failed => faulted fault t (ends.of_fails failed)⟩

/-- What an action leaves with an answer, it leaves where it completes with that answer. -/
theorem Ends.witnessed {act : Act S β} {s : S} (ends : act.Ends s Q E) :
    act.Ends s (fun answer t => Q answer t ∧ act.Completes s answer t) E :=
  ends_iff.2
    ⟨fun _ _ completed => ⟨ends.of_completes completed, completed⟩, fun _ _ => ends.of_fails⟩

/-- What an action leaves in either case, it leaves. -/
theorem Ends.after {act : Act S β} {s : S} (ends : act.Ends s (fun _ => I) fun _ => I) :
    I (act.perform s).2 := by
  revert ends
  unfold Ends
  rcases act.perform s with ⟨_ | _, t⟩ <;> exact id

theorem ends_bind {act : Act S β} {next : β → Act S γ} {s : S} {Q : γ → S → Prop} :
    (act >>= next).Ends s Q E ↔
      act.Ends s (fun answer t => (next answer).Ends t Q E) E := by
  unfold Ends
  rw [perform_bind]
  rcases act.perform s with ⟨_ | _, t⟩ <;> rfl

theorem ends_get_bind {next : S → Act S β} {s : S} :
    (get >>= next).Ends s Q E ↔ (next s).Ends s Q E := ends_bind

theorem ends_lift {result : Except Fault β} {s : S}
    (answered : ∀ answer, result = .ok answer → Q answer s)
    (faulted : ∀ fault, result = .error fault → E fault s) :
    (liftM result : Act S β).Ends s Q E := by
  cases result with
  | error fault => exact faulted fault rfl
  | ok answer => exact answered answer rfl

/-! ## Sweeps

A sweep keeps what every one of its actions keeps. -/

theorem ends_mapM {ask : ι → Act S β} {xs : List ι}
    (single : ∀ x ∈ xs, ∀ s, I s → (ask x).Ends s (fun _ t => I t) E) {s : S} (start : I s) :
    (xs.mapM ask).Ends s (fun _ t => I t) E := by
  induction xs generalizing s with
  | nil => exact start
  | cons x xs ih =>
    rw [List.mapM_cons, ends_bind]
    refine (single x (by simp) s start).imp (fun answer t kept => ?_) fun _ _ => id
    rw [ends_bind]
    exact (ih (fun y member => single y (.tail _ member)) kept).imp (fun _ _ => id) fun _ _ => id

theorem ends_forM {ask : ι → Act S PUnit} {xs : List ι}
    (single : ∀ x ∈ xs, ∀ s, I s → (ask x).Ends s (fun _ t => I t) E) {s : S} (start : I s) :
    (xs.forM ask).Ends s (fun _ t => I t) E := by
  induction xs generalizing s with
  | nil => exact start
  | cons x xs ih =>
    refine ends_bind.2 ?_
    exact (single x (by simp) s start).imp
      (fun _ t kept => ih (fun y member => single y (.tail _ member)) kept) fun _ _ => id

theorem ends_filterAuxM {ask : ι → Act S Bool} {xs before : List ι}
    (single : ∀ x ∈ xs, ∀ s, I s → (ask x).Ends s (fun _ t => I t) E) {s : S} (start : I s) :
    (List.filterAuxM ask xs before).Ends s
      (fun kept t => I t ∧ kept ⊆ xs.reverse ++ before) E := by
  induction xs generalizing s before with
  | nil => exact ⟨start, by simp⟩
  | cons x xs ih =>
    rw [List.filterAuxM, ends_bind]
    refine (single x (by simp) s start).imp (fun yes t kept => ?_) fun _ _ => id
    refine (ih (fun y member => single y (.tail _ member)) kept).imp ?_ fun _ _ => id
    rintro found w ⟨held, inside⟩
    refine ⟨held, fun y member => ?_⟩
    -- What was accepted before is either older or the member that was just tested.
    have found := inside member
    rw [List.mem_append, List.mem_reverse] at found
    rw [List.reverse_cons, List.append_assoc, List.mem_append, List.mem_reverse]
    refine found.imp id fun earlier => ?_
    cases yes with
    | true => exact earlier
    | false => exact .tail _ earlier

/-- A sweep of tests keeps what every test keeps, and answers with some of its members. -/
theorem ends_filterM {ask : ι → Act S Bool} {xs : List ι}
    (single : ∀ x ∈ xs, ∀ s, I s → (ask x).Ends s (fun _ t => I t) E) {s : S} (start : I s) :
    (xs.filterM ask).Ends s (fun kept t => I t ∧ kept ⊆ xs) E := by
  unfold List.filterM
  rw [ends_bind]
  refine (ends_filterAuxM single start).imp ?_ fun _ _ => id
  rintro kept t ⟨held, inside⟩
  exact ⟨held, fun x member => by simpa using inside (List.mem_reverse.1 member)⟩

end Carousel.Act
