import Carousel.Run.Basic

/-!
# Completed and failed actions

`Completes act s b t` says that an action carried out at `s` comes to its end at `t` with the answer
`b`, and `Fails act s f t` that a fault `f` ends it at `t`.  The lemmas take a completed action apart
into the completed actions that it is made of, and a failed one into those before the fault and the
one that the fault ends.
-/

namespace Carousel.Act

variable {S β γ ι : Type}

def Completes (act : Act S β) (s : S) (answer : β) (t : S) : Prop := act.perform s = (.ok answer, t)

theorem completes_bind {act : Act S β} {next : β → Act S γ} {s t : S} {answer : γ} :
    (act >>= next).Completes s answer t ↔
      ∃ found m, act.Completes s found m ∧ (next found).Completes m answer t := by
  unfold Completes
  rw [perform_bind]
  rcases act.perform s with ⟨_ | found, m⟩
  · simp
  · constructor
    · intro completed
      exact ⟨found, m, rfl, completed⟩
    · rintro ⟨_, _, equal, completed⟩
      cases equal
      exact completed

@[simp] theorem completes_pure {found answer : β} {s t : S} :
    (pure found : Act S β).Completes s answer t ↔ answer = found ∧ t = s := by
  simp [Completes, eq_comm]

theorem completes_bind_pure {act : Act S β} {reply : β → γ} {s t : S} {answer : γ} :
    (act >>= fun found => pure (reply found)).Completes s answer t ↔
      ∃ found, act.Completes s found t ∧ answer = reply found := by
  rw [completes_bind]
  constructor
  · rintro ⟨found, m, completed, finished⟩
    obtain ⟨same, rfl⟩ := completes_pure.1 finished
    exact ⟨found, completed, same⟩
  · rintro ⟨found, completed, same⟩
    exact ⟨found, t, completed, completes_pure.2 ⟨same, rfl⟩⟩

@[simp] theorem not_completes_throw {fault : Fault} {answer : β} {s t : S} :
    ¬ (throw fault : Act S β).Completes s answer t := by
  simp [Completes]

@[simp] theorem completes_get {s t answer : S} :
    (get : Act S S).Completes s answer t ↔ answer = s ∧ t = s := by
  simp [Completes, eq_comm]

@[simp] theorem completes_set {after s t : S} {answer : PUnit} :
    (set after : Act S PUnit).Completes s answer t ↔ t = after := by
  simp [Completes, eq_comm]

@[simp] theorem completes_modify {change : S → S} {s t : S} {answer : PUnit} :
    (modify change : Act S PUnit).Completes s answer t ↔ t = change s := by
  simp [Completes, eq_comm]

@[simp] theorem completes_lift {result : Except Fault β} {answer : β} {s t : S} :
    (liftM result : Act S β).Completes s answer t ↔ result = .ok answer ∧ t = s := by
  show (result, s) = (.ok answer, t) ↔ _
  simp [eq_comm]

/-- What looks at its state first goes on at that state. -/
theorem completes_get_bind {next : S → Act S γ} {s t : S} {answer : γ} :
    (get >>= next).Completes s answer t ↔ (next s).Completes s answer t := by
  unfold Completes
  rw [perform_bind, perform_get]

theorem completes_of_fst {act : Act S β} {s : S} {answer : β}
    (answered : (act.perform s).1 = .ok answer) : act.Completes s answer (act.perform s).2 :=
  Prod.ext answered rfl

theorem Completes.unique {act : Act S β} {s t m : S} {answer found : β}
    (completed : act.Completes s answer t) (again : act.Completes s found m) :
    answer = found ∧ t = m := by
  cases completed.symm.trans again
  exact ⟨rfl, rfl⟩

/-! ## Failed actions -/

def Fails (act : Act S β) (s : S) (fault : Fault) (t : S) : Prop :=
  act.perform s = (.error fault, t)

/-- An action is ended by a fault in its first part, or by one in what follows. -/
theorem fails_bind {act : Act S β} {next : β → Act S γ} {s t : S} {fault : Fault} :
    (act >>= next).Fails s fault t ↔
      act.Fails s fault t ∨ ∃ found m, act.Completes s found m ∧ (next found).Fails m fault t := by
  unfold Fails Completes
  rw [perform_bind]
  rcases act.perform s with ⟨_ | found, m⟩
  · simp
  · constructor
    · intro failed
      exact .inr ⟨found, m, rfl, failed⟩
    · rintro (failed | ⟨_, _, equal, failed⟩)
      · cases failed
      · cases equal
        exact failed

@[simp] theorem not_fails_pure {found : β} {s t : S} {fault : Fault} :
    ¬ (pure found : Act S β).Fails s fault t := by
  simp [Fails]

@[simp] theorem not_fails_get {s t : S} {fault : Fault} : ¬ (get : Act S S).Fails s fault t := by
  simp [Fails]

@[simp] theorem not_fails_set {after s t : S} {fault : Fault} :
    ¬ (set after : Act S PUnit).Fails s fault t := by
  simp [Fails]

@[simp] theorem not_fails_modify {change : S → S} {s t : S} {fault : Fault} :
    ¬ (modify change : Act S PUnit).Fails s fault t := by
  simp [Fails]

@[simp] theorem fails_lift {result : Except Fault β} {s t : S} {fault : Fault} :
    (liftM result : Act S β).Fails s fault t ↔ result = .error fault ∧ t = s := by
  show (result, s) = (.error fault, t) ↔ _
  simp [eq_comm]

theorem fails_get_bind {next : S → Act S γ} {s t : S} {fault : Fault} :
    (get >>= next).Fails s fault t ↔ (next s).Fails s fault t := by
  unfold Fails
  rw [perform_bind, perform_get]

/-- There is no third way for an action to end. -/
theorem completes_or_fails (act : Act S β) (s : S) :
    (∃ answer t, act.Completes s answer t) ∨ ∃ fault t, act.Fails s fault t := by
  unfold Completes Fails
  rcases act.perform s with ⟨fault | answer, t⟩
  · exact .inr ⟨fault, t, rfl⟩
  · exact .inl ⟨answer, t, rfl⟩

theorem exists_completes {act : Act S β} {s : S} (never : ∀ fault t, ¬ act.Fails s fault t) :
    ∃ answer t, act.Completes s answer t :=
  (completes_or_fails act s).resolve_right fun ⟨fault, t, failed⟩ => never fault t failed

theorem Fails.not_completes {act : Act S β} {s t m : S} {fault : Fault} {answer : β}
    (failed : act.Fails s fault t) : ¬ act.Completes s answer m := by
  intro completed
  cases failed.symm.trans completed

/-! ## Sweeps

A sweep carries out one action for each member of a list, in order. -/

inductive Sweeps (ask : ι → Act S β) : List ι → S → List β → S → Prop where
  | nil {s : S} : Sweeps ask [] s [] s
  | cons {x : ι} {xs : List ι} {answer : β} {answers : List β} {s m t : S}
      (first : (ask x).Completes s answer m) (rest : Sweeps ask xs m answers t) :
      Sweeps ask (x :: xs) s (answer :: answers) t

def accepted (xs : List ι) (answers : List Bool) : List ι :=
  ((xs.zip answers).filter Prod.snd).map Prod.fst

theorem accepted_sublist (xs : List ι) (answers : List Bool) :
    (accepted xs answers).Sublist xs := by
  induction xs generalizing answers with
  | nil => simp [accepted]
  | cons x xs ih =>
    cases answers with
    | nil => simp [accepted]
    | cons yes answers =>
      have rest := ih answers
      cases yes with
      | true => exact rest.cons_cons x
      | false => exact rest.cons x

namespace Sweeps

variable {ask : ι → Act S β} {xs : List ι} {answers : List β} {s t : S}

theorem length_eq (sweep : Sweeps ask xs s answers t) : answers.length = xs.length := by
  induction sweep with
  | nil => rfl
  | cons _ _ ih => simp [ih]

/-- What holds between the two ends of every action holds between those of the sweep, if it can be
chained. -/
theorem chain {R : S → S → Prop} (refl : ∀ s, R s s)
    (trans : ∀ {s m t}, R s m → R m t → R s t)
    (single : ∀ x {s b t}, (ask x).Completes s b t → R s t)
    (sweep : Sweeps ask xs s answers t) : R s t := by
  induction sweep with
  | nil => exact refl _
  | cons first _ ih => exact trans (single _ first) ih

/-- A sweep has the answers that are known beforehand. -/
theorem eq_map {answer : ι → β} (sweep : Sweeps ask xs s answers t)
    (known : ∀ x {s b t}, (ask x).Completes s b t → b = answer x) : answers = xs.map answer := by
  induction sweep with
  | nil => rfl
  | cons first _ ih => rw [List.map_cons, known _ first, ih]

end Sweeps

theorem completes_mapM {ask : ι → Act S β} {xs : List ι} {answers : List β} {s t : S} :
    (xs.mapM ask).Completes s answers t ↔ Sweeps ask xs s answers t := by
  induction xs generalizing s t answers with
  | nil =>
    rw [List.mapM_nil, completes_pure]
    constructor
    · rintro ⟨rfl, rfl⟩
      exact .nil
    · intro sweep
      cases sweep
      exact ⟨rfl, rfl⟩
  | cons x xs ih =>
    simp only [List.mapM_cons, completes_bind, completes_pure, ih]
    constructor
    · rintro ⟨b, m, first, bs, _, rest, rfl, rfl⟩
      exact .cons first rest
    · intro sweep
      cases sweep with
      | cons first rest => exact ⟨_, _, first, _, _, rest, rfl, rfl⟩

/-- A fault ends a sweep at one of its members, after all before it have been answered. -/
theorem fails_mapM {ask : ι → Act S β} {xs : List ι} {s t : S} {fault : Fault} :
    (xs.mapM ask).Fails s fault t ↔
      ∃ before x after answers m, xs = before ++ x :: after ∧ Sweeps ask before s answers m ∧
        (ask x).Fails m fault t := by
  induction xs generalizing s with
  | nil =>
    rw [List.mapM_nil]
    constructor
    · exact fun failed => absurd failed not_fails_pure
    · rintro ⟨before, x, after, _, _, split, _⟩
      simp at split
  | cons x xs ih =>
    simp only [List.mapM_cons, fails_bind, not_fails_pure, and_false, exists_false, or_false, ih]
    constructor
    · rintro (failed | ⟨answer, m, first, before, y, after, answers, w, rfl, rest, failed⟩)
      · exact ⟨[], x, xs, [], s, rfl, .nil, failed⟩
      · exact ⟨x :: before, y, after, answer :: answers, w, rfl, .cons first rest, failed⟩
    · rintro ⟨before, y, after, answers, w, split, swept, failed⟩
      cases swept with
      | nil =>
        cases split
        exact .inl failed
      | cons first rest =>
        cases split
        exact .inr ⟨_, _, first, _, y, after, _, w, rfl, rest, failed⟩

theorem completes_filterAuxM {ask : ι → Act S Bool} {xs before kept : List ι} {s t : S} :
    (List.filterAuxM ask xs before).Completes s kept t ↔
      ∃ answers, Sweeps ask xs s answers t ∧ kept = (accepted xs answers).reverse ++ before := by
  induction xs generalizing s before with
  | nil =>
    rw [List.filterAuxM, completes_pure]
    constructor
    · rintro ⟨rfl, rfl⟩
      exact ⟨[], .nil, rfl⟩
    · rintro ⟨answers, sweep, rfl⟩
      cases sweep
      exact ⟨rfl, rfl⟩
  | cons x xs ih =>
    simp only [List.filterAuxM, completes_bind, ih]
    constructor
    · rintro ⟨yes, m, first, answers, rest, rfl⟩
      refine ⟨yes :: answers, .cons first rest, ?_⟩
      cases yes <;> simp [accepted]
    · rintro ⟨_, sweep, rfl⟩
      cases sweep with
      | @cons _ _ yes answers _ m _ first rest =>
        refine ⟨yes, m, first, answers, rest, ?_⟩
        cases yes <;> simp [accepted]

theorem completes_filterM {ask : ι → Act S Bool} {xs kept : List ι} {s t : S} :
    (xs.filterM ask).Completes s kept t ↔
      ∃ answers, Sweeps ask xs s answers t ∧ kept = accepted xs answers := by
  simp only [List.filterM, completes_bind, completes_filterAuxM, completes_pure, List.append_nil]
  constructor
  · rintro ⟨_, _, ⟨answers, sweep, rfl⟩, rfl, rfl⟩
    exact ⟨answers, sweep, List.reverse_reverse _⟩
  · rintro ⟨answers, sweep, rfl⟩
    exact ⟨_, _, ⟨answers, sweep, rfl⟩, (List.reverse_reverse _).symm, rfl⟩

theorem accepted_map (xs : List ι) (answer : ι → Bool) :
    accepted xs (xs.map answer) = xs.filter answer := by
  induction xs with
  | nil => rfl
  | cons x xs ih =>
    rw [List.filter_cons, ← ih]
    cases yes : answer x <;> simp [accepted, yes]

theorem Sweeps.asked_of_mem_accepted {ask : ι → Act S Bool} {xs : List ι} {answers : List Bool}
    {s t : S} (sweep : Sweeps ask xs s answers t) {x : ι} (kept : x ∈ accepted xs answers) :
    x ∈ xs ∧ ∃ before after, (ask x).Completes before true after := by
  induction sweep with
  | nil => simp [accepted] at kept
  | @cons y ys yes answers _ _ _ first _ ih =>
    cases yes with
    | false =>
      obtain ⟨member, asked⟩ := ih (by simpa [accepted] using kept)
      exact ⟨List.mem_cons_of_mem _ member, asked⟩
    | true =>
      rcases (by simpa [accepted] using kept : x = y ∨ x ∈ accepted ys answers) with rfl | later
      · exact ⟨List.mem_cons_self, _, _, first⟩
      · obtain ⟨member, asked⟩ := ih later
        exact ⟨List.mem_cons_of_mem _ member, asked⟩

end Carousel.Act
