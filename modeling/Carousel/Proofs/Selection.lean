import Carousel.Selection

/-!
# Sound selections

A selection keeps its members twice: in order, and as marks.  It is sound when no member occurs
twice and the marks agree with the order.  Every operation keeps a selection sound, and a sound
selection and what remains make up the universe.
-/

namespace Carousel.Selection

variable {n : Nat} {s t : Selection n} {position : Fin n}

/-- No candidate is selected twice, and exactly the selected ones are marked. -/
structure Sound (s : Selection n) : Prop where
  nodup : s.order.Nodup
  marked : ∀ position, s.contains position = true ↔ position ∈ s.order

theorem get_mark (marks : Vector Bool n) (position other : Fin n) (selected : Bool) :
    (mark marks position selected).get other =
      if position = other then selected else marks.get other := by
  show (marks.set position selected)[other.val] = if position = other then selected else marks[other.val]
  rw [Vector.getElem_set]
  simp only [Fin.ext_iff]

theorem get_foldl_unmark (removed : List (Fin n)) (marks : Vector Bool n) (other : Fin n) :
    (removed.foldl (mark · · false) marks).get other = (marks.get other && !removed.contains other) := by
  induction removed generalizing marks with
  | nil => simp
  | cons first rest ih =>
    rw [List.foldl_cons, ih, get_mark, List.contains_cons]
    by_cases same : first = other
    · simp [same]
    · have apart : (other == first) = false := by simpa using Ne.symm same
      simp [same, apart]

theorem sound_empty : (empty n).Sound := by
  refine ⟨List.nodup_nil, fun position => ?_⟩
  simp [empty, contains, Vector.get]

def holding (order : List (Fin n)) : Selection n :=
  ⟨order, Vector.ofFn fun position => order.contains position⟩

theorem sound_holding {order : List (Fin n)} (nodup : order.Nodup) : (holding order).Sound := by
  refine ⟨nodup, fun position => ?_⟩
  show (Vector.ofFn fun position => order.contains position)[position.val] = true ↔ position ∈ order
  simp

/-! ## The operations keep a selection sound -/

theorem add_eq_ok_iff (sound : s.Sound) :
    s.add position = .ok t ↔
      position ∉ s.order ∧ t = ⟨s.order ++ [position], mark s.marks position true⟩ := by
  rw [← sound.marked, add]
  split
  · rename_i selected
    simp [selected]
  · rename_i unselected
    simp [unselected, eq_comm]

theorem Sound.add (sound : s.Sound) (added : s.add position = .ok t) : t.Sound := by
  obtain ⟨fresh, rfl⟩ := (add_eq_ok_iff sound).1 added
  refine ⟨?_, fun other => ?_⟩
  · exact List.nodup_append.2 ⟨sound.nodup, by simp, fun a member b single equal =>
      fresh (List.mem_singleton.1 single ▸ equal ▸ member)⟩
  · have marked := sound.marked other
    simp only [contains] at marked ⊢
    rw [get_mark, List.mem_append, List.mem_singleton]
    by_cases same : position = other
    · simp [same]
    · simp [same, Ne.symm same, marked]

theorem Sound.nodup_extended (sound : s.Sound) (fresh : position ∉ s.order) :
    (s.extended position).Nodup :=
  (sound.add ((add_eq_ok_iff sound).2 ⟨fresh, rfl⟩)).nodup

theorem Sound.popOldest (sound : s.Sound) : s.popOldest.2.Sound := by
  cases s with
  | mk order marks =>
    cases order with
    | nil => exact sound
    | cons oldest rest =>
      -- The mark of the oldest is taken back, and it does not occur in the rest.
      obtain ⟨absent, nodup⟩ := List.nodup_cons.1 sound.nodup
      refine ⟨nodup, fun other => ?_⟩
      have marked := sound.marked other
      simp only [Selection.popOldest, contains, List.mem_cons] at marked ⊢
      rw [get_mark]
      by_cases same : oldest = other
      · subst same
        simp [absent]
      · simp [same, Ne.symm same, marked]

theorem Sound.dropNewest (sound : s.Sound) (count : Int) : (s.dropNewest count).2.Sound := by
  have split := List.take_append_drop (s.size - count.toNat) s.order
  have nodup := sound.nodup
  rw [← split, List.nodup_append] at nodup
  refine ⟨nodup.1, fun other => ?_⟩
  have marked := sound.marked other
  simp only [Selection.dropNewest, contains] at marked ⊢
  rw [get_foldl_unmark, Bool.and_eq_true, marked, Bool.not_eq_true', ← Bool.not_eq_true,
    List.contains_iff_mem]
  constructor
  · rintro ⟨member, kept⟩
    rw [← split, List.mem_append] at member
    exact member.resolve_right kept
  · intro member
    exact ⟨List.mem_of_mem_take member, fun dropped => nodup.2.2 _ member _ dropped rfl⟩

/-! ## What remains -/

theorem Sound.mem_remaining_iff (sound : s.Sound) : position ∈ s.remaining ↔ position ∉ s.order := by
  rw [mem_remaining, ← sound.marked, Bool.not_eq_true]

theorem Sound.nodup_append_remaining (sound : s.Sound) : (s.order ++ s.remaining).Nodup := by
  refine List.nodup_append.2 ⟨sound.nodup, (List.nodup_finRange n).filter _, ?_⟩
  intro a member b remains equal
  exact sound.mem_remaining_iff.1 remains (equal ▸ member)

/-- The selected candidates and the remaining ones are all there are, each once. -/
theorem Sound.perm_append_remaining (sound : s.Sound) :
    (s.order ++ s.remaining).Perm (List.finRange n) := by
  refine (List.perm_ext_iff_of_nodup sound.nodup_append_remaining (List.nodup_finRange n)).2 ?_
  intro position
  simp only [List.mem_append, sound.mem_remaining_iff, List.mem_finRange, iff_true]
  exact Decidable.em _

theorem Sound.size_add_length_remaining (sound : s.Sound) : s.size + s.remaining.length = n := by
  simpa [size] using sound.perm_append_remaining.length_eq

theorem Sound.size_le (sound : s.Sound) : s.size ≤ n := by
  have := sound.size_add_length_remaining
  omega

theorem Sound.perm_of_remaining_eq_nil (sound : s.Sound) (nothing : s.remaining = []) :
    s.order.Perm (List.finRange n) := by
  simpa [nothing] using sound.perm_append_remaining

theorem Sound.perm_of_size_eq (sound : s.Sound) (full : s.size = n) :
    s.order.Perm (List.finRange n) := by
  apply sound.perm_of_remaining_eq_nil
  have counted := sound.size_add_length_remaining
  exact List.eq_nil_of_length_eq_zero (by omega)

end Carousel.Selection
