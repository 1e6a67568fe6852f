import Carousel.Proofs.Choice

/-!
# Best scores

The scores of one sweep are compared as whole numbers, or rounded if one of them is none.  What is chosen
has a score that no other one of the sweep surpasses, and where ties are not drawn it is the first that has
it, which determines the choice.
-/

namespace Carousel

open Draw (Generator)

variable {γ : Type} {random : Bool} {candidates : List γ} {scores : List Score} {chosen other : γ}
  {keys : List Int}

/-- The integers by which the scores of one sweep are compared: the scores themselves if all of them are
integers, and otherwise what they are rounded to, where a missing score ranks with negative infinity.  A
score that is a sequence counts with each of its leaves, and one that is none is its own leaf. -/
inductive Ranks (scores : List Score) : List Int → Prop where
  | exact {integers : List Int} (all : scores.mapM Column.integer? = some integers) :
      Ranks scores integers
  | rounded {numbers : List Binary64} (mixed : scores.mapM Column.integer? = none)
      (rated : (Value.leavesOfAll scores).mapM Column.rating = .ok numbers) :
      Ranks scores (numbers.map Binary64.rankKey)

/-- The candidate stands at a place of the sweep whose score none surpasses, and unless ties are drawn no
earlier place has that score. -/
def Best (random : Bool) (candidates : List γ) (scores : List Score) (chosen : γ) : Prop :=
  ∃ (keys : List Int) (place : Nat) (best : Int), Ranks scores keys ∧ candidates[place]? = some chosen ∧
    keys[place]? = some best ∧ (∀ key ∈ keys, key ≤ best) ∧
    (random = false → ∀ earlier < place, keys[earlier]? ≠ some best)

theorem Ranks.unique {keys' : List Int} (ranks : Ranks scores keys) (again : Ranks scores keys') :
    keys = keys' := by
  cases ranks with
  | exact all =>
    cases again with
    | exact all' => exact Option.some.inj (all.symm.trans all')
    | rounded mixed _ => cases all.symm.trans mixed
  | rounded mixed rated =>
    cases again with
    | exact all => cases all.symm.trans mixed
    | rounded _ rated' => rw [Except.ok.inj (rated.symm.trans rated')]

theorem Best.unique (best : Best false candidates scores chosen)
    (again : Best false candidates scores other) : chosen = other := by
  obtain ⟨keys, place, top, ranks, at_place, reached, greatest, first⟩ := best
  obtain ⟨keys', place', top', ranks', at_place', reached', greatest', first'⟩ := again
  cases ranks.unique ranks'
  -- Both places reach the greatest entry, and neither comes after the other.
  have same : top = top' := by
    have := greatest _ (List.mem_of_getElem? reached')
    have := greatest' _ (List.mem_of_getElem? reached)
    omega
  subst same
  have together : place = place' := by
    rcases Nat.lt_trichotomy place place' with before | equal | behind
    · exact absurd reached (first' rfl place before)
    · exact equal
    · exact absurd reached' (first rfl place' behind)
  subst together
  exact Option.some.inj (at_place.symm.trans at_place')

theorem Best.mem (best : Best random candidates scores chosen) : chosen ∈ candidates := by
  obtain ⟨_, _, _, _, at_place, _⟩ := best
  exact List.mem_of_getElem? at_place

/-! ## The choice -/

theorem ranks_of_ofScores {column : Column} (made : Column.ofScores scores = .ok column) :
    Ranks scores column.keys := by
  unfold Column.ofScores at made
  split at made
  · rename_i integers all
    cases made
    exact .exact all
  · rename_i mixed
    simp only at made
    split at made
    · cases made
    · obtain ⟨numbers, rated, same⟩ := bind_eq_ok.1 made
      cases same
      exact .rounded mixed rated

namespace Column

variable {column : Column}

theorem place_of_mem_tied (kept : chosen ∈ column.tied candidates) :
    ∃ (place : Nat) (best : Int), column.best? = some best ∧ candidates[place]? = some chosen ∧
      column.keys[place]? = some best := by
  unfold tied at kept
  split at kept
  · cases kept
  · rename_i best found
    obtain ⟨entry, member, rfl⟩ := List.mem_map.1 kept
    obtain ⟨inside, reached⟩ := List.mem_filter.1 member
    obtain ⟨place, looked⟩ := List.mem_iff_getElem?.1 inside
    obtain ⟨left, right⟩ := List.getElem?_zip_eq_some.1 looked
    exact ⟨place, best, found, left, right.trans (congrArg some (beq_iff_eq.1 reached))⟩

theorem place_of_head?_tied (first : (column.tied candidates).head? = some chosen) :
    ∃ (place : Nat) (best : Int), column.best? = some best ∧ candidates[place]? = some chosen ∧
      column.keys[place]? = some best ∧ ∀ earlier < place, column.keys[earlier]? ≠ some best := by
  unfold tied at first
  split at first
  · cases first
  · rename_i best found
    rw [List.head?_map, List.head?_filter] at first
    obtain ⟨entry, located, rfl⟩ := Option.map_eq_some_iff.1 first
    obtain ⟨reached, place, inside, rfl, earliest⟩ := List.find?_eq_some_iff_getElem.1 located
    obtain ⟨left, right⟩ := List.getElem?_zip_eq_some.1 (List.getElem?_eq_getElem inside)
    refine ⟨place, best, found, left, right.trans (congrArg some (beq_iff_eq.1 reached)), ?_⟩
    intro earlier before again
    have other := earliest earlier before
    rw [List.length_zip] at inside
    rw [List.getElem_zip, Bool.not_eq_true', beq_eq_false_iff_ne] at other
    exact other (List.getElem_eq_iff _ |>.2 again)

end Column

theorem pick_eq_some {tied : List γ} {g : Generator} (picked : (pick random tied g).1 = some chosen) :
    chosen ∈ tied ∧ (random = false → tied.head? = some chosen) := by
  unfold pick at picked
  split at picked
  · rename_i drawn
    exact ⟨List.mem_of_getElem? picked, fun off => absurd (drawn.1.symm.trans off) (by decide)⟩
  · exact ⟨List.mem_of_head? picked, fun _ => picked⟩

theorem place_of_pick {column : Column} {g : Generator}
    (picked : (pick random (column.tied candidates) g).1 = some chosen) :
    ∃ (place : Nat) (best : Int), candidates[place]? = some chosen ∧ column.keys[place]? = some best ∧
      (∀ key ∈ column.keys, key ≤ best) ∧
      (random = false → ∀ earlier < place, column.keys[earlier]? ≠ some best) := by
  obtain ⟨tied, first⟩ := pick_eq_some picked
  have greatest {best : Int} (found : column.best? = some best) : ∀ key ∈ column.keys, key ≤ best :=
    (List.max?_eq_some_iff.1 found).2
  cases random with
  | true =>
    obtain ⟨place, best, found, left, right⟩ := Column.place_of_mem_tied tied
    exact ⟨place, best, left, right, greatest found, nofun⟩
  | false =>
    obtain ⟨place, best, found, left, right, earliest⟩ := Column.place_of_head?_tied (first rfl)
    exact ⟨place, best, left, right, greatest found, fun _ => earliest⟩

/-- What is chosen has the best score. -/
theorem best_of_chooseBest {g after : Generator}
    (choice : chooseBest random candidates scores g = .ok (some chosen, after)) :
    Best random candidates scores chosen := by
  unfold chooseBest at choice
  split at choice
  · cases choice
  obtain ⟨column, made, choice⟩ := bind_eq_ok.1 choice
  have ranks := ranks_of_ofScores made
  simp only at choice
  split at choice
  · obtain ⟨place, best, left, rest⟩ := place_of_pick (congrArg Prod.fst (Except.ok.inj choice))
    exact ⟨_, place, best, ranks, left, rest⟩
  · -- There are more leaves than candidates, and the choice is between their places.
    obtain ⟨places, among, choice⟩ := bind_eq_ok.1 choice
    split at choice
    · rename_i candidate located
      cases choice
      obtain ⟨place, picked, left⟩ := Option.bind_eq_some_iff.1 located
      unfold Column.tiedPlaces at among
      split at among <;> cases among
      obtain ⟨found, best, itself, rest⟩ := place_of_pick picked
      obtain rfl : found = place := by simpa using (List.getElem?_eq_some_iff.1 itself).2
      exact ⟨_, found, best, ranks, left, rest⟩
    · cases choice

end Carousel
