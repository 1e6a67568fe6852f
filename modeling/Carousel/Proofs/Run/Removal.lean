import Carousel.Proofs.Rounding
import Carousel.Proofs.Run.Growth

/-!
# Trimming selections

A share is never negative, so removal never keeps more than it found, and the clamp keeps two
members wherever there are two.
-/

namespace Carousel

/-! ## Counting a share -/

namespace Binary64

theorem units?_num {negative : Bool} {rank : Rank} (finite : rank.val ≠ infiniteRank) :
    (num negative rank).units? = some (if negative then -(magnitude rank : Int)
      else magnitude rank) := if_neg finite

theorem units?_num_of_some {negative : Bool} {rank : Rank} {units : Int}
    (found : (num negative rank).units? = some units) :
    units = if negative then -(magnitude rank : Int) else magnitude rank := by
  by_cases finite : rank.val = infiniteRank
  · rw [units?, if_pos finite] at found
    cases found
  · rw [units?_num finite] at found
    exact (Option.some.inj found).symm

/-- A negative number that is not below zero has no magnitude. -/
theorem magnitude_eq_zero {rank : Rank} (finite : rank.val ≠ infiniteRank)
    (least : (Number.int 0).le (.real (.num true rank)) = true) : magnitude rank = 0 := by
  simp only [Number.le, Number.place?, units?_num finite, Number.Place.le, if_true, Int.zero_mul,
    decide_eq_true_eq] at least
  omega

theorem floor?_infinity (negative : Bool) : (infinity negative).floor? = none := by
  rw [floor?, infinity, units?, if_pos rfl]
  rfl

/-- A product of numbers that are not negative has no negative integer below it, even if a factor is
a negative zero. -/
theorem floor?_mul_nonneg {a b : Rank} {negative : Bool} {count : Int}
    (least : (Number.int 0).le (.real (.num negative b)) = true)
    (floored : (num false a * num negative b).floor? = some count) : 0 ≤ count := by
  change (mul (num false a) (num negative b)).floor? = some count at floored
  rw [mul] at floored
  split at floored
  · split at floored
    · cases floored
    · rw [floor?_infinity] at floored
      cases floored
  · rename_i finite
    obtain ⟨units, found, rfl⟩ := Option.map_eq_some_iff.1 floored
    refine Int.fdiv_nonneg ?_ (Int.natCast_nonneg _)
    rw [units?_num_of_some found]
    cases negative with
    | false => exact Int.natCast_nonneg _
    | true =>
      -- Only a negative zero passes for a share, and its product is a zero as well.
      have nothing := magnitude_eq_zero (fun equal => finite (.inr equal)) least
      have product : magnitude (nearestRank (magnitude a * magnitude b) unitsPerOne) = 0 := by
        rw [nothing, Nat.mul_zero, nearestRank_eq_zero unitsPerOne_pos]
        rfl
      rw [product]
      exact Int.le_refl 0

end Binary64

namespace Share

theorem countOf_int {share : Share} {i : Int} (number : share.number = .int i) (size : Nat) :
    share.countOf size = size * i := by
  rw [countOf, number]

theorem countOf_real {share : Share} {x : Binary64} (number : share.number = .real x) (size : Nat) :
    share.countOf size = ((Binary64.ofRatio false size 1 * x).floor?).getD 0 := by
  unfold countOf
  split
  · rename_i i other
    cases number.symm.trans other
  · rename_i y same
    cases number.symm.trans same
    cases (Binary64.ofRatio false size 1 * x).floor? <;> rfl

theorem int_nonneg {i : Int} (least : (Number.int 0).le (.int i) = true) : 0 ≤ i := by
  simp only [Number.le, Number.place?, Number.Place.le, Int.zero_mul, decide_eq_true_eq] at least
  have positive : (0 : Int) < Binary64.unitsPerOne := Int.natCast_pos.2 Binary64.unitsPerOne_pos
  exact (Int.mul_nonneg_iff_of_pos_right positive).1 least

/-- A share counts no negative number, even if it is a negative zero. -/
theorem countOf_nonneg (share : Share) (size : Nat) : 0 ≤ share.countOf size := by
  have least := share.least
  cases number : share.number with
  | int i =>
    rw [number] at least
    rw [countOf_int number]
    exact Int.mul_nonneg (by omega) (int_nonneg least)
  | real x =>
    rw [number] at least
    rw [countOf_real number]
    cases x with
    | nan => cases least
    | num negative rank =>
      cases floored : (Binary64.ofRatio false size 1 * .num negative rank).floor? with
      | none => exact Int.le_refl 0
      | some count =>
        rw [Binary64.ofRatio] at floored
        exact Binary64.floor?_mul_nonneg least floored

end Share

/-! ## What stays -/

/-- How many of `size` members survive removal: a share leaves, but two stay if there are two. -/
def survivors (beta : Share) (size : Nat) : Int := max (min size 2) (size - beta.countOf size)

theorem survivors_eq (beta : Share) (size : Nat) :
    ((size - (Scene.removalCount (beta.countOf size) size).toNat : Nat) : Int) =
      survivors beta size := by
  have least := beta.countOf_nonneg size
  simp only [Scene.removalCount, survivors]
  split <;> omega

theorem survivors_le (beta : Share) (size : Nat) : survivors beta size ≤ size := by
  have least := beta.countOf_nonneg size
  simp only [survivors]
  omega

/-- Fewer survive than there were only if there were three, and the share counts one of them. -/
theorem of_survivors_lt {beta : Share} {size : Nat} (fewer : survivors beta size < size) :
    3 ≤ size ∧ 1 ≤ beta.countOf size := by
  have least := beta.countOf_nonneg size
  simp only [survivors] at fewer
  omega

end Carousel
