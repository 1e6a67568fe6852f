import Mathlib.Order.Lattice
import Carousel.Proofs.Rounding
import Carousel.Value.Comparison

/-!
# The order of floating-point numbers

Magnitudes increase with their ranks, also from one binade to the next, so the integers by which
numbers are ranked order them as their exact values do.  Not-a-number takes the place of negative
infinity.
-/

namespace Carousel

namespace Binary64

/-! ## Magnitudes increase -/

/-- The next rank has the next significand, or the least one at the next power of two. -/
theorem scale_succ {rank : Nat} (large : binade ≤ rank) :
    scale (rank + 1) = scale rank ∧ significand (rank + 1) = significand rank + 1 ∨
      scale (rank + 1) = scale rank + 1 ∧ 2 * significand (rank + 1) = significand rank + 1 := by
  have larger : binade ≤ rank + 1 := by omega
  have parts := scale_add_significand large
  have parts' := scale_add_significand larger
  obtain ⟨least, below⟩ := significand_of_le large
  obtain ⟨least', below'⟩ := significand_of_le larger
  rw [binade_eq] at parts parts'
  omega

theorem magnitude_binade : magnitude binade = binade := by decide +kernel

theorem magnitude_lt_succ (rank : Nat) : magnitude rank < magnitude (rank + 1) := by
  rcases Nat.lt_trichotomy (rank + 1) binade with small | first | large
  · rw [magnitude_of_lt small, magnitude_of_lt (by omega)]
    exact Nat.lt_succ_self rank
  · rw [first, magnitude_binade, magnitude_of_lt (by omega)]
    omega
  · have positive : 0 < Nat.pow 2 (scale rank) := Nat.pow_pos (by decide)
    unfold magnitude
    rcases scale_succ (Nat.le_of_lt_succ large) with ⟨same, next⟩ | ⟨next, carried⟩
    · rw [same, next]
      exact Nat.mul_lt_mul_of_pos_right (Nat.lt_succ_self _) positive
    · have doubled : significand (rank + 1) * Nat.pow 2 (scale rank + 1) =
          (significand rank + 1) * Nat.pow 2 (scale rank) := by
        rw [← carried, Nat.pow_eq, Nat.pow_eq, Nat.pow_succ]
        ring
      rw [next, doubled]
      exact Nat.mul_lt_mul_of_pos_right (Nat.lt_succ_self _) positive

theorem magnitude_strictMono : StrictMono magnitude := strictMono_nat_of_lt_succ magnitude_lt_succ

theorem magnitude_pos {rank : Nat} (positive : 0 < rank) : 0 < magnitude rank :=
  Nat.lt_of_le_of_lt (Nat.zero_le _) (magnitude_strictMono positive)

/-! ## Rounding keeps the order -/

end Binary64

theorem roundHalfEven_le_succ (num den : Nat) : roundHalfEven num den ≤ num / den + 1 := by
  simp only [roundHalfEven]
  split
  · omega
  · split <;> omega

theorem roundHalfEven_mono {num num' : Nat} (den : Nat) (less : num ≤ num') :
    roundHalfEven num den ≤ roundHalfEven num' den := by
  have quotients : num / den ≤ num' / den := Nat.div_le_div_right less
  rcases Nat.lt_or_eq_of_le quotients with below | same
  · have upper := roundHalfEven_le_succ num den
    have lower := div_le_roundHalfEven num' den
    omega
  · -- With equal quotients the remainders are ordered as the numbers are.
    have parts := Nat.div_add_mod num den
    have parts' := Nat.div_add_mod num' den
    have remainders : num % den ≤ num' % den := by
      rw [same] at parts
      omega
    simp only [roundHalfEven, same]
    split <;> split <;> (try split) <;> (try split) <;> omega

theorem log2_mono {a b : Nat} (less : a ≤ b) : Nat.log2 a ≤ Nat.log2 b := by
  rcases Nat.eq_zero_or_pos a with rfl | positive
  · simp
  · have nonzero : a ≠ 0 := Nat.ne_of_gt positive
    have nonzero' : b ≠ 0 := by omega
    exact (Nat.le_log2 nonzero').2 (Nat.le_trans (Nat.log2_self_le nonzero) less)

namespace Binary64

/-- What is scaled by a power of two is rounded to at most the end of the next binade. -/
theorem roundHalfEven_le_binades (num den : Nat) :
    roundHalfEven num (den * Nat.pow 2 (Nat.log2 (num / den) - 52)) ≤ 2 * binade := by
  have rounded := roundHalfEven_le_succ num (den * Nat.pow 2 (Nat.log2 (num / den) - 52))
  have power : 0 < Nat.pow 2 (Nat.log2 (num / den) - 52) := Nat.pow_pos (by decide)
  have below : num / den < 2 * binade * Nat.pow 2 (Nat.log2 (num / den) - 52) := by
    calc num / den < 2 ^ (Nat.log2 (num / den) + 1) := Nat.lt_log2_self
      _ ≤ 2 ^ (53 + (Nat.log2 (num / den) - 52)) := Nat.pow_le_pow_right (by decide) (by omega)
      _ = 2 * binade * Nat.pow 2 (Nat.log2 (num / den) - 52) := by
        rw [Nat.pow_add]
        rfl
  have quotient : num / (den * Nat.pow 2 (Nat.log2 (num / den) - 52)) < 2 * binade := by
    rw [← Nat.div_div_eq_div_mul]
    exact (Nat.div_lt_iff_lt_mul power).2 below
  omega

/-- What is scaled by a positive power of two fills a binade. -/
theorem binade_le_roundHalfEven {num den : Nat} (scaled : 53 ≤ Nat.log2 (num / den)) :
    binade ≤ roundHalfEven num (den * Nat.pow 2 (Nat.log2 (num / den) - 52)) := by
  have power : 0 < Nat.pow 2 (Nat.log2 (num / den) - 52) := Nat.pow_pos (by decide)
  have nonzero : num / den ≠ 0 := by
    intro zero
    rw [zero, Nat.log2_zero] at scaled
    omega
  have full : binade * Nat.pow 2 (Nat.log2 (num / den) - 52) ≤ num / den := by
    calc binade * Nat.pow 2 (Nat.log2 (num / den) - 52)
        = 2 ^ (52 + (Nat.log2 (num / den) - 52)) := (Nat.pow_add ..).symm
      _ = 2 ^ Nat.log2 (num / den) := by rw [Nat.add_sub_cancel' (by omega)]
      _ ≤ num / den := Nat.log2_self_le nonzero
  calc binade ≤ num / den / Nat.pow 2 (Nat.log2 (num / den) - 52) :=
        (Nat.le_div_iff_mul_le power).2 full
    _ = num / (den * Nat.pow 2 (Nat.log2 (num / den) - 52)) := Nat.div_div_eq_div_mul ..
    _ ≤ _ := div_le_roundHalfEven _ _

theorem nearestRank_mono_right {num num' : Nat} (den : Nat) (less : num ≤ num') :
    (nearestRank num den).val ≤ (nearestRank num' den).val := by
  have logs := log2_mono (Nat.div_le_div_right less : num / den ≤ num' / den)
  have unscaled : Nat.log2 (num / den) - 52 ≤ Nat.log2 (num' / den) - 52 := by omega
  -- Both are capped alike, so the ranks can be compared before the cap.
  suffices ranks : (Nat.log2 (num / den) - 52) * binade +
      roundHalfEven num (den * Nat.pow 2 (Nat.log2 (num / den) - 52)) ≤
      (Nat.log2 (num' / den) - 52) * binade +
        roundHalfEven num' (den * Nat.pow 2 (Nat.log2 (num' / den) - 52)) by
    exact min_le_min_right _ ranks
  rcases Nat.lt_or_eq_of_le unscaled with higher | same
  · -- The ranks lie in different binades, or where one binade ends and the next begins.
    have upper := roundHalfEven_le_binades num den
    have lower := binade_le_roundHalfEven (show 53 ≤ Nat.log2 (num' / den) by omega)
    have binades := Nat.mul_le_mul_right binade (Nat.succ_le_of_lt higher)
    rw [Nat.succ_mul] at binades
    omega
  · rw [same]
    exact Nat.add_le_add_left (roundHalfEven_mono _ less) _

/-- Rounding keeps the order of quotients. -/
theorem nearestRank_mono {num den num' den' : Nat} (positive : 0 < den) (positive' : 0 < den')
    (cross : num * den' ≤ num' * den) :
    (nearestRank num den).val ≤ (nearestRank num' den').val := by
  rw [← nearestRank_mul_right num den positive', ← nearestRank_mul_right num' den' positive,
    Nat.mul_comm den' den]
  exact nearestRank_mono_right _ cross

/-! ## Keys order numbers -/

def level (key : Int) : Int :=
  if key < 0 then -(magnitude key.natAbs : Int) else magnitude key.natAbs

theorem level_lt_of_lt {key key' : Int} (less : key < key') : level key < level key' := by
  have mono {a b : Nat} (below : a < b) : magnitude a < magnitude b := magnitude_strictMono below
  unfold level
  by_cases negative : key < 0
  · rw [if_pos negative]
    by_cases negative' : key' < 0
    · have := mono (show key'.natAbs < key.natAbs by omega)
      rw [if_pos negative']
      omega
    · have := magnitude_pos (show 0 < key.natAbs by omega)
      rw [if_neg negative']
      omega
  · have := mono (show key.natAbs < key'.natAbs by omega)
    rw [if_neg negative, if_neg (by omega)]
    omega

theorem level_le_iff {key key' : Int} : level key ≤ level key' ↔ key ≤ key' := by
  rcases Int.lt_trichotomy key key' with less | rfl | more
  · have := level_lt_of_lt less
    omega
  · simp
  · have := level_lt_of_lt more
    omega

def placeOf (key : Int) : Number.Place :=
  if key = infiniteRank then .above
  else if key = -(infiniteRank : Int) then .below
  else .finite (level key)

theorem placeOf_le {key key' : Int} (within : key.natAbs ≤ infiniteRank)
    (within' : key'.natAbs ≤ infiniteRank) :
    (placeOf key).le (placeOf key') = true ↔ key ≤ key' := by
  have positive : 0 < infiniteRank := by decide +kernel
  unfold placeOf
  -- An infinite key is not below any other on its own side.
  split_ifs <;> simp only [Number.Place.le, decide_eq_true_eq, level_le_iff] <;> simp <;> omega

theorem placeOf_infinite (negative : Bool) :
    placeOf (if negative then -(infiniteRank : Int) else infiniteRank) =
      if negative then .below else .above := by
  have positive : 0 < infiniteRank := by decide +kernel
  cases negative with
  | false => exact if_pos rfl
  | true => exact (if_neg (by simp; omega)).trans (if_pos rfl)

theorem placeOf_finite {negative : Bool} {rank : Nat} (finite : rank < infiniteRank) :
    placeOf (if negative then -(rank : Int) else rank) =
      .finite (if negative then -(magnitude rank : Int) else magnitude rank) := by
  have zero : magnitude 0 = 0 := rfl
  unfold placeOf level
  cases negative with
  | false =>
    simp only [Bool.false_eq_true, if_false]
    rw [if_neg (by omega), if_neg (by omega), if_neg (by omega), Int.natAbs_natCast]
  | true =>
    simp only [if_true]
    rw [if_neg (by omega), if_neg (by omega), Int.natAbs_neg, Int.natAbs_natCast]
    split
    · rfl
    · obtain rfl : rank = 0 := by omega
      simp [zero]

theorem rankKey_num (negative : Bool) (rank : Rank) :
    (num negative rank).rankKey = if negative then -(rank.val : Int) else rank.val := rfl

theorem place?_num (negative : Bool) (rank : Rank) :
    (Number.real (num negative rank)).place? = some (placeOf (num negative rank).rankKey) := by
  have most := Nat.le_of_lt_succ rank.isLt
  rw [rankKey_num, Number.place?, units?]
  by_cases infinite : rank.val = infiniteRank
  · rw [if_pos infinite, infinite, placeOf_infinite]
  · rw [if_neg infinite, placeOf_finite (by omega)]

/-- Every number is ranked at its place, and not-a-number at that of negative infinity. -/
theorem place?_rankable (x : Binary64) :
    (Number.real x.rankable).place? = some (placeOf x.rankKey) := by
  cases x with
  | nan => exact place?_num true ⟨infiniteRank, by decide⟩
  | num negative rank => exact place?_num negative rank

theorem natAbs_rankKey_le (x : Binary64) : x.rankKey.natAbs ≤ infiniteRank := by
  cases x with
  | nan => decide +kernel
  | num negative rank =>
    have most := Nat.le_of_lt_succ rank.isLt
    rw [rankKey_num]
    cases negative <;> simp only [Bool.false_eq_true, if_true, if_false] <;> omega

/-- Numbers are ranked by their exact values. -/
theorem rankable_le (x y : Binary64) :
    (Number.real x.rankable).le (.real y.rankable) = true ↔ x.rankKey ≤ y.rankKey := by
  rw [Number.le, place?_rankable, place?_rankable]
  exact placeOf_le (natAbs_rankKey_le x) (natAbs_rankKey_le y)

end Binary64

theorem Number.int_le (i j : Int) : (Number.int i).le (.int j) = true ↔ i ≤ j := by
  have positive : (0 : Int) < Binary64.unitsPerOne := Int.natCast_pos.2 Binary64.unitsPerOne_pos
  simp only [le, place?, Place.le, decide_eq_true_eq]
  exact Int.mul_le_mul_iff_of_pos_right positive

end Carousel
