import Carousel.Decimal
import Mathlib.Tactic.Ring

/-!
# Rounding

Rounding looks at a quotient only, so a factor common to both of its sides goes away, and a
magnitude that a rank has already is not moved.  A decimal is therefore rounded by its value alone:
zeros can go from its digits to its exponent, and the shortest decimal of a magnitude reads back.
-/

namespace Carousel

theorem roundHalfEven_mul_right (num den : Nat) {factor : Nat} (positive : 0 < factor) :
    roundHalfEven (num * factor) (den * factor) = roundHalfEven num den := by
  have twice : 2 * (num % den * factor) = 2 * (num % den) * factor := by ring
  simp only [roundHalfEven, Nat.mul_div_mul_right _ _ positive, Nat.mul_mod_mul_right, twice,
    Nat.mul_lt_mul_right positive]

@[simp] theorem roundHalfEven_one (num : Nat) : roundHalfEven num 1 = num := by
  simp [roundHalfEven, Nat.mod_one]

theorem div_le_roundHalfEven (num den : Nat) : num / den ≤ roundHalfEven num den := by
  simp only [roundHalfEven]
  split
  · exact Nat.le_refl _
  · split <;> omega

theorem roundHalfEven_eq_zero {num den : Nat} (small : 2 * num < den) :
    roundHalfEven num den = 0 := by
  have below : num < den := by omega
  simp [roundHalfEven, Nat.mod_eq_of_lt below, Nat.div_eq_of_lt below, small]

namespace Binary64

theorem binade_eq : binade = 2 ^ 52 := rfl

/-- The exponent of the unit is kept behind a name, so that no step computes the power. -/
theorem unitsPerOne_eq {bits : Nat} (size : 1074 = bits) : unitsPerOne = 2 ^ bits := by
  rw [← size]
  decide +kernel

/-! ## Quotients -/

theorem nearestRank_mul_right (num den : Nat) {factor : Nat} (positive : 0 < factor) :
    nearestRank (num * factor) (den * factor) = nearestRank num den := by
  have scaled (shift : Nat) : den * factor * Nat.pow 2 shift = den * Nat.pow 2 shift * factor := by
    ring
  simp only [nearestRank, Nat.mul_div_mul_right _ _ positive, scaled,
    roundHalfEven_mul_right _ _ positive]

/-- Equal quotients are rounded to the same rank. -/
theorem nearestRank_eq_of_cross {num den num' den' : Nat} (positive : 0 < den)
    (positive' : 0 < den') (cross : num * den' = num' * den) :
    nearestRank num den = nearestRank num' den' := by
  rw [← nearestRank_mul_right num den positive', cross, Nat.mul_comm den,
    nearestRank_mul_right num' den' positive]

/-- What is less than half a unit is rounded to zero. -/
theorem nearestRank_eq_zero {num den : Nat} (small : 2 * num < den) : nearestRank num den = 0 := by
  have quotient : num / den = 0 := Nat.div_eq_of_lt (by omega)
  apply Fin.ext
  simp [nearestRank, quotient, roundHalfEven_eq_zero small]

/-- What lies above every finite magnitude is rounded to infinity. -/
theorem nearestRank_eq_infinite {num bits : Nat} (high : 2098 ≤ bits) (large : 2 ^ bits ≤ num) :
    (nearestRank num 1).val = infiniteRank := by
  have positive : num ≠ 0 := Nat.ne_of_gt (Nat.lt_of_lt_of_le (Nat.two_pow_pos _) large)
  have log : 2098 ≤ Nat.log2 num := Nat.le_trans high ((Nat.le_log2 positive).2 large)
  have full : binade ≤ num / Nat.pow 2 (Nat.log2 num - 52) := by
    apply (Nat.le_div_iff_mul_le (Nat.pow_pos (by decide))).2
    calc binade * Nat.pow 2 (Nat.log2 num - 52)
        = 2 ^ (52 + (Nat.log2 num - 52)) := (Nat.pow_add ..).symm
      _ = 2 ^ Nat.log2 num := by rw [Nat.add_sub_cancel' (by omega)]
      _ ≤ num := Nat.log2_self_le positive
  have rounded := div_le_roundHalfEven num (Nat.pow 2 (Nat.log2 num - 52))
  have shifted : 2046 * binade ≤ (Nat.log2 num - 52) * binade := Nat.mul_le_mul_right _ (by omega)
  simp only [nearestRank, Nat.div_one, Nat.one_mul, infiniteRank]
  omega

/-! ## Magnitudes -/

/-- A rank below the first full binade is its own magnitude. -/
theorem magnitude_of_lt {rank : Nat} (small : rank < binade) : magnitude rank = rank := by
  have unscaled : scale rank = 0 := by simp [scale, Nat.div_eq_of_lt small]
  simp [magnitude, significand, small, unscaled]

theorem significand_of_le {rank : Nat} (large : binade ≤ rank) :
    2 ^ 52 ≤ significand rank ∧ significand rank < 2 ^ 53 := by
  have below : rank % binade < binade := Nat.mod_lt _ (by decide)
  simp only [significand, if_neg (Nat.not_lt.2 large)]
  rw [binade_eq] at *
  omega

theorem log2_magnitude {rank : Nat} (large : binade ≤ rank) :
    Nat.log2 (magnitude rank) = scale rank + 52 := by
  obtain ⟨least, below⟩ := significand_of_le large
  have positive : 0 < Nat.pow 2 (scale rank) := Nat.pow_pos (by decide)
  have nonzero : magnitude rank ≠ 0 := Nat.mul_ne_zero (by omega) (by omega)
  rw [Nat.log2_eq_iff nonzero]
  constructor
  · calc 2 ^ (scale rank + 52) = 2 ^ 52 * Nat.pow 2 (scale rank) := Nat.pow_add' ..
      _ ≤ magnitude rank := Nat.mul_le_mul_right _ least
  · calc magnitude rank < 2 ^ 53 * Nat.pow 2 (scale rank) :=
          Nat.mul_lt_mul_of_pos_right below positive
      _ = 2 ^ (scale rank + 52 + 1) := (Nat.pow_add' 2 (scale rank) 53).symm

/-- A rank is made up of the binades below it and its significand. -/
theorem scale_add_significand {rank : Nat} (large : binade ≤ rank) :
    scale rank * binade + significand rank = rank := by
  have quotient : 1 ≤ rank / binade := (Nat.one_le_div_iff (by decide)).2 large
  have parts := Nat.div_add_mod' rank binade
  have first : 1 * binade ≤ rank / binade * binade := Nat.mul_le_mul_right _ quotient
  simp only [scale, significand, if_neg (Nat.not_lt.2 large)]
  rw [Nat.sub_mul]
  omega

/-- The magnitude of a rank is rounded to that rank. -/
theorem nearestRank_magnitude (rank : Rank) : nearestRank (magnitude rank) 1 = rank := by
  have bound : rank.val ≤ infiniteRank := Nat.le_of_lt_succ rank.isLt
  apply Fin.ext
  simp only [nearestRank, Nat.div_one, Nat.one_mul]
  by_cases small : rank.val < binade
  · have unshifted : Nat.log2 rank.val - 52 = 0 := by
      rcases Nat.eq_zero_or_pos rank.val with zero | positive
      · simp [zero]
      · have log := (Nat.log2_lt (Nat.ne_of_gt positive)).2 small
        omega
    simp [magnitude_of_lt small, unshifted, bound]
  -- The logarithm gives back the power of two by which the significand was scaled, so rounding
  -- divides by exactly that power and finds no remainder.
  · have large : binade ≤ rank.val := Nat.le_of_not_lt small
    have positive : 0 < Nat.pow 2 (scale rank.val) := Nat.pow_pos (by decide)
    have rounded : roundHalfEven (magnitude rank.val) (Nat.pow 2 (scale rank.val)) =
        significand rank.val := by
      have cancelled := roundHalfEven_mul_right (significand rank.val) 1 positive
      rwa [Nat.one_mul, roundHalfEven_one] at cancelled
    rw [log2_magnitude large, Nat.add_sub_cancel, rounded, scale_add_significand large,
      Nat.min_eq_left bound]

/-! ## Decimals -/

theorem two_pow_le_ten_pow (n : Nat) : 2 ^ (3 * n) ≤ 10 ^ n := by
  rw [Nat.pow_mul]
  exact Nat.pow_le_pow_left (by decide) n

/-- A decimal is the quotient that it stands for: leaving out extreme exponents changes nothing. -/
theorem ofDecimal_eq_ofRatio (negative : Bool) {digits : Nat} (positive : 0 < digits)
    (exponent : Int) :
    ofDecimal negative digits exponent =
      ofRatio negative (digits * 10 ^ exponent.toNat) (10 ^ (-exponent).toNat) := by
  obtain ⟨bits, size⟩ : ∃ bits, 1074 = bits := ⟨_, rfl⟩
  have units := unitsPerOne_eq size
  simp only [ofDecimal, if_neg (Nat.ne_of_gt positive)]
  split
  -- Above `10 ^ 400` the quotient is rounded to infinity as well.
  · rename_i above
    have unscaled : (-exponent).toNat = 0 := by omega
    have high : 2098 ≤ 3 * exponent.toNat + bits := by omega
    have large : 2 ^ (3 * exponent.toNat + bits) ≤ digits * 10 ^ exponent.toNat * unitsPerOne := by
      rw [units, Nat.pow_add, ← Nat.one_mul (2 ^ (3 * exponent.toNat))]
      exact Nat.mul_le_mul_right _ (Nat.mul_le_mul positive (two_pow_le_ten_pow _))
    rw [infinity, ofRatio, unscaled, Nat.pow_zero]
    exact congrArg _ (Fin.ext (nearestRank_eq_infinite high large).symm)
  · split
    -- Below `10 ^ (-400)` the quotient is less than half a unit.
    · rename_i below
      have unscaled : exponent.toNat = 0 := by omega
      have small : 2 * (digits * 10 ^ exponent.toNat * unitsPerOne) < 10 ^ (-exponent).toNat := by
        rw [unscaled, Nat.pow_zero, Nat.mul_one, units]
        calc 2 * (digits * 2 ^ bits) = digits * 2 ^ (1 + bits) := by ring
          _ < 2 ^ (Nat.log2 digits + 1) * 2 ^ (1 + bits) :=
            Nat.mul_lt_mul_of_pos_right Nat.lt_log2_self (Nat.two_pow_pos _)
          _ = 2 ^ (Nat.log2 digits + 1 + (1 + bits)) := (Nat.pow_add ..).symm
          _ ≤ 2 ^ (3 * (-exponent).toNat) := Nat.pow_le_pow_right (by decide) (by omega)
          _ ≤ 10 ^ (-exponent).toNat := two_pow_le_ten_pow _
      rw [ofRatio, nearestRank_eq_zero small]
    · rfl

theorem ofDecimal_zero (negative : Bool) (exponent : Int) :
    ofDecimal negative 0 exponent = .num negative 0 := rfl

/-- Zeros at the end of the digits can go to the exponent. -/
theorem ofDecimal_mul_pow (negative : Bool) (digits zeros : Nat) (exponent : Int) :
    ofDecimal negative (digits * 10 ^ zeros) (exponent - zeros) =
      ofDecimal negative digits exponent := by
  rcases Nat.eq_zero_or_pos digits with rfl | positive
  · rw [Nat.zero_mul, ofDecimal_zero, ofDecimal_zero]
  · have power (n : Nat) : 0 < 10 ^ n := Nat.pow_pos (by decide)
    rw [ofDecimal_eq_ofRatio _ (Nat.mul_pos positive (power zeros)),
      ofDecimal_eq_ofRatio _ positive, ofRatio, ofRatio]
    apply congrArg
    apply nearestRank_eq_of_cross (power _) (power _)
    have exponents : zeros + (exponent - zeros).toNat + (-exponent).toNat =
        exponent.toNat + (-(exponent - zeros)).toNat := by omega
    calc digits * 10 ^ zeros * 10 ^ (exponent - zeros).toNat * unitsPerOne * 10 ^ (-exponent).toNat
        = digits * unitsPerOne * 10 ^ (zeros + (exponent - zeros).toNat + (-exponent).toNat) := by
          ring
      _ = digits * 10 ^ exponent.toNat * unitsPerOne * 10 ^ (-(exponent - zeros)).toNat := by
          rw [exponents]; ring

/-- The sign of a decimal goes to the number and changes nothing else. -/
theorem ofDecimal_of_positive {digits : Nat} {exponent : Int} {rank : Rank}
    (rounded : ofDecimal false digits exponent = .num false rank) (negative : Bool) :
    ofDecimal negative digits exponent = .num negative rank := by
  rcases Nat.eq_zero_or_pos digits with rfl | positive
  · rw [ofDecimal_zero] at rounded ⊢
    injection rounded with _ same
    rw [same]
  · rw [ofDecimal_eq_ofRatio _ positive, ofRatio] at rounded ⊢
    rw [(num.inj rounded).2]

end Binary64

namespace Decimal

open Binary64

theorem exact_eq {places : Nat} (size : 1074 = places) (units : Nat) :
    exact units = ⟨units * 5 ^ places, -(places : Int)⟩ := by
  have exponent : (-1074 : Int) = -(places : Int) := by omega
  simp only [exact, size, exponent, Nat.pow_eq]

/-- All the digits of a magnitude read back. -/
theorem toBinary64_exact (rank : Rank) : (exact (magnitude rank)).toBinary64 = .num false rank := by
  obtain ⟨places, size⟩ : ∃ places, 1074 = places := ⟨_, rfl⟩
  rw [exact_eq size, toBinary64]
  rcases Nat.eq_zero_or_pos (magnitude rank) with zero | positive
  · have rounded := nearestRank_magnitude rank
    rw [zero, nearestRank_eq_zero (by decide)] at rounded
    rw [zero, Nat.zero_mul, ofDecimal_zero, rounded]
  · have power : 0 < 5 ^ places := Nat.pow_pos (by decide)
    have unscaled : (-(places : Int)).toNat = 0 := by omega
    have scaled : (- -(places : Int)).toNat = places := by omega
    have product : magnitude rank * 5 ^ places * 2 ^ places * 1 = magnitude rank * 10 ^ places := by
      rw [Nat.mul_one, Nat.mul_assoc, ← Nat.mul_pow]
    rw [ofDecimal_eq_ofRatio _ (Nat.mul_pos positive power), unscaled, scaled, Nat.pow_zero,
      Nat.mul_one, ofRatio, unitsPerOne_eq size,
      nearestRank_eq_of_cross (Nat.pow_pos (by decide)) Nat.one_pos product, nearestRank_magnitude]

/-- The shortest decimal of a magnitude reads back. -/
theorem toBinary64_shortest (rank : Rank) : (shortest rank).toBinary64 = .num false rank := by
  simp only [shortest]
  generalize search : List.findSome? _ _ = found
  cases found with
  | none => exact toBinary64_exact rank
  | some d =>
    obtain ⟨digits, _, matched⟩ := List.exists_of_findSome?_eq_some search
    have reads := List.find?_some matched
    exact of_decide_eq_true reads

theorem digits_shortest_pos {rank : Rank} (nonzero : rank.val ≠ 0) :
    0 < (shortest rank).digits := by
  apply Nat.pos_of_ne_zero
  intro zero
  have reads := toBinary64_shortest rank
  rw [toBinary64, zero, ofDecimal_zero] at reads
  injection reads with _ same
  rw [← same] at nonzero
  exact nonzero rfl

end Decimal

end Carousel
