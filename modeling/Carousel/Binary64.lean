/-!
# Binary floating-point numbers

Sixty-four-bit floating-point numbers as exact data.  A number is not-a-number, or a sign with a
*rank*: the place of its magnitude among all magnitudes, zero first and infinity last.  Ranks order
as magnitudes do, so comparing numbers is comparing integers, and every finite magnitude is a whole
number of units of `2 ^ (-1074)`.
-/

namespace Carousel

namespace Binary64

def binade : Nat := Nat.pow 2 52

/-- The rank of infinity: 2047 binades of magnitudes lie below it. -/
def infiniteRank : Nat := 2047 * binade

/-- The number of units in one: the smallest magnitude is `2 ^ (-1074)`. -/
def unitsPerOne : Nat := Nat.pow 2 1074

theorem unitsPerOne_pos : 0 < unitsPerOne := by decide +kernel

end Binary64

abbrev Rank := Fin (Binary64.infiniteRank + 1)

/-- A floating-point number: not-a-number, or a sign and the rank of a magnitude. -/
inductive Binary64 where
  | nan
  | num (negative : Bool) (rank : Rank)
deriving DecidableEq

namespace Binary64

def significand (rank : Nat) : Nat :=
  if rank < binade then rank else binade + rank % binade

def scale (rank : Nat) : Nat := rank / binade - 1

/-- The magnitude of a finite rank, in units of `2 ^ (-1074)`. -/
def magnitude (rank : Nat) : Nat := significand rank * Nat.pow 2 (scale rank)

/-- The order key of a number: its rank with its sign, so both zeros have the key `0`. -/
def key? : Binary64 → Option Int
  | nan => none
  | num negative rank => some (if negative then -(rank.val : Int) else rank.val)

/-- The exact value of a finite number in units of `2 ^ (-1074)`. -/
def units? : Binary64 → Option Int
  | nan => none
  | num negative rank =>
    if rank.val = infiniteRank then none
    else some (if negative then -(magnitude rank : Int) else magnitude rank)

def zero : Binary64 := num false ⟨0, by decide⟩

def infinity (negative : Bool) : Binary64 := num negative ⟨infiniteRank, by decide⟩

instance : Inhabited Binary64 := ⟨zero⟩

def isNaN : Binary64 → Bool
  | nan => true
  | num _ _ => false

def rankable : Binary64 → Binary64
  | nan => infinity true
  | x => x

def rankKey (x : Binary64) : Int := (key? x.rankable).getD 0

/-- Both zeros are false; not-a-number is true. -/
def truth : Binary64 → Bool
  | nan => true
  | num _ rank => rank.val != 0

end Binary64

/-! ## Rounding to floating point

Every number that has to become a floating-point number is first an exact quotient of naturals.
This module rounds such a quotient to the nearest magnitude, a tie going to the even significand,
and derives from it the conversions and the arithmetic that the library needs. -/

/-- The integer nearest to `num / den`, a tie going to the even one. -/
def roundHalfEven (num den : Nat) : Nat :=
  let quotient := num / den
  let twice := 2 * (num % den)
  if twice < den then quotient
  else if den < twice then quotient + 1
  else quotient + quotient % 2

namespace Binary64

/-- The rank nearest to `num / den` units.  The significand is rounded at the power of two that
leaves it 53 bits (none below the smallest binade); a carry moves to the next rank by itself, and
what lies above every finite magnitude is infinite. -/
def nearestRank (num den : Nat) : Rank :=
  let shift := Nat.log2 (num / den) - 52
  let rank := shift * binade + roundHalfEven num (den * Nat.pow 2 shift)
  ⟨min rank infiniteRank, Nat.lt_succ_of_le (Nat.min_le_right _ _)⟩

def ofRatio (negative : Bool) (num den : Nat) : Binary64 :=
  Binary64.num negative (nearestRank (num * unitsPerOne) den)

/-- The number nearest to an integer; `none` when that is infinite. -/
def ofInt? (i : Int) : Option Binary64 :=
  let rank := nearestRank (i.natAbs * unitsPerOne) 1
  if rank.val = infiniteRank then none else some (.num (decide (i < 0)) rank)

/-- The number nearest to `digits · 10 ^ exponent`.  Exponents beyond any magnitude are settled
without building the power. -/
def ofDecimal (negative : Bool) (digits : Nat) (exponent : Int) : Binary64 :=
  if digits = 0 then .num negative 0
  else if 400 < exponent then infinity negative
  else if exponent + (Nat.log2 digits + 1) < -400 then .num negative 0
  else ofRatio negative (digits * Nat.pow 10 exponent.toNat) (Nat.pow 10 (-exponent).toNat)

/-- The quotient of two integers rounded once; `none` when that is infinite.  A zero quotient is
negative when only the divisor is. -/
def ofQuotient? (a b : Int) : Option Binary64 :=
  let rank := nearestRank (a.natAbs * unitsPerOne) b.natAbs
  if rank.val = infiniteRank then none
  else some (.num (decide (a < 0) != decide (b < 0)) rank)

def mul : Binary64 → Binary64 → Binary64
  | num s a, num t b =>
    if a.val = infiniteRank ∨ b.val = infiniteRank then
      if a.val = 0 ∨ b.val = 0 then nan else infinity (s != t)
    else num (s != t) (nearestRank (magnitude a * magnitude b) unitsPerOne)
  | _, _ => nan

instance : Mul Binary64 := ⟨mul⟩

def floor? (x : Binary64) : Option Int :=
  x.units?.map (Int.fdiv · unitsPerOne)

/-- A finite number without its fraction. -/
def truncate? (x : Binary64) : Option Int :=
  x.units?.map (Int.tdiv · unitsPerOne)

end Binary64

end Carousel
