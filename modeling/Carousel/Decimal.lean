import Carousel.Binary64

/-!
# Written floating-point numbers

A floating-point number is written in one of two ways: with the shortest digits that read back,
positionally or with an exponent, and with a fixed number of decimal places.
-/

namespace Carousel

/-! ## The shortest decimal that reads back

A finite magnitude is written with the fewest digits that round to it again.  For 1, 2, … 17
digits the two neighbours of the value on that decimal grid are tried; of two that read back the
nearer is taken, and an exact tie goes to the even one. -/

/-- The number `digits · 10 ^ exponent`. -/
structure Decimal where
  digits : Nat
  exponent : Int
deriving DecidableEq, Inhabited

namespace Decimal

def toBinary64 (d : Decimal) : Binary64 := Binary64.ofDecimal false d.digits d.exponent

def steps (units : Nat) (exponent : Int) : Nat × Nat :=
  (units * Nat.pow 10 (-exponent).toNat, Binary64.unitsPerOne * Nat.pow 10 exponent.toNat)

def neighbours (units : Nat) (exponent : Int) : List Decimal :=
  let (num, den) := steps units exponent
  let low : Decimal := ⟨num / den, exponent⟩
  let high : Decimal := ⟨num / den + 1, exponent⟩
  let twice := 2 * (num % den)
  if twice < den ∨ (twice = den ∧ low.digits % 2 = 0) then [low, high] else [high, low]

/-- The place of the leading digit of a positive number of units: `0` for a value in `[1, 10)`. -/
def leadingPlace (units : Nat) : Int :=
  ((toString (units * Nat.pow 10 400 / Binary64.unitsPerOne)).length : Int) - 401

/-- All the digits of a number of units: `2 ^ (-1074)` is `5 ^ 1074 · 10 ^ (-1074)`. -/
def exact (units : Nat) : Decimal := ⟨units * Nat.pow 5 1074, -1074⟩

/-- The shortest decimal that reads back as the magnitude of a rank. -/
def shortest (rank : Rank) : Decimal :=
  let units := Binary64.magnitude rank
  let place := leadingPlace units
  let found := (List.range 17).findSome? fun (digits : Nat) =>
    (neighbours units (place - digits)).find? fun d => d.toBinary64 = .num false rank
  found.getD (exact units)

end Decimal

/-! ## Decimal notation -/

/-- Which decimal exponents are written positionally, and how wide a written exponent is. -/
structure PointStyle where
  least : Int
  below : Int
  exponentWidth : Nat

/-- Numbers from `0.0001` up to `10 ^ 16` are positional; an exponent has at least two digits. -/
def PointStyle.standard : PointStyle := ⟨-4, 16, 2⟩

namespace Decimal

def zeros (count : Nat) : String := "".pushn '0' count

def filled (width n : Nat) : String :=
  let text := toString n
  zeros (width - text.length) ++ text

/-- The digits of a positive decimal without the zeros at the end. -/
def significantDigits (d : Decimal) : List Char :=
  ((toString d.digits).toList.reverse.dropWhile (· = '0')).reverse

/-- A positive decimal in the given style.  A positional number always has a fraction. -/
def write (style : PointStyle) (d : Decimal) : String :=
  let digits := d.significantDigits
  let place : Int := (toString d.digits).length + d.exponent - 1
  if place < style.least ∨ style.below ≤ place then
    let fraction := match digits.drop 1 with
      | [] => ""
      | rest => "." ++ String.ofList rest
    let sign := if place < 0 then "-" else "+"
    String.ofList (digits.take 1) ++ fraction ++ "e" ++ sign ++
      filled style.exponentWidth place.natAbs
  else if place < 0 then
    "0." ++ zeros (-place - 1).toNat ++ String.ofList digits
  else
    let whole := place.toNat + 1
    if digits.length ≤ whole then
      String.ofList digits ++ zeros (whole - digits.length) ++ ".0"
    else String.ofList (digits.take whole) ++ "." ++ String.ofList (digits.drop whole)

end Decimal

namespace Binary64

def signText (negative : Bool) : String := if negative then "-" else ""

def write : Binary64 → String
  | nan => "nan"
  | num negative rank =>
    signText negative ++
      if rank.val = infiniteRank then "inf"
      else if rank.val = 0 then "0.0"
      else (Decimal.shortest rank).write .standard

/-- A number rounded to a fixed number of decimal places, a tie going to the even digit.  The sign
stays when all digits are zero. -/
def writeFixed (places : Nat) : Binary64 → String
  | nan => "nan"
  | num negative rank =>
    signText negative ++
      if rank.val = infiniteRank then "inf"
      else
        let scaled := roundHalfEven (magnitude rank * Nat.pow 10 places) unitsPerOne
        toString (scaled / Nat.pow 10 places) ++ "." ++
          Decimal.filled places (scaled % Nat.pow 10 places)

end Binary64

end Carousel
