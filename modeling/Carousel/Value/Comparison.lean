import Carousel.Value.Basic

/-!
# Comparing values

Numbers are compared by their exact values, and collections member by member.
-/

namespace Carousel

/-! ## Exact numbers

Integers and floating-point numbers are compared by their exact values: an integer is never
rounded to be compared. -/

inductive Number where
  | int (i : Int)
  | real (x : Binary64)
deriving DecidableEq, Inhabited

namespace Number

/-- The number that a scalar is.  Truth values count as `0` and `1`. -/
def ofScalar? : Scalar → Option Number
  | .bool b => some (.int (if b then 1 else 0))
  | .int i => some (.int i)
  | .real x => some (.real x)
  | _ => none

def toValue : Number → Value
  | int i => .int i
  | real x => .real x

/-- The place of a number relative to the finite numbers: below, above, or among them at an exact
place in units of `2 ^ (-1074)`. -/
inductive Place where
  | below
  | finite (units : Int)
  | above
deriving DecidableEq

/-- The place of a number; not-a-number has none. -/
def place? : Number → Option Place
  | int i => some (.finite (i * Binary64.unitsPerOne))
  | real .nan => none
  | real (.num negative rank) =>
    match (Binary64.num negative rank).units? with
    | some units => some (.finite units)
    | none => some (if negative then .below else .above)

def Place.le : Place → Place → Bool
  | below, _ => true
  | _, above => true
  | finite a, finite b => decide (a ≤ b)
  | _, _ => false

/-- Equality of values.  Not-a-number equals nothing; of two integers no place is needed. -/
def same : Number → Number → Bool
  | int i, int j => i = j
  | a, b =>
    match a.place?, b.place? with
    | some p, some q => p = q
    | _, _ => false

@[simp] theorem same_int (i j : Int) : same (int i) (int j) = decide (i = j) := rfl

/-- Two numbers are equal exactly when they are at one place. -/
theorem same_iff (a b : Number) :
    a.same b = true ↔ ∃ place, a.place? = some place ∧ b.place? = some place := by
  have placed : ∀ p q : Option Place,
      (match p, q with | some p, some q => decide (p = q) | _, _ => false) = true ↔
        ∃ place, p = some place ∧ q = some place := by
    intro p q
    cases p <;> cases q <;> simp [eq_comm]
  cases a with
  | int i =>
    cases b with
    | int j =>
      rw [same_int, decide_eq_true_iff]
      constructor
      · intro equal
        exact ⟨_, rfl, equal ▸ rfl⟩
      · intro ⟨_, placedLeft, placedRight⟩
        have scaled := Place.finite.inj (Option.some.inj (placedLeft.trans placedRight.symm))
        have nonzero : (Binary64.unitsPerOne : Int) ≠ 0 :=
          Int.natCast_ne_zero.2 (Nat.ne_of_gt Binary64.unitsPerOne_pos)
        exact Int.eq_of_mul_eq_mul_right nonzero scaled
    | real y => exact placed _ _
  | real x => exact placed _ _

/-- Order of values.  Not-a-number is not comparable. -/
def le (a b : Number) : Bool :=
  match a.place?, b.place? with
  | some p, some q => p.le q
  | _, _ => false

end Number

/-- Equality of scalars: numbers by value, other scalars by identity. -/
def Scalar.same (a b : Scalar) : Bool :=
  match Number.ofScalar? a, Number.ofScalar? b with
  | some m, some n => m.same n
  | none, none => a = b
  | _, _ => false

/-! ## Equality of values

Lists equal lists and tuples equal tuples, item by item from the left up to the first difference.
Dictionaries are equal when they have the same keys with equal values, in whatever order.  A value
that refuses comparison raises its fault as soon as it is met. -/

namespace Value

def lookupBy (test : Value → Except Raised Bool) : List (Value × Value) →
    Except Raised (Option Value)
  | [] => .ok none
  | (key, value) :: rest => do
    if ← test key then return some value
    lookupBy test rest

def sameRange (a b : Int × Int × Int) : Bool :=
  let count := rangeLength a.1 a.2.1 a.2.2
  count == rangeLength b.1 b.2.1 b.2.2 &&
    (count == 0 || (a.1 == b.1 && (count == 1 || a.2.2 == b.2.2)))

mutual

def equal : Value → Value → Except Raised Bool
  | refusing raised, _ => .error raised
  | a, b =>
    match a, b with
    | _, refusing raised => .error raised
    | scalar s, scalar t => .ok (s.same t)
    | list xs, list ys => if xs.length = ys.length then equalItems xs ys else .ok false
    | tuple xs, tuple ys => equalItems xs ys
    | dict xs, dict ys => if xs.length = ys.length then equalEntries xs ys else .ok false
    | range a b c, range x y z => .ok (sameRange (a, b, c) (x, y, z))
    | _, _ => .ok false

/-- Whether two lists of values are equal, compared up to the first difference. -/
def equalItems : List Value → List Value → Except Raised Bool
  | [], [] => .ok true
  | x :: xs, y :: ys => do
    if ← equal x y then equalItems xs ys else return false
  | _, _ => .ok false

def equalEntries : List (Value × Value) → List (Value × Value) → Except Raised Bool
  | [], _ => .ok true
  | (key, value) :: rest, others => do
    match ← lookupBy (equal key) others with
    | none => return false
    | some other => if ← equal value other then equalEntries rest others else return false

end

/-- Puts a key and its value into a dictionary.  A key that is present keeps its place. -/
def insertEntry (key value : Value) : List (Value × Value) → List (Value × Value)
  | [] => [(key, value)]
  | (present, old) :: rest =>
    match equal present key with
    | .ok true => (present, value) :: rest
    | _ => (present, old) :: insertEntry key value rest

def dictOf (entries : List (Value × Value)) : Value :=
  .dict (entries.foldl (fun built entry => insertEntry entry.1 entry.2 built) [])

end Value

end Carousel
