import Carousel.Value.Conversion

/-!
# The universe of candidates

A universe is a non-empty sequence of elements; a candidate is a position in it.  A universe made
from values has no two equal ones.  Hashable values are looked up among the earlier hashable ones
first; the others are then compared pair by pair.
-/

namespace Carousel

/-! ## Indices

An integer that points into a sequence.  A negative one counts from the end.  An index is a signed
number of 64 bits; an integer beyond them that points at nothing is a fault of its own. -/

namespace Index

/-- Whether an integer has at most 64 bits, the sign included. -/
def fits (index : Int) : Bool := -(Nat.pow 2 63 : Int) ≤ index && index < Nat.pow 2 63

def position? (size : Nat) (index : Int) : Option (Fin size) :=
  let counted := if index < 0 then index + size else index
  if h : 0 ≤ counted ∧ counted < size then some ⟨counted.toNat, by omega⟩ else none

/-- The position that an index means, or the given fault if there is nothing at it. -/
def locate (size : Nat) (missing : Fault) (index : Int) : Except Fault (Fin size) :=
  match position? size index with
  | some position => .ok position
  | none => .error (if fits index then missing else .indexTooWide)

end Index

/-! ## Universes -/

/-- The `n` candidates of a problem, in enumeration order. -/
structure Universe (α : Type) (n : Nat) where
  elements : Vector α n
  nonempty : 0 < n

namespace Universe

variable {α : Type} {n : Nat}

def element (u : Universe α n) (position : Fin n) : α := u.elements.get position

def elementsAt (u : Universe α n) (positions : List (Fin n)) : List α := positions.map u.element

/-- All elements in enumeration order. -/
def toList (u : Universe α n) : List α := u.elements.toList

/-- The element at an index; a negative index counts from the end. -/
def itemAt (u : Universe α n) (index : Int) : Except Fault α := do
  return u.element (← Index.locate n .noSuchItem index)

/-- The elements at several indices, up to the first that is not one. -/
def itemsAt (u : Universe α n) (indices : List Int) : Except Fault (List α) :=
  indices.mapM u.itemAt

def relabel {β : Type} (u : Universe α n) (f : Fin n → α → β) : Universe β n :=
  { elements := Vector.ofFn fun position => f position (u.element position)
    nonempty := u.nonempty }

@[simp] theorem elementsAt_append (u : Universe α n) (xs ys : List (Fin n)) :
    u.elementsAt (xs ++ ys) = u.elementsAt xs ++ u.elementsAt ys := List.map_append

@[simp] theorem length_elementsAt (u : Universe α n) (xs : List (Fin n)) :
    (u.elementsAt xs).length = xs.length := List.length_map ..

def written (_ : Universe α n) : String := "CandidateSet(size=" ++ toString n ++ ")"

def matching (a b : Value) : Bool :=
  match a.equal b with
  | .ok same => same
  | .error _ => false

def firstRepeat? (seen : List Value) : List Value → Option Value
  | [] => none
  | value :: rest =>
    if seen.any (matching value) then some value else firstRepeat? (value :: seen) rest

/-- The outcome of comparing two values that must differ.  A refusal that names an unsuitable value
or type is a fault of the universe; any other stays the caller's own. -/
def requireDistinct (a b : Value) : Except Fault Unit :=
  match a.equal b with
  | .ok false => .ok ()
  | .ok true => .error (.duplicateCandidate a)
  | .error raised =>
    .error (if raised.kind.isUnsuitable then .incomparable a.typeName raised.message
      else .raised raised)

/-- Compares every value with all behind it, in order, up to the first fault. -/
def requireAllDistinct : List Value → Except Fault Unit
  | [] => .ok ()
  | value :: rest => do
    rest.forM (requireDistinct value)
    requireAllDistinct rest

def requireNoRepeat (values : List Value) : Except Fault Unit :=
  match firstRepeat? [] (values.filter Value.hashable) with
  | some value => .error (.duplicateCandidate value)
  | none => requireAllDistinct (values.filter (!Value.hashable ·))

def ofDistinct (values : List Value) : Except Fault (Universe Value values.length) :=
  if h : 0 < values.length then
    .ok { elements := ⟨values.toArray, List.size_toArray⟩, nonempty := h }
  else .error .noCandidates

/-- The universe with the given elements: there must be one, and no two may be equal. -/
def ofList (values : List Value) : Except Fault (Universe Value values.length) := do
  requireNoRepeat values
  ofDistinct values

abbrev Sized (α : Type) := (n : Nat) × Universe α n

/-- The universe with the members of a value as elements.  Those of a progression need no
comparison. -/
def ofValue (value : Value) : Except Fault (Sized Value) :=
  if value.isAbsent then .error .noCandidates
  else do
    let values ← value.items
    let found ← if value.isProgression then ofDistinct values else ofList values
    return ⟨values.length, found⟩

/-! ### Progressions -/

theorem firstRepeat?_eq_none {seen values : List Value}
    (fresh : ∀ value ∈ values, ∀ old ∈ seen, matching value old = false)
    (distinct : values.Pairwise fun a b => matching b a = false) :
    firstRepeat? seen values = none := by
  induction values generalizing seen with
  | nil => rfl
  | cons value rest ih =>
    rw [List.pairwise_cons] at distinct
    have unseen : seen.any (matching value) = false := by
      simpa using fresh value (by simp)
    rw [firstRepeat?, unseen]
    refine ih (fun later isLater old isOld => ?_) distinct.2
    rcases List.mem_cons.1 isOld with rfl | isOld
    · exact distinct.1 later isLater
    · exact fresh later (by simp [isLater]) old isOld

/-- The members of a progression that moves pass the comparison. -/
theorem requireNoRepeat_rangeMembers {start stop step : Int} (moves : step ≠ 0) :
    requireNoRepeat (Value.rangeMembers start stop step) = .ok () := by
  have hashed : (Value.rangeMembers start stop step).filter Value.hashable =
      Value.rangeMembers start stop step := by
    simp [Value.rangeMembers, Value.hashable, Value.unhashable?]
  have unhashed : (Value.rangeMembers start stop step).filter (!Value.hashable ·) = [] := by
    simp [Value.rangeMembers, Value.hashable, Value.unhashable?]
  have apart : (Value.rangeMembers start stop step).Pairwise fun a b => matching b a = false := by
    refine List.pairwise_map.2 (List.pairwise_lt_range.imp fun {i j} below => ?_)
    have : start + (j : Int) * step ≠ start + (i : Int) * step := by
      intro same
      have := Int.mul_eq_mul_right_iff moves |>.1 (Int.add_left_cancel same)
      omega
    simp [matching, Value.equal, Scalar.same, Number.ofScalar?, this]
  rw [requireNoRepeat, hashed, unhashed, firstRepeat?_eq_none (by simp) apart]
  rfl

end Universe

end Carousel
