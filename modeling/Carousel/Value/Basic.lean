import Carousel.Decimal
import Carousel.Text.Basic

/-!
# Values

The values that candidates, settings and scores are made of.  A scalar has no parts; lists, tuples
and dictionaries hold further values.  A value may also be an object of the caller that refuses to
be compared.
-/

namespace Carousel

/-! ## Faults raised by the caller

Callbacks and comparisons of elements belong to the caller and may fail in their own way.  Such a
fault is a kind and a message, and it travels through the library unchanged. -/

inductive FaultKind where
  | configuration
  | value
  | type
  | index
  | key
  | runtime
  | zeroDivision
  | overflow
  | missingMember
  | graph
  | memory
deriving DecidableEq, Inhabited

structure Raised where
  kind : FaultKind
  message : String
deriving DecidableEq, Inhabited

/-- The text shown for a raised fault: a missing key is shown between quotes. -/
def Raised.text (r : Raised) : String :=
  if r.kind = .key then Text.quoted r.message else r.message

/-- Whether the kind stands for an unsuitable value or type.  A faulty configuration is an
unsuitable value. -/
def FaultKind.isUnsuitable : FaultKind → Bool
  | .configuration | .value | .type => true
  | _ => false

/-! ## The kinds of values -/

inductive Scalar where
  | absent
  | bool (b : Bool)
  | int (i : Int)
  | real (x : Binary64)
  | text (s : String)
deriving DecidableEq, Inhabited

inductive Value where
  | scalar (s : Scalar)
  | list (items : List Value)
  | tuple (items : List Value)
  | dict (entries : List (Value × Value))
  | range (start stop step : Int)
  | refusing (raised : Raised)
deriving Inhabited

namespace Scalar

def typeName : Scalar → String
  | absent => "NoneType"
  | bool _ => "bool"
  | int _ => "int"
  | real _ => "float"
  | text _ => "str"

def truth : Scalar → Bool
  | absent => false
  | bool b => b
  | int i => i != 0
  | real x => x.truth
  | text s => s != ""

end Scalar

namespace Value

abbrev absent : Value := .scalar .absent

abbrev bool (b : Bool) : Value := .scalar (.bool b)

abbrev int (i : Int) : Value := .scalar (.int i)

abbrev real (x : Binary64) : Value := .scalar (.real x)

abbrev text (s : String) : Value := .scalar (.text s)

/-- How many members an arithmetic progression has.  A step of zero gives none. -/
def rangeLength (start stop step : Int) : Nat :=
  if 0 < step then ((stop - start + step - 1) / step).toNat
  else if step < 0 then ((start - stop - step - 1) / -step).toNat
  else 0

def rangeMembers (start stop step : Int) : List Value :=
  (List.range (rangeLength start stop step)).map fun (k : Nat) => .int (start + k * step)

def typeName : Value → String
  | scalar s => s.typeName
  | list _ => "list"
  | tuple _ => "tuple"
  | dict _ => "dict"
  | range .. => "range"
  | refusing _ => "Uncomparable"

def truth : Value → Bool
  | scalar s => s.truth
  | list items => !items.isEmpty
  | tuple items => !items.isEmpty
  | dict entries => !entries.isEmpty
  | range start stop step => rangeLength start stop step != 0
  | refusing _ => true

def isAbsent : Value → Bool
  | scalar .absent => true
  | _ => false

def isProgression : Value → Bool
  | range .. => true
  | _ => false

mutual

/-- The type of the first part that keeps a value from being hashed.  Scalars, progressions, and
tuples of such have none. -/
def unhashable? : Value → Option String
  | scalar _ => none
  | range .. => none
  | tuple items => firstUnhashable? items
  | other => some other.typeName

def firstUnhashable? : List Value → Option String
  | [] => none
  | item :: rest => (unhashable? item).or (firstUnhashable? rest)

end

/-- Whether equal values can be found by hashing. -/
def hashable (value : Value) : Bool := value.unhashable?.isNone

/-- The members that a value hands out one by one: the items of a collection, the keys of a
dictionary, the characters of a text.  Other values hand out nothing. -/
def items? : Value → Option (List Value)
  | list items => some items
  | tuple items => some items
  | dict entries => some (entries.map Prod.fst)
  | range start stop step => some (rangeMembers start stop step)
  | scalar (.text s) => some (s.toList.map fun c => text c.toString)
  | _ => none

end Value

/-! ## Written values

The text of a value, in two forms: inside other values and in messages, where texts stand between
quotes, and plain, where a text stands for itself. -/

def Scalar.written : Scalar → String
  | absent => "None"
  | bool b => if b then "True" else "False"
  | int i => toString i
  | real x => x.write
  | text s => Text.quoted s

namespace Value

mutual

def written : Value → String
  | scalar s => s.written
  | list items => "[" ++ writtenItems items ++ "]"
  | tuple [item] => "(" ++ written item ++ ",)"
  | tuple items => "(" ++ writtenItems items ++ ")"
  | dict entries => "\x7b" ++ writtenEntries entries ++ "\x7d"
  | range start stop step =>
    let tail := if step = 1 then "" else ", " ++ toString step
    "range(" ++ toString start ++ ", " ++ toString stop ++ tail ++ ")"
  | refusing _ => "Uncomparable()"

def writtenItems : List Value → String
  | [] => ""
  | [item] => written item
  | item :: rest => written item ++ ", " ++ writtenItems rest

def writtenEntries : List (Value × Value) → String
  | [] => ""
  | [(key, value)] => written key ++ ": " ++ written value
  | (key, value) :: rest => written key ++ ": " ++ written value ++ ", " ++ writtenEntries rest

end

def plain : Value → String
  | scalar (.text s) => s
  | value => value.written

end Value

/-! ## Nested sequences

Lists, tuples and progressions are sequences, and their members may be sequences again.  The extent
of a value counts the members at each depth, down to where not all members agree.  A value that is
no sequence has no depth and is its own only leaf. -/

/-- The numbers of members at each depth, and whether all members agree down to the leaves. -/
structure Extent where
  lengths : List Nat
  even : Bool
deriving DecidableEq, Inhabited

namespace Extent

def leaf : Extent := ⟨[], true⟩

def commonStart : List Nat → List Nat → List Nat
  | a :: as, b :: bs => if a = b then a :: commonStart as bs else []
  | _, _ => []

def meet (a b : Extent) : Extent :=
  if a.lengths = b.lengths then ⟨a.lengths, a.even && b.even⟩
  else ⟨commonStart a.lengths b.lengths, false⟩

def under (length : Nat) (common : Extent) : Extent :=
  { common with lengths := length :: common.lengths }

end Extent

namespace Value

mutual

def extent : Value → Extent
  | list items => .under items.length (commonExtent items)
  | tuple items => .under items.length (commonExtent items)
  | range start stop step => .under (rangeLength start stop step) .leaf
  | _ => .leaf

def commonExtent : List Value → Extent
  | [] => .leaf
  | [item] => extent item
  | item :: rest => (extent item).meet (commonExtent rest)

end

mutual

def leaves : Value → List Value
  | list items => leavesOfAll items
  | tuple items => leavesOfAll items
  | range start stop step => rangeMembers start stop step
  | other => [other]

def leavesOfAll : List Value → List Value
  | [] => []
  | item :: rest => leaves item ++ leavesOfAll rest

end

@[simp] theorem leaves_scalar (s : Scalar) : leaves (.scalar s) = [.scalar s] := rfl

theorem leavesOfAll_map_scalar (scalars : List Scalar) :
    leavesOfAll (scalars.map .scalar) = scalars.map .scalar := by
  induction scalars with
  | nil => rfl
  | cons s rest ih => simp [leavesOfAll, ih]

theorem commonExtent_map_scalar (scalars : List Scalar) :
    commonExtent (scalars.map .scalar) = .leaf := by
  induction scalars with
  | nil => rfl
  | cons s rest ih =>
    cases rest with
    | nil => rfl
    | cons t rest =>
      rw [List.map_cons, commonExtent, ih]
      · rfl
      · simp

end Value

end Carousel
