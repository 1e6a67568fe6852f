import Carousel.Fault
import Carousel.Value.Comparison

/-!
# Conversions of values

Turning values into integers, floating-point numbers and truth values, as settings and scores
require.
-/

namespace Carousel

/-- The result if there is one, and the fault if there is none. -/
def orFault {β : Type} (fault : Fault) : Option β → Except Fault β
  | some result => .ok result
  | none => .error fault

def Scalar.toInt : Scalar → Except Fault Int
  | bool b => .ok (if b then 1 else 0)
  | int i => .ok i
  | real x =>
    match x.truncate? with
    | some i => .ok i
    | none => .error (if x.isNaN then .nanToInteger else .infinityToInteger)
  | text s =>
    match Text.readInt s with
    | .ok i => .ok i
    | .error .malformed => .error (.notAnInteger s)
    | .error (.tooLong digits) => .error (.tooManyDigits digits)
  | absent => .error (.noIntegerValue (typeName absent))

def Scalar.toBinary64 : Scalar → Except Fault Binary64
  | bool b => .ok (if b then .ofRatio false 1 1 else .zero)
  | int i => orFault .integerTooLarge (Binary64.ofInt? i)
  | real x => .ok x
  | text s => orFault (.notANumber s) (Text.readBinary64? s)
  | absent => .error (.noNumberValue (typeName absent))

namespace Value

def toInt : Value → Except Fault Int
  | scalar s => s.toInt
  | value => .error (.noIntegerValue value.typeName)

def toBinary64 : Value → Except Fault Binary64
  | scalar s => s.toBinary64
  | value => .error (.noNumberValue value.typeName)

end Value

def yesWords : List String := ["1", "true", "yes", "on"]

/-- Whether a text is one of the words that mean yes, whatever its case and the blanks around. -/
def meansYes (text : String) : Bool :=
  yesWords.contains (Text.lower (String.ofList (Text.trim Text.isBlank text.toList)))

/-- The truth value that a setting converts to: a truth value itself, or a word that means yes. -/
def Value.toFlag : Value → Bool
  | .scalar (.bool b) => b
  | value => meansYes value.plain

/-! ## Laying out values

Values in columns of a given width, and numbers with a fixed number of decimals.  Only numbers and
texts can be laid out, and a text never as a number. -/

def padLeft (width : Nat) (text : String) : String := "".pushn ' ' (width - text.length) ++ text

def padRight (width : Nat) (text : String) : String := text.pushn ' ' (width - text.length)

namespace Value

/-- The text of a value in a column.  A truth value counts as `0` or `1`. -/
def entry : Value → Except Fault String
  | scalar (.bool b) => .ok (if b then "1" else "0")
  | scalar (.int i) => .ok (toString i)
  | scalar (.real x) => .ok x.write
  | scalar (.text s) => .ok s
  | other => .error (.noLayout other.typeName)

def fixed (places : Nat) : Value → Except Fault String
  | scalar .absent => .error (.noLayout Scalar.absent.typeName)
  | scalar (.text _) => .error .textAsNumber
  | scalar number => do return (← number.toBinary64).writeFixed places
  | other => .error (.noLayout other.typeName)

/-! ## Collections

Taking collections apart, counting them, and putting them together.  The keys of a dictionary must
be hashable, and a progression must move. -/

def countBound : Nat := Nat.pow 2 63

def maxHeld : Nat := Nat.pow 2 32

def count : Value → Except Fault Nat
  | scalar (.text s) => .ok s.length
  | list items => .ok items.length
  | tuple items => .ok items.length
  | dict entries => .ok entries.length
  | range start stop step =>
    let members := rangeLength start stop step
    if members < countBound then .ok members else .error .tooManyMembers
  | other => .error (.notCounted other.typeName)

/-- Requires that the members of a value fit into memory.  Those of a progression may not. -/
def requireHeld : Value → Except Fault Unit
  | range start stop step => do
    if maxHeld < (← count (range start stop step)) then throw .outOfMemory
  | _ => .ok ()

def items (value : Value) : Except Fault (List Value) := do
  value.requireHeld
  match value.items? with
  | some items => return items
  | none => throw (.notIterable value.typeName)

def requireHashable (value : Value) : Except Fault Unit :=
  match value.unhashable? with
  | some typeName => .error (.unhashable typeName)
  | none => .ok ()

def keyed (key value : Value) : Except Fault (Value × Value) := do
  key.requireHashable
  return (key, value)

def pair (value : Value) : Except Fault (Value × Value) :=
  match value.items? with
  | none => .error (.noPair value.typeName)
  | some [first, second] => .ok (first, second)
  | some items => .error (if items.length < 2 then .shortPair items.length else .longPair)

/-- Requires that the member of a value at some place can be an entry of a dictionary: it must have
two members, and the first of them must be hashable. -/
def requireEntry (member : Value) (place : Nat) : Except Fault Unit :=
  match member.items with
  | .ok [key, _] => key.requireHashable
  | .ok items => .error (.entryLength place items.length)
  | .error (.notIterable _) => .error (.noEntry place)
  | .error fault => .error fault

/-- Requires that a dictionary can be filled from a value: another dictionary, or a collection of
entries.  The members of a progression are no entries. -/
def requireEntries : Value → Except Fault Unit
  | dict _ => .ok ()
  | range start stop step =>
    if rangeLength start stop step = 0 then .ok () else .error (.noEntry 0)
  | value => do
    (← value.items).zipIdx.forM fun (member, place) => member.requireEntry place

def progression (start stop step : Int) : Except Fault Value :=
  if step = 0 then .error .zeroStep else .ok (range start stop step)

@[simp] theorem count_list (items : List Value) : count (.list items) = .ok items.length := rfl

end Value

end Carousel
