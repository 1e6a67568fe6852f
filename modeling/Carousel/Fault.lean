import Carousel.Text.Basic
import Carousel.Value.Basic

/-!
# Faults

Everything that can go wrong in the library, by cause, and the text of each cause.
-/

namespace Carousel

/-- What takes values by name. -/
inductive Form where
  | solver
  | override
  | library
  | resolve
  | setup
  | report
deriving DecidableEq

namespace Form

def name : Form → String
  | solver => "SolverConfig.__init__()"
  | override => "SolverConfig.with_overrides()"
  | library => "CarouselGreedyConfig.__init__()"
  | resolve => "CarouselGreedyConfig.solver_config()"
  | setup => "CarouselGreedy.__init__()"
  | report => "CarouselResult.__init__()"

/-- The names whose values a form has already, so that they cannot be given again. -/
def filled : Form → List String
  | setup => ["self", "test_feasibility", "greedy_function", "candidate_elements"]
  | _ => ["self"]

/-- The names whose values are always given by name, so that they cannot be given a second time. -/
def fixed : Form → List String
  | setup => ["data"]
  | report => ["phase_history"]
  | _ => []

def maker : Form → String
  | setup => "carouselgreedy.solver.carousel_greedy.CarouselGreedy()"
  | report => "carouselgreedy.solver.solution.CarouselResult()"
  | form => form.name

end Form

inductive Fault where
  | noFeasibilityTest
  | noScore
  | badAlpha (got : Value)
  | badBeta (got : Value)
  | badSeed (got : Value)
  | badTieBreak (got : Value)
  | unknownName (form : Form) (name : String)
  | filledName (form : Form) (name : String)
  | givenTwice (form : Form) (name : String)
  | rowTooShort (given : Nat)
  | rowTooLong (given : Nat)
  | noCandidates
  | duplicateCandidate (element : Value)
  | incomparable (typeName reason : String)
  | notIterable (typeName : String)
  | notCounted (typeName : String)
  | tooManyMembers
  | outOfMemory
  | unhashable (typeName : String)
  | noPair (typeName : String)
  | shortPair (members : Nat)
  | longPair
  | noEntry (place : Nat)
  | entryLength (place members : Nat)
  | zeroStep
  | alreadySelected (element : String)
  | positionOutOfRange (position : Int)
  | noSuchItem
  | noSuchEntry
  | indexTooWide
  | notAnInteger (text : String)
  | tooManyDigits (digits : Nat)
  | notANumber (text : String)
  | noIntegerValue (typeName : String)
  | noNumberValue (typeName : String)
  | noProduct (typeName : String)
  | notReal (typeName : String)
  | nanToInteger
  | infinityToInteger
  | integerTooLarge
  | quotientTooLarge
  | divisionByZero
  | remainderByZero
  | noLayout (typeName : String)
  | textAsNumber
  | negativeSeed
  | emptyDraw
  | boundTooLarge
  | unscored (candidate : Int)
  | nullCharacter
  | negativeOrder (order : Int)
  | absentNode
  | missingNode (value : Value)
  /-- A candidate was to be added, but none had been chosen. -/
  | nothingChosen
  | noGreatestScore
  /-- The scores of a sweep are sequences that do not agree; so many members do at each depth. -/
  | unevenScores (lengths : List Nat)
  | notOrdered (operator left right : String)
  | noMember (typeName member : String)
  | raised (r : Raised)

namespace Fault

def kind : Fault → FaultKind
  | noFeasibilityTest | noScore | badAlpha _ | badBeta _ | badSeed _ | badTieBreak _
  | noCandidates | duplicateCandidate _ | incomparable .. => .configuration
  | alreadySelected _ | positionOutOfRange _ | notAnInteger _ | tooManyDigits _ | notANumber _
  | nanToInteger | noGreatestScore | zeroStep | textAsNumber | negativeSeed | emptyDraw
  | boundTooLarge | absentNode | nullCharacter | shortPair _ | longPair | entryLength ..
  | unevenScores _ => .value
  | unknownName .. | filledName .. | givenTwice .. | noPair _ | noEntry _ | rowTooShort _
  | rowTooLong _ | notIterable _ | notCounted _ | unhashable _ | noIntegerValue _
  | noNumberValue _ | noProduct _ | notReal _ | noLayout _ | nothingChosen | notOrdered .. => .type
  | noSuchItem | noSuchEntry | indexTooWide => .index
  | infinityToInteger | integerTooLarge | quotientTooLarge | tooManyMembers => .overflow
  | outOfMemory => .memory
  | unscored _ => .key
  | negativeOrder _ | missingNode _ => .graph
  | divisionByZero | remainderByZero => .zeroDivision
  | noMember .. => .missingMember
  | raised r => r.kind

def shownLength : Nat := 200

def message : Fault → String
  | noFeasibilityTest => "test_feasibility must be callable"
  | noScore => "greedy_function must be callable"
  | badAlpha got => "alpha must be a positive integer, got " ++ got.written
  | badBeta got => "beta must be a number in [0, 1], got " ++ got.written
  | badSeed got => "seed must be a non-negative integer, got " ++ got.written
  | badTieBreak got => "random_tie_break must be a boolean, got " ++ got.written
  | unknownName form name =>
    form.name ++ " got an unexpected keyword argument '" ++ name ++ "'"
  | filledName form name => form.name ++ " got multiple values for argument '" ++ name ++ "'"
  | givenTwice form name =>
    form.maker ++ " got multiple values for keyword argument '" ++ name ++ "'"
  | rowTooShort 0 =>
    "PhaseRecord.__init__() missing 2 required positional arguments: 'size_before' and 'size_after'"
  | rowTooShort _ =>
    "PhaseRecord.__init__() missing 1 required positional argument: 'size_after'"
  | rowTooLong given =>
    "PhaseRecord.__init__() takes from 4 to 8 positional arguments but " ++ toString (given + 2) ++
      " were given"
  | noCandidates => "candidate_elements must be provided and non-empty"
  | duplicateCandidate element =>
    "candidate_elements contains a duplicate element: " ++ element.written
  | incomparable typeName reason =>
    "candidate elements " ++ typeName ++ " cannot be compared for equality: " ++ reason
  | notIterable typeName => "'" ++ typeName ++ "' object is not iterable"
  | notCounted typeName => "object of type '" ++ typeName ++ "' has no len()"
  | tooManyMembers => "Python int too large to convert to C ssize_t"
  | outOfMemory => ""
  | unhashable typeName => "unhashable type: '" ++ typeName ++ "'"
  | noPair typeName => "cannot unpack non-iterable " ++ typeName ++ " object"
  | shortPair members =>
    "not enough values to unpack (expected 2, got " ++ toString members ++ ")"
  | longPair => "too many values to unpack (expected 2)"
  | noEntry place =>
    "cannot convert dictionary update sequence element #" ++ toString place ++ " to a sequence"
  | entryLength place members =>
    "dictionary update sequence element #" ++ toString place ++ " has length " ++
      toString members ++ "; 2 is required"
  | zeroStep => "range() arg 3 must not be zero"
  | alreadySelected element => "Candidate " ++ element ++ " is already in the solution"
  | positionOutOfRange position => "Candidate index " ++ toString position ++ " out of range"
  | noSuchItem => "tuple index out of range"
  | noSuchEntry => "list index out of range"
  | indexTooWide => "cannot fit 'int' into an index-sized integer"
  | notAnInteger text =>
    "invalid literal for int() with base 10: " ++ Text.excerpt shownLength (Text.quoted text)
  | tooManyDigits digits =>
    "Exceeds the limit (" ++ toString Text.maxDigits ++
      " digits) for integer string conversion: value has " ++ toString digits ++
      " digits; use sys.set_int_max_str_digits() to increase the limit"
  | notANumber text => "could not convert string to float: " ++ Text.quoted text
  | noIntegerValue typeName =>
    "int() argument must be a string, a bytes-like object or a real number, not '" ++ typeName ++
      "'"
  | noNumberValue typeName =>
    "float() argument must be a string or a real number, not '" ++ typeName ++ "'"
  | noProduct typeName =>
    "unsupported operand type(s) for *: 'int' and '" ++ typeName ++ "'"
  | notReal typeName => "must be real number, not " ++ typeName
  | nanToInteger => "cannot convert float NaN to integer"
  | infinityToInteger => "cannot convert float infinity to integer"
  | integerTooLarge => "int too large to convert to float"
  | quotientTooLarge => "integer division result too large for a float"
  | divisionByZero => "division by zero"
  | remainderByZero => "integer modulo by zero"
  | noLayout typeName => "unsupported format string passed to " ++ typeName ++ ".__format__"
  | textAsNumber => "Unknown format code 'f' for object of type 'str'"
  | negativeSeed => "expected non-negative integer"
  | emptyDraw => "high <= 0"
  | boundTooLarge => "high is out of bounds for int64"
  | unscored candidate => toString candidate
  | negativeOrder order => "Negative number of nodes not valid: " ++ toString order
  | nullCharacter => "embedded null byte"
  | absentNode => "None cannot be a node"
  | missingNode value => "The node " ++ value.plain ++ " is not in the graph."
  | noGreatestScore =>
    "zero-size array to reduction operation maximum which has no identity"
  | unevenScores lengths =>
    "setting an array element with a sequence. The requested array has an inhomogeneous shape " ++
      "after " ++ toString lengths.length ++ " dimensions. The detected shape was " ++
      (Value.tuple (lengths.map fun (length : Nat) => .int length)).written ++
      " + inhomogeneous part."
  | notOrdered operator left right =>
    "'" ++ operator ++ "' not supported between instances of '" ++ left ++ "' and '" ++ right ++ "'"
  | nothingChosen => "'<=' not supported between instances of 'int' and 'NoneType'"
  | noMember typeName member =>
    "'" ++ typeName ++ "' object has no attribute '" ++ member ++ "'"
  | raised r => r.text

def toRaised : Fault → Raised
  | raised r => r
  | fault => ⟨fault.kind, fault.message⟩

end Fault

end Carousel
