import Carousel.Value.Conversion

/-!
# Settings

The five parameters of a solver as raw values, before anything is known about them.  Settings are
used for solvers and for the defaults of the library, and can be overridden by name.
-/

namespace Carousel

structure Settings where
  alpha : Value
  beta : Value
  seed : Value
  randomTieBreak : Value
  verbose : Value
deriving Inhabited

abbrev Fields := List (String × Value)

namespace Settings

def builtinAlpha : Int := 10

/-- The built-in fraction of a selection that is removed: one fifth. -/
def builtinBeta : Binary64 := .ofRatio false 1 5

def builtinSeed : Int := 42

def builtin : Settings :=
  { alpha := .int builtinAlpha
    beta := .real builtinBeta
    seed := .int builtinSeed
    randomTieBreak := .bool true
    verbose := .bool false }

/-- The settings with one parameter replaced; `none` if there is no parameter of that name. -/
def set? (s : Settings) (name : String) (value : Value) : Option Settings :=
  match name with
  | "alpha" => some { s with alpha := value }
  | "beta" => some { s with beta := value }
  | "seed" => some { s with seed := value }
  | "random_tie_break" => some { s with randomTieBreak := value }
  | "verbose" => some { s with verbose := value }
  | _ => none

/-- The settings with one parameter replaced; a name that belongs to no parameter changes
nothing. -/
def put (s : Settings) (name : String) (value : Value) : Settings := (s.set? name value).getD s

def misfit (form : Form) (name : String) : Fault :=
  if form.filled.contains name then .filledName form name else .unknownName form name

def assign (form : Form) (s : Settings) : Fields → Except Fault Settings
  | [] => .ok s
  | (name, value) :: rest =>
    match s.set? name value with
    | some changed => changed.assign form rest
    | none => .error (misfit form name)

def requireOpen (form : Form) (fields : Fields) : Except Fault Unit :=
  match fields.find? fun field => form.filled.contains field.1 with
  | some field => .error (.filledName form field.1)
  | none => .ok ()

def requireSingle (form : Form) (fields : Fields) : Except Fault Unit :=
  match fields.find? fun field => form.fixed.contains field.1 with
  | some field => .error (.givenTwice form field.1)
  | none => .ok ()

/-- The fields that are really given: an absent value leaves its parameter alone. -/
def given (fields : Fields) : Fields := fields.filter fun field => !field.2.isAbsent

def written (s : Settings) : String :=
  "SolverConfig(alpha=" ++ s.alpha.written ++ ", beta=" ++ s.beta.written ++
    ", seed=" ++ s.seed.written ++ ", random_tie_break=" ++ s.randomTieBreak.written ++
    ", verbose=" ++ s.verbose.written ++ ")"

def values (s : Settings) : List Value := [s.alpha, s.beta, s.seed, s.randomTieBreak, s.verbose]

/-- Whether two settings have equal values, compared up to the first difference. -/
def equal (s t : Settings) : Except Fault Bool :=
  match Value.equalItems s.values t.values with
  | .ok same => .ok same
  | .error raised => .error (.raised raised)

end Settings

/-! ## Valid configurations

A configuration holds settings that have passed every check.  It can be read as settings again
without loss, and it stays valid under overrides. -/

/-- A fraction in `[0, 1]`. -/
structure Share where
  number : Number
  least : (Number.int 0).le number = true
  most : number.le (Number.int 1) = true
deriving DecidableEq

structure Config where
  alpha : Nat
  beta : Share
  seed : Nat
  randomTieBreak : Bool
  verbose : Value
  alpha_pos : 0 < alpha

namespace Share

/-- The fraction that a number is, if it lies in `[0, 1]`. -/
def ofNumber? (number : Number) : Option Share :=
  if h : (Number.int 0).le number = true ∧ number.le (Number.int 1) = true then
    some ⟨number, h.1, h.2⟩
  else none

/-- How many of `size` things make up the fraction, rounded down.  A floating-point fraction is
multiplied in floating point. -/
def countOf (share : Share) (size : Nat) : Int :=
  match share.number with
  | .int i => size * i
  | .real x =>
    match (Binary64.ofRatio false size 1 * x).floor? with
    | some count => count
    | none => 0

end Share

namespace Settings

/-- The multiplier, a positive integer.  A truth value is no integer here. -/
def checkAlpha (value : Value) : Except Fault { alpha : Nat // 0 < alpha } :=
  match value with
  | .scalar (.int i) =>
    if h : 0 < i then .ok ⟨i.toNat, by omega⟩ else .error (.badAlpha value)
  | _ => .error (.badAlpha value)

/-- The removed fraction, an integer or floating-point number in `[0, 1]`. -/
def checkBeta (value : Value) : Except Fault Share :=
  let share? : Option Share :=
    match value with
    | .scalar (.int i) => Share.ofNumber? (.int i)
    | .scalar (.real x) => Share.ofNumber? (.real x)
    | _ => none
  match share? with
  | some share => .ok share
  | none => .error (.badBeta value)

def checkSeed (value : Value) : Except Fault Nat :=
  match value with
  | .scalar (.int i) => if 0 ≤ i then .ok i.toNat else .error (.badSeed value)
  | _ => .error (.badSeed value)

/-- How many of `size` things a value counts as a fraction, rounded down, though nobody has checked that
it is one.  A sequence can be multiplied, but its repetition is no number. -/
def uncheckedCount (value : Value) (size : Nat) : Except Fault Int :=
  match value with
  | .scalar (.int i) => .ok (size * i)
  | .scalar (.bool b) => .ok (if b then size else 0)
  | .scalar (.real x) =>
    let product := Binary64.ofRatio false size 1 * x
    orFault (if product.isNaN then .nanToInteger else .infinityToInteger) product.floor?
  | .scalar (.text _) | .list _ | .tuple _ => .error (.notReal value.typeName)
  | _ => .error (.noProduct value.typeName)

def countOf (s : Settings) (size : Nat) : Except Fault Int :=
  match checkBeta s.beta with
  | .ok share => .ok (share.countOf size)
  | .error _ => uncheckedCount s.beta size

/-- Whether ties are drawn.  Any value is taken for its truth. -/
def drawsTies (s : Settings) : Bool := s.randomTieBreak.truth

def reports (s : Settings) : Bool := s.verbose.truth

def checkTieBreak (value : Value) : Except Fault Bool :=
  match value with
  | .scalar (.bool b) => .ok b
  | _ => .error (.badTieBreak value)

/-- The configuration that settings describe, if every field is in order.  The progress flag may be
any value; its truth counts. -/
def validate (s : Settings) : Except Fault Config := do
  let alpha ← checkAlpha s.alpha
  let beta ← checkBeta s.beta
  let seed ← checkSeed s.seed
  let randomTieBreak ← checkTieBreak s.randomTieBreak
  return { alpha := alpha.val, alpha_pos := alpha.property, beta, seed, randomTieBreak
           verbose := s.verbose }

end Settings

namespace Config

def toSettings (c : Config) : Settings :=
  { alpha := .int c.alpha
    beta := c.beta.number.toValue
    seed := .int c.seed
    randomTieBreak := .bool c.randomTieBreak
    verbose := c.verbose }

/-- The configuration with the given fields replaced.  When none is given, nothing is checked. -/
def override (c : Config) (fields : Fields) : Except Fault Config := do
  Settings.requireOpen .override fields
  match Settings.given fields with
  | [] => return c
  | changes => (← c.toSettings.assign .solver changes).validate

def reports (c : Config) : Bool := c.verbose.truth

instance : Inhabited Config :=
  ⟨{ alpha := 1, alpha_pos := by decide, beta := ⟨.int 0, by decide +kernel, by decide +kernel⟩
     seed := 0, randomTieBreak := false, verbose := .bool false }⟩

end Config

namespace Settings

/-- The settings with the given fields replaced and checked.  When none is given, the settings stay
as they are, unchecked. -/
def override (s : Settings) (fields : Fields) : Except Fault Settings := do
  requireOpen .override fields
  match given fields with
  | [] => return s
  | changes => return (← (← s.assign .solver changes).validate).toSettings

def resolve (defaults : Settings) (fields : Fields) : Except Fault Config := do
  requireOpen .resolve fields
  (← defaults.assign .solver (given fields)).validate

end Settings

end Carousel
