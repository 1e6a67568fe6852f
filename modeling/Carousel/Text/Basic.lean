import Carousel.Binary64
import Carousel.Text.Characters

/-!
# Texts

Lines, quoted texts and written numbers.
-/

namespace Carousel.Text

/-! ## Lines

The lines of a text.  A line ends at any of the characters that separate lines or pages. -/

def endsLine (c : Char) : Bool :=
  c.toNat ∈ [0x0a, 0x0b, 0x0c, 0x0d, 0x1c, 0x1d, 0x1e, 0x85, 0x2028, 0x2029]

/-- The pieces of a text between the characters of a class; there is always one. -/
def pieces (mark : Char → Bool) : List Char → List (List Char)
  | [] => [[]]
  | c :: rest =>
    if mark c then [] :: pieces mark rest
    else match pieces mark rest with
      | [] => [[c]]
      | piece :: others => (c :: piece) :: others

def lines (text : String) : List (List Char) := pieces endsLine text.toList

/-! ## Quoted text

A text between quotes.  Single quotes are used unless the text has one and no double quote.  The
quote in use, the backslash and characters that are not printable are escaped. -/

def hexadecimal (width n : Nat) : String :=
  let digits := String.ofList (Nat.toDigits 16 n)
  "".pushn '0' (width - digits.length) ++ digits

def escapeCode (c : Char) : String :=
  if c.toNat < 0x100 then "\\x" ++ hexadecimal 2 c.toNat
  else if c.toNat < 0x10000 then "\\u" ++ hexadecimal 4 c.toNat
  else "\\U" ++ hexadecimal 8 c.toNat

def quoteChar (mark c : Char) : String :=
  if c = mark ∨ c = '\\' then "\\" ++ c.toString
  else if c = '\n' then "\\n"
  else if c = '\r' then "\\r"
  else if c = '\t' then "\\t"
  else if isPrintable c then c.toString
  else escapeCode c

def quoteMark (text : List Char) : Char :=
  if '\'' ∈ text ∧ '"' ∉ text then '"' else '\''

def quoted (text : String) : String :=
  let mark := quoteMark text.toList
  (text.foldl (fun written c => written ++ quoteChar mark c) mark.toString) ++ mark.toString

def excerpt (most : Nat) (text : String) : String := String.ofList (text.toList.take most)

/-! ## Written numbers

Reading integers and floating-point numbers.  Digits may come from any script, and a single
underscore may stand between two of them.  An integer may have only so many digits; a floating-point
number may have any number of them. -/

def digitRun? : List Char → Option (List Nat)
  | [] => none
  | [c] => (digitValue? c).map ([·])
  | c :: '_' :: rest => do return (← digitValue? c) :: (← digitRun? rest)
  | c :: rest => do return (← digitValue? c) :: (← digitRun? rest)

def optionalRun? (text : List Char) : Option (List Nat) :=
  if text.isEmpty then some [] else digitRun? text

def ofDigits (digits : List Nat) : Nat := digits.foldl (fun n d => n * 10 + d) 0

def splitSign : List Char → Bool × List Char
  | '-' :: rest => (true, rest)
  | '+' :: rest => (false, rest)
  | text => (false, text)

def signed (negative : Bool) (n : Nat) : Int := if negative then -(n : Int) else n

def signedRun? (text : List Char) : Option Int :=
  let (negative, rest) := splitSign text
  (digitRun? rest).map fun digits => signed negative (ofDigits digits)

/-- Why a text is not read as an integer: it is not written like one, or it has more digits than are
read. -/
inductive Unread where
  | malformed
  | tooLong (digits : Nat)
deriving DecidableEq

def maxDigits : Nat := 4300

def isDigitMark (c : Char) : Bool := (digitValue? c).isSome || c == '_'

/-- The integer that a text stands for.  The digits are counted before what stands behind them is
looked at. -/
def readInt (text : String) : Except Unread Int :=
  let (negative, rest) := splitSign (trim isPadding text.toList)
  match digitRun? (rest.takeWhile isDigitMark) with
  | none => .error .malformed
  | some digits =>
    if maxDigits < digits.length then .error (.tooLong digits.length)
    else if (rest.dropWhile isDigitMark).isEmpty then .ok (signed negative (ofDigits digits))
    else .error .malformed

/-- A number without sign: digits with an optional point, and an optional exponent. -/
def readUnsigned? (negative : Bool) (text : List Char) : Option Binary64 := do
  let isE (c : Char) : Bool := c = 'e' || c = 'E'
  let mantissa := text.takeWhile (!isE ·)
  let exponent ← match text.dropWhile (!isE ·) with
    | [] => some 0
    | _ :: rest => signedRun? rest
  let whole ← optionalRun? (mantissa.takeWhile (· ≠ '.'))
  let fraction ← optionalRun? ((mantissa.dropWhile (· ≠ '.')).drop 1)
  if whole.isEmpty && fraction.isEmpty then none
  else some (.ofDecimal negative (ofDigits (whole ++ fraction)) (exponent - fraction.length))

/-- The floating-point number that a text stands for: a decimal, an infinity or not-a-number. -/
def readBinary64? (text : String) : Option Binary64 :=
  let (negative, rest) := splitSign (trim isPadding text.toList)
  let word := String.ofList (rest.map Char.toLower)
  if word = "inf" ∨ word = "infinity" then some (.infinity negative)
  else if word = "nan" then some .nan
  else readUnsigned? negative rest

end Carousel.Text
