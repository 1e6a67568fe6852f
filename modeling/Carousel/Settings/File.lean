import Carousel.Settings.Basic

/-!
# Defaults of the library

The defaults come from the environment and from files, and can be saved in a file.
-/

namespace Carousel

/-! ## Defaults from the environment

Each default of the library can be set by a text in the environment, which holds no null character.
A text that is missing or empty leaves the built-in default. -/

structure Environment where
  alpha : Option String := none
  beta : Option String := none
  seed : Option String := none
  randomTieBreak : Option String := none
  verbose : Option String := none
deriving Inhabited

namespace Environment

def texts (env : Environment) : List String :=
  [env.alpha, env.beta, env.seed, env.randomTieBreak, env.verbose].filterMap id

def checked (env : Environment) : Except Fault Environment :=
  if env.texts.any (·.toList.contains '\x00') then .error .nullCharacter else .ok env

def fromText {α : Type} (text : Option String) (builtin : α) (read : String → Except Fault α) :
    Except Fault α :=
  match text with
  | none => .ok builtin
  | some "" => .ok builtin
  | some text => read text

def alphaDefault (env : Environment) : Except Fault Value := do
  return .int (← fromText env.alpha Settings.builtinAlpha fun text => (Scalar.text text).toInt)

def betaDefault (env : Environment) : Except Fault Value := do
  return .real
    (← fromText env.beta Settings.builtinBeta fun text => (Scalar.text text).toBinary64)

def seedDefault (env : Environment) : Except Fault Value := do
  return .int (← fromText env.seed Settings.builtinSeed fun text => (Scalar.text text).toInt)

def randomTieBreakDefault (env : Environment) : Except Fault Value := do
  return .bool (← fromText env.randomTieBreak true fun text => .ok (meansYes text))

def verboseDefault (env : Environment) : Except Fault Value := do
  return .bool (← fromText env.verbose false fun text => .ok (meansYes text))

end Environment

namespace Settings

/-- The value of a parameter if it is given, otherwise its default. -/
def orDefault (value : Option Value) (default : Except Fault Value) : Except Fault Value :=
  match value with
  | some value => .ok value
  | none => default

/-- Defaults of the library from the given fields, the others from the environment.  Only the
defaults that are needed are read. -/
def ofFields (env : Environment) (fields : Fields) : Except Fault Settings := do
  let _ ← builtin.assign .library fields
  let field? (name : String) : Option Value := (fields.find? fun field => field.1 == name).map (·.2)
  return {
    alpha := ← orDefault (field? "alpha") env.alphaDefault
    beta := ← orDefault (field? "beta") env.betaDefault
    seed := ← orDefault (field? "seed") env.seedDefault
    randomTieBreak := ← orDefault (field? "random_tie_break") env.randomTieBreakDefault
    verbose := ← orDefault (field? "verbose") env.verboseDefault }

def ofEnvironment (env : Environment) : Except Fault Settings := ofFields env []

/-- Defaults of the library from raw values by name, each converted to the type of its parameter.
The environment is read first, even where its defaults are replaced. -/
def ofLookup (env : Environment) (find? : String → Option Value) : Except Fault Settings := do
  let defaults ← ofEnvironment env
  return {
    alpha := .int (← ((find? "alpha").getD defaults.alpha).toInt)
    beta := .real (← ((find? "beta").getD defaults.beta).toBinary64)
    seed := .int (← ((find? "seed").getD defaults.seed).toInt)
    randomTieBreak := .bool ((find? "random_tie_break").getD defaults.randomTieBreak).toFlag
    verbose := .bool ((find? "verbose").getD defaults.verbose).toFlag }

def ofValue (env : Environment) (value : Value) : Except Fault Settings :=
  match value with
  | .dict entries => ofLookup env fun name =>
      (entries.find? fun entry =>
        match (Value.text name).equal entry.1 with
        | .ok same => same
        | .error _ => false).map (·.2)
  | _ => do
    let _ ← ofEnvironment env
    throw (.noMember value.typeName "get")

/-! ## Settings in files

A file of settings has one assignment a line.  A line is cut at the first hash mark and trimmed;
blank lines, section headings and lines without an equals sign assign nothing.  The last assignment
to a name counts, and a name that no line assigns keeps its default. -/

/-- What a line assigns: a name and a text, the text without the double quotes around it. -/
def assignment? (line : List Char) : Option (String × String) :=
  let line := Text.trim Text.isBlank (line.takeWhile (· ≠ '#'))
  if line.head? = some '[' ∧ line.getLast? = some ']' then none
  else if '=' ∉ line then none
  else
    let name := Text.trim Text.isBlank (line.takeWhile (· ≠ '='))
    let value := Text.trim Text.isBlank ((line.dropWhile (· ≠ '=')).drop 1)
    some (String.ofList name, String.ofList (Text.trim (· = '"') value))

def assignments (text : String) : List (String × String) :=
  (Text.lines text).filterMap assignment?

def lastAssigned? (text name : String) : Option String :=
  ((assignments text).reverse.find? fun entry => entry.1 == name).map (·.2)

def ofText (env : Environment) (text : String) : Except Fault Settings :=
  ofLookup env fun name => (lastAssigned? text name).map Value.text

def load (env : Environment) (file : Option String) : Except Fault Settings :=
  match file with
  | some text => ofText env text
  | none => ofEnvironment env

/-- Defaults of the library from the file of the working directory, or else from that of the
user. -/
def loadFirst (env : Environment) (localFile userFile : Option String) : Except Fault Settings :=
  load env (localFile.or userFile)

def toText (s : Settings) : String :=
  "\n".intercalate [
    "# carouselgreedy configuration",
    "",
    "[solver]",
    "alpha = " ++ s.alpha.plain,
    "beta = " ++ s.beta.plain,
    "seed = " ++ s.seed.plain,
    "random_tie_break = " ++ Text.lower s.randomTieBreak.plain,
    "",
    "[general]",
    "verbose = " ++ Text.lower s.verbose.plain] ++ "\n"

end Settings

/-! ## A shelf of settings

The current defaults of the library together with the files that they can be kept in: one at a path
of its own, one in the working directory, and one of the user. -/

structure Shelf where
  current : Settings
  saved : Option String := none
  localFile : Option String := none
  userFile : Option String := none
deriving Inhabited

namespace Shelf

def save (shelf : Shelf) : String × Shelf :=
  let text := shelf.current.toText
  (text, { shelf with saved := some text })

def saveLocal (shelf : Shelf) : String × Shelf :=
  let text := shelf.current.toText
  (text, { shelf with localFile := some text })

def reload (env : Environment) (shelf : Shelf) : Except Fault Shelf := do
  return { shelf with current := ← Settings.load env shelf.saved }

/-- Reads the file in the working directory, or else that of the user. -/
def reloadFirst (env : Environment) (shelf : Shelf) : Except Fault Shelf := do
  return { shelf with current := ← Settings.loadFirst env shelf.localFile shelf.userFile }

end Shelf

end Carousel
