import Carousel.Proofs.Except
import Carousel.Proofs.Written
import Carousel.Settings.File

/-!
# Saving settings

Settings of the right types are saved as lines that hold one assignment each, and every value is
read back from its line.  No default of the environment shows through, so loading gives the settings
that were saved.  What is loaded from any text has the right types, and can be saved again.
-/

namespace Carousel

namespace Text

/-! ## Lines -/

def Unbroken (text : List Char) : Prop := ∀ c ∈ text, endsLine c = false

instance (text : List Char) : Decidable (Unbroken text) :=
  List.decidableBAll (fun c => endsLine c = false) text

theorem pieces_append {mark : Char → Bool} {line : List Char}
    (unbroken : ∀ c ∈ line, mark c = false) {stop : Char} (stops : mark stop = true)
    (rest : List Char) : pieces mark (line ++ stop :: rest) = line :: pieces mark rest := by
  induction line with
  | nil => simp [pieces, stops]
  | cons c line ih =>
    have first : mark c = false := unbroken c List.mem_cons_self
    have others := ih fun c found => unbroken c (List.mem_cons_of_mem _ found)
    simp [pieces, first, others]

/-- Lines are read back from the text that they are joined to; an empty one stands at its end. -/
theorem lines_intercalate {texts : List String} (given : texts ≠ [])
    (unbroken : ∀ text ∈ texts, Unbroken text.toList) :
    lines ("\n".intercalate texts ++ "\n") = texts.map String.toList ++ [[]] := by
  have stops : endsLine '\n' = true := rfl
  have mark : "\n".toList = ['\n'] := rfl
  induction texts with
  | nil => exact absurd rfl given
  | cons text rest ih =>
    have first := unbroken text List.mem_cons_self
    -- The last text ends with a break as well, and an empty line comes after it.
    cases rest with
    | nil =>
      rw [lines, String.intercalate_singleton, String.toList_append, mark,
        pieces_append first stops]
      rfl
    | cons next rest =>
      have others := ih (List.cons_ne_nil _ _) fun text found =>
        unbroken text (List.mem_cons_of_mem _ found)
      rw [lines, String.toList_append, mark] at others
      rw [lines, String.intercalate_cons_cons, String.toList_append, String.toList_append,
        String.toList_append, mark, List.append_assoc, List.append_assoc, List.singleton_append,
        pieces_append first stops, others]
      rfl

/-- Everything that ends a line is blank. -/
theorem endsLine_eq_false {c : Char} (unblank : isBlank c = false) : endsLine c = false := by
  simp only [isBlank, endsLine, decide_eq_false_iff_not, List.mem_cons, not_or] at *
  simp_all

theorem trim_cons {drop : Char → Bool} {c : Char} (dropped : drop c = true) (text : List Char) :
    trim drop (c :: text) = trim drop text := by
  rw [trim, List.dropWhile_cons_of_pos dropped, trim]

theorem trim_append_singleton {drop : Char → Bool} {c : Char} (dropped : drop c = true)
    (text : List Char) : trim drop (text ++ [c]) = trim drop text := by
  rw [trim, List.dropWhile_append, trim]
  split
  · rename_i empty
    rw [List.isEmpty_iff.1 empty, List.dropWhile_cons_of_pos dropped]
    rfl
  · rw [List.reverse_append, List.reverse_singleton, List.singleton_append,
      List.dropWhile_cons_of_pos dropped]

end Text

namespace Settings

open Text

/-! ## Assignments -/

structure IsName (name : String) : Prop where
  plain : Plain name.toList
  given : name.toList ≠ []
  unassigned : '=' ∉ name.toList
  unbracketed : '[' ∉ name.toList

/-- A name and a value that a line can hold as they are. -/
structure IsEntry (entry : String × String) : Prop where
  isName : IsName entry.1
  plain : Plain entry.2.toList
  given : entry.2.toList ≠ []

def line (entry : String × String) : String := entry.1 ++ " = " ++ entry.2

/-- An entry is read back from its line. -/
theorem assignment?_line {entry : String × String} (isEntry : IsEntry entry) :
    assignment? (line entry).toList = some entry := by
  obtain ⟨name, value⟩ := entry
  obtain ⟨isName, plain, given⟩ := isEntry
  obtain ⟨first, others, front⟩ := List.exists_cons_of_ne_nil isName.given
  obtain ⟨last, back⟩ := Option.isSome_iff_exists.1 (List.getLast?_isSome.2 given)
  have parts : (line (name, value)).toList =
      (name.toList ++ [' ']) ++ '=' :: ' ' :: value.toList := by simp [line]
  have uncommented : ∀ c ∈ (name.toList ++ [' ']) ++ '=' :: ' ' :: value.toList,
      decide (c ≠ '#') = true := by
    intro c found
    simp only [List.mem_append, List.mem_cons, List.not_mem_nil, or_false] at found
    apply decide_eq_true
    rcases found with (found | rfl) | rfl | rfl | found
    · exact (isName.plain c found).2.1
    · decide
    · decide
    · decide
    · exact (plain c found).2.1
  -- The line begins with the name and ends with the value, so no blank is at its ends.
  have untrimmed : trim isBlank ((name.toList ++ [' ']) ++ '=' :: ' ' :: value.toList) =
      (name.toList ++ [' ']) ++ '=' :: ' ' :: value.toList := by
    apply trim_eq_self
    · intro c found
      have same : first = c := by simpa [front] using found
      exact same ▸ (isName.plain first (by simp [front])).1
    · intro c found
      have same : last = c := by simpa [List.getLast?_append, List.getLast?_cons, back] using found
      exact same ▸ (plain last (List.mem_of_getLast? back)).1
  have unbracketed : ((name.toList ++ [' ']) ++ '=' :: ' ' :: value.toList).head? ≠ some '[' := by
    intro bracket
    have same : first = '[' := by simpa [front] using bracket
    exact isName.unbracketed (by simp [front, same])
  have named : ∀ c ∈ name.toList ++ [' '], decide (c ≠ '=') = true := by
    intro c found
    apply decide_eq_true
    rcases List.mem_append.1 found with found | found
    · exact fun same => isName.unassigned (same ▸ found)
    · rw [List.mem_singleton.1 found]
      decide
  have unquoted : trim (· = '"') value.toList = value.toList :=
    trim_of_forall fun c found => decide_eq_false (plain c found).2.2
  rw [parts]
  simp only [assignment?, List.takeWhile_eq_self_iff.2 uncommented, untrimmed]
  rw [if_neg (fun bracket => unbracketed bracket.1), if_neg (by simp),
    List.takeWhile_append_of_pos named, List.dropWhile_append_of_pos named,
    List.takeWhile_cons_of_neg (by simp), List.dropWhile_cons_of_neg (by simp), List.append_nil,
    trim_append_singleton rfl, isName.plain.trim_isBlank, List.drop_one, List.tail_cons,
    trim_cons rfl, plain.trim_isBlank, unquoted, String.ofList_toList, String.ofList_toList]

theorem unbroken_line {entry : String × String} (isEntry : IsEntry entry) :
    Unbroken (line entry).toList := by
  have marks : Unbroken " = ".toList := by decide
  intro c found
  rw [line, String.toList_append, String.toList_append, List.mem_append, List.mem_append] at found
  rcases found with (found | found) | found
  · exact endsLine_eq_false (isEntry.isName.plain c found).1
  · exact marks c found
  · exact endsLine_eq_false (isEntry.plain c found).1

theorem filterMap_lines {entries : List (String × String)}
    (isEntry : ∀ entry ∈ entries, IsEntry entry) :
    ((entries.map line).map String.toList).filterMap assignment? = entries := by
  induction entries with
  | nil => rfl
  | cons entry rest ih =>
    rw [List.map_cons, List.map_cons,
      List.filterMap_cons_some (assignment?_line (isEntry entry List.mem_cons_self)),
      ih fun entry found => isEntry entry (List.mem_cons_of_mem _ found)]

/-! ## Settings as text -/

def typed (alpha : Int) (beta : Binary64) (seed : Int) (randomTieBreak verbose : Bool) : Settings :=
  { alpha := .int alpha
    beta := .real beta
    seed := .int seed
    randomTieBreak := .bool randomTieBreak
    verbose := .bool verbose }

def flagText (yes : Bool) : String := if yes then "true" else "false"

theorem lower_plain_bool (yes : Bool) : lower (Value.bool yes).plain = flagText yes := by
  cases yes <;> decide +kernel

theorem toFlag_flagText (yes : Bool) : (Value.text (flagText yes)).toFlag = yes := by
  cases yes <;> decide +kernel

theorem plain_flagText (yes : Bool) : Plain (flagText yes).toList := by
  cases yes <;> decide

theorem flagText_ne_empty (yes : Bool) : (flagText yes).toList ≠ [] := by
  cases yes <;> decide

def solverEntries (alpha : Int) (beta : Binary64) (seed : Int) (randomTieBreak : Bool) :
    List (String × String) :=
  [("alpha", toString alpha), ("beta", beta.write), ("seed", toString seed),
    ("random_tie_break", flagText randomTieBreak)]

def generalEntries (verbose : Bool) : List (String × String) := [("verbose", flagText verbose)]

variable {alpha seed : Int} {beta : Binary64} {randomTieBreak verbose : Bool}

theorem isName_parameter :
    ∀ name ∈ ["alpha", "beta", "seed", "random_tie_break", "verbose"], IsName name := by
  simp only [List.forall_mem_cons]
  exact ⟨by constructor <;> decide, by constructor <;> decide, by constructor <;> decide,
    by constructor <;> decide, by constructor <;> decide, List.forall_mem_nil _⟩

theorem isEntry_solverEntries :
    ∀ entry ∈ solverEntries alpha beta seed randomTieBreak, IsEntry entry := by
  simp only [solverEntries, List.forall_mem_cons]
  exact ⟨⟨isName_parameter _ (by simp), plain_toString alpha, toString_ne_empty alpha⟩,
    ⟨isName_parameter _ (by simp), beta.plain_write, beta.write_ne_empty⟩,
    ⟨isName_parameter _ (by simp), plain_toString seed, toString_ne_empty seed⟩,
    ⟨isName_parameter _ (by simp), plain_flagText randomTieBreak, flagText_ne_empty randomTieBreak⟩,
    List.forall_mem_nil _⟩

theorem isEntry_generalEntries : ∀ entry ∈ generalEntries verbose, IsEntry entry := by
  simp only [generalEntries, List.forall_mem_cons]
  exact ⟨⟨isName_parameter _ (by simp), plain_flagText verbose, flagText_ne_empty verbose⟩,
    List.forall_mem_nil _⟩

theorem toText_typed :
    (typed alpha beta seed randomTieBreak verbose).toText =
      "\n".intercalate (["# carouselgreedy configuration", "", "[solver]"] ++
        (solverEntries alpha beta seed randomTieBreak).map line ++ ["", "[general]"] ++
        (generalEntries verbose).map line) ++ "\n" := by
  rw [toText, typed, lower_plain_bool, lower_plain_bool]
  rfl

/-- The saved text assigns each parameter once, and nothing else. -/
theorem assignments_toText :
    assignments (typed alpha beta seed randomTieBreak verbose).toText =
      solverEntries alpha beta seed randomTieBreak ++ generalEntries verbose := by
  have first : (["# carouselgreedy configuration", "", "[solver]"].map String.toList).filterMap
      assignment? = [] := by decide +kernel
  have second : (["", "[general]"].map String.toList).filterMap assignment? = [] := by
    decide +kernel
  have last : [[]].filterMap assignment? = [] := by decide
  rw [assignments, toText_typed, lines_intercalate (by simp)]
  · simp only [List.map_append, List.filterMap_append, first, second, last,
      filterMap_lines isEntry_solverEntries, filterMap_lines isEntry_generalEntries,
      List.nil_append, List.append_nil]
  · have above : ∀ text ∈ ["# carouselgreedy configuration", "", "[solver]"],
        Unbroken text.toList := by decide +kernel
    have between : ∀ text ∈ ["", "[general]"], Unbroken text.toList := by decide +kernel
    simp only [List.forall_mem_append, List.forall_mem_map]
    exact ⟨⟨⟨above, fun entry found => unbroken_line (isEntry_solverEntries entry found)⟩, between⟩,
      fun entry found => unbroken_line (isEntry_generalEntries entry found)⟩

/-! ## Loading -/

theorem toInt_text {text : String} {n : Int} :
    (Scalar.text text).toInt = .ok n ↔ readInt text = .ok n := by
  rw [Scalar.toInt]
  split <;> simp_all

/-- Loading needs an environment that can be read, but takes nothing from it: every parameter is
assigned. -/
theorem ofText_toText {env : Environment} {defaults : Settings}
    (parses : ofEnvironment env = .ok defaults) (alpha_reads : readInt (toString alpha) = .ok alpha)
    (seed_reads : readInt (toString seed) = .ok seed) :
    ofText env (typed alpha beta seed randomTieBreak verbose).toText =
      .ok (typed alpha beta seed randomTieBreak verbose) := by
  have alphaInt : (Value.text (toString alpha)).toInt = .ok alpha := by
    rw [Value.toInt, toInt_text.2 alpha_reads]
  have seedInt : (Value.text (toString seed)).toInt = .ok seed := by
    rw [Value.toInt, toInt_text.2 seed_reads]
  have betaReal : (Value.text beta.write).toBinary64 = .ok beta := by
    rw [Value.toBinary64, Scalar.toBinary64, beta.readBinary64?_write, orFault]
  -- The names are distinct, so what is assigned last to a name is the text of its own entry.
  have last : ∀ entry ∈ solverEntries alpha beta seed randomTieBreak ++ generalEntries verbose,
      (lastAssigned? (typed alpha beta seed randomTieBreak verbose).toText entry.1).map Value.text =
        some (Value.text entry.2) := by
    simp only [lastAssigned?, assignments_toText, solverEntries, generalEntries, List.cons_append,
      List.nil_append, List.forall_mem_cons]
    exact ⟨rfl, rfl, rfl, rfl, rfl, List.forall_mem_nil _⟩
  simp only [solverEntries, generalEntries, List.cons_append, List.nil_append,
    List.forall_mem_cons] at last
  obtain ⟨alphaText, betaText, seedText, tieBreakText, verboseText, -⟩ := last
  simp only [ofText, ofLookup, parses, alphaText, betaText, seedText, tieBreakText, verboseText,
    Option.getD_some, alphaInt, betaReal, seedInt, toFlag_flagText]
  simp only [bind, Except.bind, pure, Except.pure, typed]

/-! ## What is loaded -/

def readInteger (written : String) : Except Fault Int := (Value.text written).toInt

def readNumber (written : String) : Except Fault Binary64 := (Value.text written).toBinary64

/-- A text is yes or no, whatever it holds. -/
def readFlag (written : String) : Except Fault Bool := .ok (meansYes written)

/-- The environment gives settings of the right types. -/
theorem ofEnvironment_eq_ok {env : Environment} {s : Settings} :
    ofEnvironment env = .ok s ↔ ∃ alpha beta seed randomTieBreak verbose,
      Environment.fromText env.alpha builtinAlpha readInteger = .ok alpha ∧
      Environment.fromText env.beta builtinBeta readNumber = .ok beta ∧
      Environment.fromText env.seed builtinSeed readInteger = .ok seed ∧
      Environment.fromText env.randomTieBreak true readFlag = .ok randomTieBreak ∧
      Environment.fromText env.verbose false readFlag = .ok verbose ∧
      typed alpha beta seed randomTieBreak verbose = s := by
  simp only [ofEnvironment, ofFields, List.find?_nil, Option.map_none, orDefault,
    Environment.alphaDefault, Environment.betaDefault, Environment.seedDefault,
    Environment.randomTieBreakDefault, Environment.verboseDefault, bind_eq_ok, pure, Except.pure,
    Except.ok.injEq]
  constructor
  · intro ⟨_, _, _, ⟨alpha, foundAlpha, rfl⟩, _, ⟨beta, foundBeta, rfl⟩, _, ⟨seed, foundSeed, rfl⟩,
      _, ⟨randomTieBreak, foundTieBreak, rfl⟩, _, ⟨verbose, foundVerbose, rfl⟩, same⟩
    exact ⟨alpha, beta, seed, randomTieBreak, verbose, foundAlpha, foundBeta, foundSeed,
      foundTieBreak, foundVerbose, same⟩
  · intro ⟨alpha, beta, seed, randomTieBreak, verbose, foundAlpha, foundBeta, foundSeed,
      foundTieBreak, foundVerbose, same⟩
    exact ⟨_, rfl, _, ⟨alpha, foundAlpha, rfl⟩, _, ⟨beta, foundBeta, rfl⟩, _,
      ⟨seed, foundSeed, rfl⟩, _, ⟨randomTieBreak, foundTieBreak, rfl⟩, _, ⟨verbose, foundVerbose, rfl⟩, same⟩

/-- Settings of the right types whose integers can be read back. -/
inductive Storable : Settings → Prop
  | intro {alpha seed : Int} (beta : Binary64) (randomTieBreak verbose : Bool)
      (alpha_reads : readInt (toString alpha) = .ok alpha)
      (seed_reads : readInt (toString seed) = .ok seed) :
      Storable (typed alpha beta seed randomTieBreak verbose)

theorem readInt_of_fromText {text : Option String} {builtin n : Int}
    (builtin_reads : readInt (toString builtin) = .ok builtin)
    (found : Environment.fromText text builtin readInteger = .ok n) :
    readInt (toString n) = .ok n := by
  unfold Environment.fromText at found
  split at found
  · rwa [← Except.ok.inj found]
  · rwa [← Except.ok.inj found]
  · exact readInt_toString_of_readInt (toInt_text.1 found)

theorem storable_of_ofEnvironment {env : Environment} {s : Settings}
    (loaded : ofEnvironment env = .ok s) : Storable s := by
  have alpha_reads : readInt (toString builtinAlpha) = .ok builtinAlpha := by decide +kernel
  have seed_reads : readInt (toString builtinSeed) = .ok builtinSeed := by decide +kernel
  obtain ⟨alpha, beta, seed, randomTieBreak, verbose, foundAlpha, _, foundSeed, _, _, rfl⟩ :=
    ofEnvironment_eq_ok.1 loaded
  exact .intro beta randomTieBreak verbose (readInt_of_fromText alpha_reads foundAlpha)
    (readInt_of_fromText seed_reads foundSeed)

/-- An integer that is loaded comes from a text or is the default. -/
theorem readInt_of_toInt {text : Option String} {default n : Int}
    (default_reads : readInt (toString default) = .ok default)
    (found : ((text.map Value.text).getD (.int default)).toInt = .ok n) :
    readInt (toString n) = .ok n := by
  cases text with
  | none =>
    rw [Option.map_none, Option.getD_none, Value.toInt, Scalar.toInt] at found
    rwa [← Except.ok.inj found]
  | some text =>
    rw [Option.map_some, Option.getD_some, Value.toInt] at found
    exact readInt_toString_of_readInt (toInt_text.1 found)

/-- Whatever is loaded can be saved. -/
theorem storable_of_load {env : Environment} {file : Option String} {s : Settings}
    (loaded : load env file = .ok s) : Storable s := by
  cases file with
  | none => exact storable_of_ofEnvironment loaded
  | some text =>
    simp only [load, ofText, ofLookup, bind_eq_ok, pure, Except.pure, Except.ok.injEq] at loaded
    obtain ⟨defaults, parses, alpha, foundAlpha, beta, _, seed, foundSeed, rfl⟩ := loaded
    obtain ⟨_, _, _, alpha_reads, seed_reads⟩ := storable_of_ofEnvironment parses
    exact .intro beta _ _ (readInt_of_toInt alpha_reads foundAlpha)
      (readInt_of_toInt seed_reads foundSeed)

/-- Settings that can be saved are loaded from the saved text as they are. -/
theorem Storable.load_toText {env : Environment} {s : Settings} (storable : Storable s)
    (parses : ∃ defaults, ofEnvironment env = .ok defaults) : load env (some s.toText) = .ok s := by
  obtain ⟨defaults, parses⟩ := parses
  cases storable with
  | intro beta randomTieBreak verbose alpha_reads seed_reads =>
    exact ofText_toText parses alpha_reads seed_reads

end Settings

/-! ## Shelves -/

namespace Shelf

/-- What is saved of the settings is loaded as the settings again: from the text alone, whatever the user's
file holds, and on any shelf that still has the file, whatever its current settings and its other files have
become since. -/
structure Restores (env : Environment) (s : Settings) : Prop where
  load : Settings.load env (some s.toText) = .ok s
  loadFirst : ∀ user, Settings.loadFirst env (some s.toText) user = .ok s
  reload : ∀ shelf later : Shelf, shelf.current = s → later.saved = shelf.save.2.saved →
    later.reload env = .ok { later with current := s }
  reloadFirst : ∀ shelf later : Shelf, shelf.current = s →
    later.localFile = shelf.saveLocal.2.localFile →
    later.reloadFirst env = .ok { later with current := s }

theorem restores_of_storable {env : Environment} {s : Settings} (storable : s.Storable)
    (parses : ∃ defaults, Settings.ofEnvironment env = .ok defaults) : Restores env s := by
  have loaded := storable.load_toText parses
  have first (user : Option String) : Settings.loadFirst env (some s.toText) user = .ok s := by
    rw [Settings.loadFirst, Option.some_or, loaded]
  refine ⟨loaded, first, ?_, ?_⟩
  · rintro shelf later rfl kept
    have file : later.saved = some shelf.current.toText := kept
    rw [reload, file, loaded]
    rfl
  · rintro shelf later rfl kept
    have file : later.localFile = some shelf.current.toText := kept
    rw [reloadFirst, file, first]
    rfl

/-- Settings of the right types are loaded again as they were saved, and so are the settings that any file
has given before.  An integer is required to be read back from its own digits, which it is unless it has more
of them than are ever read. -/
theorem saving_loses_nothing (env : Environment)
    (parses : ∃ defaults, Settings.ofEnvironment env = .ok defaults) :
    (∀ (alpha : Int) (beta : Binary64) (seed : Int) (randomTieBreak verbose : Bool),
      Text.readInt (toString alpha) = .ok alpha → Text.readInt (toString seed) = .ok seed →
        Restores env (.typed alpha beta seed randomTieBreak verbose)) ∧
    ∀ (earlier : Environment) (file : Option String) (s : Settings),
      Settings.load earlier file = .ok s → Restores env s :=
  ⟨fun _ beta _ randomTieBreak verbose alpha_reads seed_reads =>
      restores_of_storable (.intro beta randomTieBreak verbose alpha_reads seed_reads) parses,
    fun _ _ _ loaded => restores_of_storable (Settings.storable_of_load loaded) parses⟩

/-- A negative multiplier, not-a-number and a long seed, saved where the environment and the user's
file say otherwise, and loaded where other settings are current; and what a file with a comment, an
underscore and a negative zero gives. -/
theorem saving_loses_nothing_of_nan :
    let env : Environment := { alpha := some "3", beta := some "1e400", verbose := some "yes" }
    let shelf : Shelf :=
      { current := .typed (-7) .nan (10 ^ 30) false true, userFile := some "alpha = 5" }
    (∃ defaults, Settings.ofEnvironment env = .ok defaults) ∧
      Text.readInt (toString (-7 : Int)) = .ok (-7) ∧
      Text.readInt (toString (10 ^ 30 : Int)) = .ok (10 ^ 30) ∧
      ({ shelf.save.2 with current := .builtin } : Shelf).reload env =
        .ok { shelf with saved := some shelf.current.toText } ∧
      ({ shelf.saveLocal.2 with current := .builtin } : Shelf).reloadFirst env =
        .ok { shelf with localFile := some shelf.current.toText } ∧
      ∃ other, Settings.load env (some "alpha = +1_0 # ten\nbeta = -0.0\n") = .ok other ∧
        Restores env other := by
  intro env shelf
  have readable : (Settings.ofEnvironment env).toOption.isSome = true := by decide +kernel
  obtain ⟨defaults, found⟩ := Option.isSome_iff_exists.1 readable
  have parses : ∃ defaults, Settings.ofEnvironment env = .ok defaults :=
    ⟨defaults, eq_ok_of_toOption found⟩
  have alpha_reads : Text.readInt (toString (-7 : Int)) = .ok (-7) := by decide +kernel
  have seed_reads : Text.readInt (toString (10 ^ 30 : Int)) = .ok (10 ^ 30) := by decide +kernel
  have loadable : (Settings.load env
      (some "alpha = +1_0 # ten\nbeta = -0.0\n")).toOption.isSome = true := by decide +kernel
  obtain ⟨settings, given⟩ := Option.isSome_iff_exists.1 loadable
  have loaded := eq_ok_of_toOption given
  have restores := (saving_loses_nothing env parses).1 (-7) .nan (10 ^ 30) false true alpha_reads
    seed_reads
  have again := (saving_loses_nothing env parses).2 env _ settings loaded
  exact ⟨parses, alpha_reads, seed_reads, restores.reload shelf _ rfl rfl,
    restores.reloadFirst shelf _ rfl rfl, settings, loaded, again⟩

end Shelf

end Carousel
