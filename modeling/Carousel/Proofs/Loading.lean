import Carousel.Proofs.Assignments
import Carousel.Proofs.Settings

/-!
# Loading settings

A parameter is what the last line that assigns it says, or else what the environment says, or else
it is the built-in one.  Loading fails only where one of the texts that are read as numbers is none:
of those in the environment all are read, of those in the file only the last one for each name.
-/

namespace Carousel.Settings

open Text

section Layers

variable {β : Type} {read : String → Except Fault β} {builtin value : β} {set? : Option String}
  {text name : String}

/-- A text of the environment can be read, unless it is missing or empty. -/
def Readable (read : String → Except Fault β) (set? : Option String) : Prop :=
  ∀ written, set? = some written → written ≠ "" → ∃ value, read written = .ok value

/-- Where the value of a parameter comes from. -/
inductive Layered (read : String → Except Fault β) (builtin : β) (set? : Option String)
    (lines : List (List Char)) (name : String) : β → Prop
  | file {written : String} {value : β} (assigned : Last lines name written)
      (reads : read written = .ok value) : Layered read builtin set? lines name value
  | environment {written : String} {value : β}
      (unassigned : ∀ line ∈ lines, ∀ written, ¬ Assigns line name written)
      (set : set? = some written) (filled : written ≠ "") (reads : read written = .ok value) :
      Layered read builtin set? lines name value
  | builtin (unassigned : ∀ line ∈ lines, ∀ written, ¬ Assigns line name written)
      (unset : set? = none ∨ set? = some "") : Layered read builtin set? lines name builtin

theorem fromText_eq_ok :
    Environment.fromText set? builtin read = .ok value ↔
      (set? = none ∨ set? = some "") ∧ value = builtin ∨
        ∃ written, set? = some written ∧ written ≠ "" ∧ read written = .ok value := by
  cases set? with
  | none => simp [Environment.fromText, eq_comm]
  | some written =>
    by_cases empty : written = ""
    · simp [Environment.fromText, empty, eq_comm]
    · simp [Environment.fromText, empty]

theorem exists_fromText (builtin : β) :
    (∃ value, Environment.fromText set? builtin read = .ok value) ↔ Readable read set? := by
  constructor
  · intro ⟨value, found⟩ written set filled
    obtain ⟨unset, _⟩ | ⟨other, set', _, reads⟩ := fromText_eq_ok.1 found
    · simp [set, filled] at unset
    · cases set.symm.trans set'
      exact ⟨value, reads⟩
  · intro readable
    by_cases unset : set? = none ∨ set? = some ""
    · exact ⟨builtin, fromText_eq_ok.2 (.inl ⟨unset, rfl⟩)⟩
    · rw [not_or] at unset
      obtain ⟨written, set⟩ := Option.ne_none_iff_exists'.1 unset.1
      have filled : written ≠ "" := fun empty => unset.2 (empty ▸ set)
      obtain ⟨value, reads⟩ := readable written set filled
      exact ⟨value, fromText_eq_ok.2 (.inr ⟨written, set, filled, reads⟩)⟩

theorem layered_of_assigned {written : String} (found : lastAssigned? text name = some written) :
    Layered read builtin set? (lines text) name value ↔ read written = .ok value := by
  constructor
  · intro layered
    cases layered with
    | file assigned reads =>
      cases found.symm.trans (lastAssigned?_eq_some_iff.2 assigned)
      exact reads
    | environment unassigned _ _ _ =>
      cases found.symm.trans (lastAssigned?_eq_none_iff.2 unassigned)
    | builtin unassigned _ => cases found.symm.trans (lastAssigned?_eq_none_iff.2 unassigned)
  · intro reads
    exact .file (lastAssigned?_eq_some_iff.1 found) reads

theorem layered_of_unassigned (found : lastAssigned? text name = none) :
    Layered read builtin set? (lines text) name value ↔
      Environment.fromText set? builtin read = .ok value := by
  rw [fromText_eq_ok]
  constructor
  · intro layered
    cases layered with
    | file assigned _ => cases found.symm.trans (lastAssigned?_eq_some_iff.2 assigned)
    | environment _ set filled reads => exact .inr ⟨_, set, filled, reads⟩
    | builtin _ unset => exact .inl ⟨unset, rfl⟩
  · have unassigned := lastAssigned?_eq_none_iff.1 found
    intro given
    obtain ⟨unset, rfl⟩ | ⟨written, set, filled, reads⟩ := given
    · exact .builtin unassigned unset
    · exact .environment unassigned set filled reads

/-- Once the environment is read, a value is found unless the last word of the file cannot be
read. -/
theorem exists_layered (readable : Readable read set?) :
    (∃ value, Layered read builtin set? (lines text) name value) ↔
      ∀ written, Last (lines text) name written → ∃ value, read written = .ok value := by
  simp only [← lastAssigned?_eq_some_iff]
  cases found : lastAssigned? text name with
  | some written => simp [layered_of_assigned found]
  | none => simp [layered_of_unassigned found, exists_fromText, readable]

/-- A value is converted from the last word of the file, or else it is the default, which converts
to itself.  The default is read in any case. -/
theorem layered_iff (convert : Value → Except Fault β) (store : β → Value)
    (kept : ∀ value, convert (store value) = .ok value)
    (reads : ∀ written, convert (.text written) = read written) :
    (∃ default, Environment.fromText set? builtin read = .ok default ∧
        convert (((lastAssigned? text name).map Value.text).getD (store default)) = .ok value) ↔
      Readable read set? ∧ Layered read builtin set? (lines text) name value := by
  rw [← exists_fromText builtin]
  cases found : lastAssigned? text name with
  | some written => simp [layered_of_assigned found, reads]
  | none =>
    simp only [layered_of_unassigned found, Option.map_none, Option.getD_none, kept,
      Except.ok.injEq]
    constructor
    · intro ⟨default, given, same⟩
      exact ⟨⟨default, given⟩, same ▸ given⟩
    · intro ⟨_, given⟩
      exact ⟨value, given, rfl⟩

end Layers

/-! ## Loading -/

variable {env : Environment} {text name : String} {set? : Option String} {s : Settings}

theorem layered_integer {builtin value : Int} :
    (∃ default, Environment.fromText set? builtin readInteger = .ok default ∧
        (((lastAssigned? text name).map Value.text).getD (.int default)).toInt = .ok value) ↔
      Readable readInteger set? ∧ Layered readInteger builtin set? (lines text) name value :=
  layered_iff Value.toInt Value.int (fun _ => rfl) (fun _ => rfl)

theorem layered_number {builtin value : Binary64} :
    (∃ default, Environment.fromText set? builtin readNumber = .ok default ∧
        (((lastAssigned? text name).map Value.text).getD (.real default)).toBinary64 = .ok value) ↔
      Readable readNumber set? ∧ Layered readNumber builtin set? (lines text) name value :=
  layered_iff Value.toBinary64 Value.real (fun _ => rfl) (fun _ => rfl)

theorem readable_readFlag (set? : Option String) : Readable readFlag set? := by
  intro written _ _
  exact ⟨_, rfl⟩

theorem layered_flag {builtin value : Bool} :
    (∃ default, Environment.fromText set? builtin readFlag = .ok default ∧
        (((lastAssigned? text name).map Value.text).getD (.bool default)).toFlag = value) ↔
      Layered readFlag builtin set? (lines text) name value := by
  have layered : (∃ default, Environment.fromText set? builtin readFlag = .ok default ∧
      Except.ok (((lastAssigned? text name).map Value.text).getD (.bool default)).toFlag =
        .ok value) ↔
      Readable readFlag set? ∧ Layered readFlag builtin set? (lines text) name value :=
    layered_iff (fun value => .ok value.toFlag) Value.bool (fun _ => rfl) (fun _ => rfl)
  simpa [readable_readFlag] using layered

/-- What loading gives, and what it needs to give anything. -/
theorem load_eq_ok_iff :
    load env (some text) = .ok s ↔
      (Readable readInteger env.alpha ∧ Readable readNumber env.beta ∧
        Readable readInteger env.seed) ∧
      ∃ alpha beta seed randomTieBreak verbose,
        s = typed alpha beta seed randomTieBreak verbose ∧
        Layered readInteger builtinAlpha env.alpha (lines text) "alpha" alpha ∧
        Layered readNumber builtinBeta env.beta (lines text) "beta" beta ∧
        Layered readInteger builtinSeed env.seed (lines text) "seed" seed ∧
        Layered readFlag true env.randomTieBreak (lines text) "random_tie_break" randomTieBreak ∧
        Layered readFlag false env.verbose (lines text) "verbose" verbose := by
  simp only [load, ofText, ofLookup, bind_eq_ok, pure, Except.pure, Except.ok.injEq]
  constructor
  · rintro ⟨defaults, given, alpha, foundAlpha, beta, foundBeta, seed, foundSeed, same⟩
    obtain ⟨alpha', beta', seed', tieBreak', verbose', givenAlpha, givenBeta, givenSeed,
      givenTieBreak, givenVerbose, rfl⟩ := ofEnvironment_eq_ok.1 given
    obtain ⟨readableAlpha, layeredAlpha⟩ := layered_integer.1 ⟨alpha', givenAlpha, foundAlpha⟩
    obtain ⟨readableBeta, layeredBeta⟩ := layered_number.1 ⟨beta', givenBeta, foundBeta⟩
    obtain ⟨readableSeed, layeredSeed⟩ := layered_integer.1 ⟨seed', givenSeed, foundSeed⟩
    exact ⟨⟨readableAlpha, readableBeta, readableSeed⟩, alpha, beta, seed, _, _, same.symm,
      layeredAlpha, layeredBeta, layeredSeed, layered_flag.1 ⟨tieBreak', givenTieBreak, rfl⟩,
      layered_flag.1 ⟨verbose', givenVerbose, rfl⟩⟩
  · rintro ⟨⟨readableAlpha, readableBeta, readableSeed⟩, alpha, beta, seed, tieBreak, verbose, same,
      layeredAlpha, layeredBeta, layeredSeed, layeredTieBreak, layeredVerbose⟩
    obtain ⟨alpha', givenAlpha, foundAlpha⟩ := layered_integer.2 ⟨readableAlpha, layeredAlpha⟩
    obtain ⟨beta', givenBeta, foundBeta⟩ := layered_number.2 ⟨readableBeta, layeredBeta⟩
    obtain ⟨seed', givenSeed, foundSeed⟩ := layered_integer.2 ⟨readableSeed, layeredSeed⟩
    obtain ⟨tieBreak', givenTieBreak, foundTieBreak⟩ := layered_flag.2 layeredTieBreak
    obtain ⟨verbose', givenVerbose, foundVerbose⟩ := layered_flag.2 layeredVerbose
    have given := ofEnvironment_eq_ok.2 ⟨alpha', beta', seed', tieBreak', verbose', givenAlpha,
      givenBeta, givenSeed, givenTieBreak, givenVerbose, rfl⟩
    refine ⟨_, given, alpha, foundAlpha, beta, foundBeta, seed, foundSeed, ?_⟩
    rw [same, ← foundTieBreak, ← foundVerbose]
    rfl

/-! ## Lines that do not show -/

/-- Loading reads nothing in a text but the last assignments to the parameters. -/
theorem load_congr {text' : String}
    (same : ∀ name ∈ parameters, lastAssigned? text' name = lastAssigned? text name) :
    load env (some text') = load env (some text) := by
  simp only [parameters, List.forall_mem_cons] at same
  obtain ⟨alpha, beta, seed, tieBreak, verbose, _⟩ := same
  simp only [load, ofText, ofLookup, alpha, beta, seed, tieBreak, verbose]

/-- A line that does not show in front of certain lines. -/
inductive Hidden (line : List Char) (back : List (List Char)) : Prop
  | silent (silent : Silent line)
  | unknown {name value : String} (assigns : Assigns line name value) (unknown : name ∉ parameters)
  | overruled {name value other : String} {later : List Char} (assigns : Assigns line name value)
      (member : later ∈ back) (again : Assigns later name other)

theorem load_insert {text' : String} {front back : List (List Char)} {line : List Char}
    (old : lines text = front ++ back) (new : lines text' = front ++ line :: back)
    (hidden : Hidden line back) : load env (some text') = load env (some text) := by
  apply load_congr
  intro name known
  apply lastAssigned?_insert old new
  intro value assigns
  -- A line assigns to one name only.
  have unique {name' value' : String} (assigns' : Assigns line name' value') : name' = name := by
    cases (assigns_iff.1 assigns').symm.trans (assigns_iff.1 assigns)
    rfl
  cases hidden with
  | silent silent => exact absurd assigns (not_assigns_of_silent silent)
  | unknown assigns' unknown => exact absurd known (unique assigns' ▸ unknown)
  | overruled assigns' member again => exact ⟨_, member, _, unique assigns' ▸ again⟩

/-- A text is loaded if all numbers of the environment and the last ones of the text can be read,
and then each parameter comes from the last line that assigns it, or else from the environment, or
else it is the built-in one.  Putting in or taking out a line that does not show changes nothing. -/
theorem load_layers (env : Environment) (text : String) :
    ((∃ s, load env (some text) = .ok s) ↔
      (Readable readInteger env.alpha ∧ Readable readNumber env.beta ∧
        Readable readInteger env.seed) ∧
      (∀ written, Last (lines text) "alpha" written → ∃ n, readInteger written = .ok n) ∧
      (∀ written, Last (lines text) "beta" written → ∃ x, readNumber written = .ok x) ∧
      ∀ written, Last (lines text) "seed" written → ∃ n, readInteger written = .ok n) ∧
    (∀ s, load env (some text) = .ok s → ∃ alpha beta seed randomTieBreak verbose,
      s = typed alpha beta seed randomTieBreak verbose ∧
      Layered readInteger builtinAlpha env.alpha (lines text) "alpha" alpha ∧
      Layered readNumber builtinBeta env.beta (lines text) "beta" beta ∧
      Layered readInteger builtinSeed env.seed (lines text) "seed" seed ∧
      Layered readFlag true env.randomTieBreak (lines text) "random_tie_break" randomTieBreak ∧
      Layered readFlag false env.verbose (lines text) "verbose" verbose) ∧
    ∀ (text' : String) (front back : List (List Char)) (line : List Char),
      lines text = front ++ back → lines text' = front ++ line :: back → Hidden line back →
        load env (some text') = load env (some text) := by
  refine ⟨?_, fun s loaded => (load_eq_ok_iff.1 loaded).2, fun _ _ _ _ => load_insert⟩
  simp only [load_eq_ok_iff]
  constructor
  · rintro ⟨_, readable, alpha, beta, seed, _, _, _, layeredAlpha, layeredBeta, layeredSeed, _⟩
    exact ⟨readable, (exists_layered readable.1).1 ⟨alpha, layeredAlpha⟩,
      (exists_layered readable.2.1).1 ⟨beta, layeredBeta⟩,
      (exists_layered readable.2.2).1 ⟨seed, layeredSeed⟩⟩
  · rintro ⟨readable, lastAlpha, lastBeta, lastSeed⟩
    obtain ⟨alpha, layeredAlpha⟩ := (exists_layered readable.1).2 lastAlpha
    obtain ⟨beta, layeredBeta⟩ := (exists_layered readable.2.1).2 lastBeta
    obtain ⟨seed, layeredSeed⟩ := (exists_layered readable.2.2).2 lastSeed
    -- Flags are read from any text, so they never stand in the way.
    obtain ⟨tieBreak, layeredTieBreak⟩ := (exists_layered (readable_readFlag env.randomTieBreak)).2
      fun written _ => ⟨_, rfl⟩
    obtain ⟨verbose, layeredVerbose⟩ := (exists_layered (readable_readFlag env.verbose)).2
      fun written _ => ⟨_, rfl⟩
    exact ⟨_, readable, alpha, beta, seed, tieBreak, verbose, rfl, layeredAlpha, layeredBeta,
      layeredSeed, layeredTieBreak, layeredVerbose⟩

/-- An assignment that cannot be read, put in front of a later one to the same name. -/
theorem load_layers_of_overruled :
    let env : Environment := { alpha := some "7", seed := some "", verbose := some " YES " }
    let before := "[solver]\n".toList
    let line := "alpha = none".toList
    let after := "beta = 0.5 # half\nalpha = \"1_2\"".toList
    (∃ s, load env (some (String.ofList (before ++ after))) = .ok s ∧ s.alpha = .int 12) ∧
      load env (some (String.ofList (before ++ (line ++ '\n' :: after)))) =
        load env (some (String.ofList (before ++ after))) := by
  intro env before line after
  obtain ⟨_, layers, insert⟩ := load_layers env (String.ofList (before ++ after))
  constructor
  · have loadable : (load env (some (String.ofList (before ++ after)))).toOption.isSome = true := by
      decide +kernel
    obtain ⟨s, found⟩ := Option.isSome_iff_exists.1 loadable
    have loaded := eq_ok_of_toOption found
    obtain ⟨alpha, _, _, _, _, rfl, layered, _⟩ := layers s loaded
    have last : lastAssigned? (String.ofList (before ++ after)) "alpha" = some "1_2" := by
      decide +kernel
    have reads : Text.readInt "1_2" = .ok 12 := by decide +kernel
    have same := (layered_of_assigned last).1 layered
    rw [readInteger, Value.toInt, toInt_text.2 reads] at same
    cases same
    exact ⟨_, loaded, rfl⟩
  · have boundary : before = "[solver]".toList ++ ['\n'] := by decide
    have unbroken : Unbroken line := by decide
    have stops : endsLine '\n' = true := by decide
    obtain ⟨front, old, new⟩ := lines_insert unbroken stops after (.inr ⟨_, '\n', boundary, stops⟩)
    have assigns : Assigns line "alpha" "none" := assigns_iff.2 (by decide +kernel)
    have again : Assigns "alpha = \"1_2\"".toList "alpha" "1_2" := assigns_iff.2 (by decide +kernel)
    have later : "alpha = \"1_2\"".toList ∈ lines (String.ofList after) := by decide +kernel
    exact insert _ _ _ _ old new (.overruled assigns later again)

end Carousel.Settings
