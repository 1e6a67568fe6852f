import Carousel.Proofs.Saving
import Mathlib.Data.List.TakeWhile

/-!
# Assignments in a text

What a line assigns is told here by the parts it consists of, and what a text assigns to a name by
the last line that has the name.  So a line without an assignment can be put anywhere, and an
assignment anywhere before another one to the same name.
-/

namespace Carousel

namespace Text

variable {drop : Char → Bool} {text left right inner before rest : List Char} {mark c : Char}

/-! ## Cutting -/

/-- The inner part of a text: whatever is around it is dropped, but nothing at its own ends is. -/
structure Stripped (drop : Char → Bool) (text inner : List Char) : Prop where
  around : ∃ left right, text = left ++ inner ++ right ∧
    (∀ c ∈ left, drop c = true) ∧ ∀ c ∈ right, drop c = true
  first : ∀ c ∈ inner.head?, drop c = false
  last : ∀ c ∈ inner.getLast?, drop c = false

theorem trim_append_left (dropped : ∀ c ∈ left, drop c = true) (text : List Char) :
    trim drop (left ++ text) = trim drop text := by
  induction left with
  | nil => rfl
  | cons c left ih =>
    rw [List.forall_mem_cons] at dropped
    rw [List.cons_append, trim_cons dropped.1, ih dropped.2]

theorem trim_append_right (dropped : ∀ c ∈ right, drop c = true) (text : List Char) :
    trim drop (text ++ right) = trim drop text := by
  induction right generalizing text with
  | nil => rw [List.append_nil]
  | cons c right ih =>
    rw [List.forall_mem_cons] at dropped
    rw [List.append_cons, ih dropped.2, trim_append_singleton dropped.1]

theorem drop_of_mem_head? (found : c ∈ (text.dropWhile drop).head?) : drop c = false := by
  have kept := List.head?_dropWhile_not drop text
  rwa [Option.mem_def.1 found] at kept

theorem stripped_trim (drop : Char → Bool) (text : List Char) :
    Stripped drop text (trim drop text) := by
  -- The back is trimmed as the front of the reversed text.
  have parts : text.dropWhile drop =
      trim drop text ++ ((text.dropWhile drop).reverse.takeWhile drop).reverse := by
    rw [trim, ← List.reverse_append, List.takeWhile_append_dropWhile, List.reverse_reverse]
  refine ⟨⟨text.takeWhile drop, ((text.dropWhile drop).reverse.takeWhile drop).reverse, ?_, ?_, ?_⟩,
    ?_, ?_⟩
  · rw [List.append_assoc, ← parts, List.takeWhile_append_dropWhile]
  · intro c member
    exact List.mem_takeWhile_imp member
  · intro c member
    exact List.mem_takeWhile_imp (List.mem_reverse.1 member)
  · intro c found
    apply drop_of_mem_head?
    rw [parts, List.head?_append, Option.mem_def.1 found]
    rfl
  · intro c found
    rw [trim, List.getLast?_reverse] at found
    exact drop_of_mem_head? found

theorem stripped_iff : Stripped drop text inner ↔ trim drop text = inner := by
  constructor
  · intro ⟨⟨left, right, parts, before, after⟩, first, last⟩
    rw [parts, trim_append_right after, trim_append_left before, trim_eq_self first last]
  · intro same
    exact same ▸ stripped_trim drop text

/-- What is in front of the first mark is cut off together with the mark and all behind it. -/
theorem takeWhile_of_first (unmarked : mark ∉ before) (stops : ∀ c ∈ rest.head?, c = mark) :
    (before ++ rest).takeWhile (· ≠ mark) = before ∧
      (before ++ rest).dropWhile (· ≠ mark) = rest := by
  have passed : ∀ c ∈ before, decide (c ≠ mark) = true := by
    intro c member
    exact decide_eq_true fun same => unmarked (same ▸ member)
  have stopped : ∀ c ∈ rest.head?, decide (c ≠ mark) = false := by
    intro c found
    simpa using stops c found
  exact ⟨takeWhile_append_of_head? passed stopped, dropWhile_append_of_head? passed stopped⟩

theorem takeWhile_spec (mark : Char) (text : List Char) :
    mark ∉ text.takeWhile (· ≠ mark) ∧ ∀ c ∈ (text.dropWhile (· ≠ mark)).head?, c = mark := by
  constructor
  · intro member
    simpa using List.mem_takeWhile_imp member
  · intro c found
    simpa using drop_of_mem_head? found

theorem eq_append_of_mem (member : mark ∈ text) :
    text = text.takeWhile (· ≠ mark) ++ mark :: (text.dropWhile (· ≠ mark)).drop 1 := by
  obtain ⟨unmarked, stops⟩ := takeWhile_spec mark text
  have whole : text.takeWhile (· ≠ mark) ++ text.dropWhile (· ≠ mark) = text :=
    List.takeWhile_append_dropWhile
  cases found : text.dropWhile (· ≠ mark) with
  | nil =>
    rw [found, List.append_nil] at whole
    rw [whole] at unmarked
    exact absurd member unmarked
  | cons c rest =>
    have same : c = mark := stops c (by rw [found]; rfl)
    rw [found, same] at whole
    exact whole.symm

/-! ## Breaking into lines -/

theorem pieces_ne_nil (mark : Char → Bool) (text : List Char) : pieces mark text ≠ [] := by
  cases text with
  | nil => simp [pieces]
  | cons c rest =>
    rw [pieces]
    by_cases marked : mark c
    · simp [marked]
    · simp only [marked, Bool.false_eq_true, if_false]
      cases pieces mark rest <;> simp

theorem pieces_append_cons {mark : Char → Bool} (stops : mark c = true) (before rest : List Char) :
    pieces mark (before ++ c :: rest) = pieces mark before ++ pieces mark rest := by
  induction before with
  | nil => simp [pieces, stops]
  | cons first before ih =>
    rw [List.cons_append, pieces, pieces, ih]
    by_cases marked : mark first
    · simp [marked]
    · obtain ⟨piece, others, found⟩ := List.exists_cons_of_ne_nil (pieces_ne_nil mark before)
      simp [marked, found]

/-- A line that is put between two lines of a text is put between them in the list of its lines. -/
theorem lines_insert {line : List Char} {stop : Char} (unbroken : Unbroken line)
    (stops : endsLine stop = true) (after : List Char)
    (boundary : before = [] ∨ ∃ earlier last, before = earlier ++ [last] ∧ endsLine last = true) :
    ∃ front, lines (String.ofList (before ++ after)) = front ++ lines (String.ofList after) ∧
      lines (String.ofList (before ++ (line ++ stop :: after))) =
        front ++ line :: lines (String.ofList after) := by
  simp only [lines, String.toList_ofList]
  obtain rfl | ⟨earlier, last, rfl, ends⟩ := boundary
  · exact ⟨[], rfl, pieces_append unbroken stops after⟩
  · refine ⟨pieces endsLine earlier, ?_, ?_⟩
    · rw [List.append_assoc, List.singleton_append, pieces_append_cons ends]
    · rw [List.append_assoc, List.singleton_append, pieces_append_cons ends,
        pieces_append unbroken stops]

end Text

namespace Settings

open Text

variable {line content comment statement : List Char} {name value : String}
  {front back : List (List Char)} {text : String}

/-! ## What a line assigns -/

/-- What is left of a line: it is cut at the first hash mark and stripped. -/
inductive States (line statement : List Char) : Prop
  | intro {content comment : List Char} (whole : line = content ++ comment)
      (uncommented : '#' ∉ content) (marked : ∀ c ∈ comment.head?, c = '#')
      (stripped : Stripped isBlank content statement)

abbrev Heading (statement : List Char) : Prop :=
  statement.head? = some '[' ∧ statement.getLast? = some ']'

/-- A line assigns a value to a name by an equation: the name stands in front of the first equals
sign, and the value behind it, possibly between double quotes. -/
inductive Assigns (line : List Char) (name value : String) : Prop
  | intro {statement left right given : List Char} (states : States line statement)
      (sectionless : ¬ Heading statement) (equation : statement = left ++ '=' :: right)
      (first : '=' ∉ left) (named : Stripped isBlank left name.toList)
      (stripped : Stripped isBlank right given)
      (unquoted : Stripped (· = '"') given value.toList)

inductive Silent (line : List Char) : Prop
  | blank (states : States line [])
  | heading {statement : List Char} (states : States line statement) (heading : Heading statement)
  | bare {statement : List Char} (states : States line statement) (bare : '=' ∉ statement)

theorem states_iff : States line statement ↔
    trim isBlank (line.takeWhile (· ≠ '#')) = statement := by
  constructor
  · intro ⟨whole, uncommented, marked, stripped⟩
    rw [whole, (takeWhile_of_first uncommented marked).1]
    exact stripped_iff.1 stripped
  · intro same
    obtain ⟨uncommented, marked⟩ := takeWhile_spec '#' line
    exact .intro List.takeWhile_append_dropWhile.symm uncommented marked (stripped_iff.2 same)

theorem stripped_toList {drop : Char → Bool} {text : List Char} {word : String} :
    Stripped drop text word.toList ↔ String.ofList (trim drop text) = word := by
  rw [stripped_iff]
  constructor
  · intro same
    rw [same, String.ofList_toList]
  · intro same
    rw [← same, String.toList_ofList]

/-- The program reads from a line exactly what it assigns. -/
theorem assigns_iff : Assigns line name value ↔ assignment? line = some (name, value) := by
  constructor
  · intro ⟨states, sectionless, equation, first, named, stripped, unquoted⟩
    rename_i statement left right given
    have stops : ∀ c ∈ ('=' :: right).head?, c = '=' := by simp
    have assigned : '=' ∈ statement := by simp [equation]
    simp only [assignment?, states_iff.1 states]
    rw [if_neg sectionless, if_neg (not_not_intro assigned), equation,
      (takeWhile_of_first first stops).1, (takeWhile_of_first first stops).2,
      stripped_toList.1 named, List.drop_one, List.tail_cons, stripped_iff.1 stripped,
      stripped_toList.1 unquoted]
  · intro assigned
    obtain ⟨statement, states⟩ : ∃ statement, States line statement := ⟨_, states_iff.2 rfl⟩
    simp only [assignment?, states_iff.1 states] at assigned
    -- A line that starts a section, or has no equation, assigns nothing.
    by_cases heading : Heading statement
    · rw [if_pos heading] at assigned
      cases assigned
    · rw [if_neg heading] at assigned
      by_cases bare : '=' ∉ statement
      · rw [if_pos bare] at assigned
        cases assigned
      · rw [if_neg bare, Option.some.injEq, Prod.mk.injEq] at assigned
        exact .intro states heading (eq_append_of_mem (Decidable.not_not.1 bare))
          (takeWhile_spec '=' statement).1 (stripped_toList.2 assigned.1) (stripped_trim _ _)
          (stripped_toList.2 assigned.2)

theorem not_assigns_of_silent (silent : Silent line) : ¬ Assigns line name value := by
  intro ⟨states, sectionless, equation, first, named, stripped, unquoted⟩
  -- A line is left with one statement only.
  have assigned {other : List Char} (same : States line other) :
      ¬ Heading other ∧ '=' ∈ other := by
    rw [← states_iff.1 same, states_iff.1 states]
    exact ⟨sectionless, by simp [equation]⟩
  cases silent with
  | blank states => simpa using (assigned states).2
  | heading states heading => exact (assigned states).1 heading
  | bare states bare => exact bare (assigned states).2

/-! ## The last assignment -/

/-- What the lines assign to a name in the end. -/
inductive Last (lines : List (List Char)) (name value : String) : Prop
  | intro {before after : List (List Char)} {line : List Char}
      (split : lines = before ++ line :: after) (assigns : Assigns line name value)
      (unassigned : ∀ later ∈ after, ∀ value, ¬ Assigns later name value)

def assignedBy? (name : String) (line : List Char) : Option String :=
  ((assignment? line).filter fun entry => entry.1 == name).map (·.2)

theorem assignedBy?_eq_some_iff :
    assignedBy? name line = some value ↔ Assigns line name value := by
  rw [assigns_iff, assignedBy?]
  cases assignment? line with
  | none => simp
  | some entry =>
    obtain ⟨name', value'⟩ := entry
    by_cases same : name' = name <;> simp [Option.filter_some, same]

theorem assignedBy?_eq_none_iff :
    assignedBy? name line = none ↔ ∀ value, ¬ Assigns line name value := by
  simp only [← assignedBy?_eq_some_iff, Option.eq_none_iff_forall_ne_some, ne_eq]

/-- The last assignment is the first one that is met from the end. -/
theorem lastAssigned?_eq (text name : String) :
    lastAssigned? text name = (lines text).reverse.findSome? (assignedBy? name) := by
  rw [lastAssigned?, assignments, ← List.filterMap_reverse]
  induction (lines text).reverse with
  | nil => rfl
  | cons line rest ih =>
    rw [List.findSome?_cons, assignedBy?, ← ih, List.filterMap_cons]
    cases assignment? line with
    | none => rfl
    | some entry => by_cases same : entry.1 == name <;> simp [Option.filter_some, same]

theorem lastAssigned?_eq_some_iff :
    lastAssigned? text name = some value ↔ Last (lines text) name value := by
  rw [lastAssigned?_eq, List.findSome?_eq_some_iff]
  constructor
  · intro ⟨after, line, before, split, assigns, unassigned⟩
    have parts : lines text = before.reverse ++ line :: after.reverse := by
      rw [← List.reverse_reverse (lines text), split]
      simp
    apply Last.intro parts (assignedBy?_eq_some_iff.1 assigns)
    intro later member
    exact assignedBy?_eq_none_iff.1 (unassigned later (List.mem_reverse.1 member))
  · intro ⟨split, assigns, unassigned⟩
    rename_i before after line
    refine ⟨after.reverse, line, before.reverse, by rw [split]; simp,
      assignedBy?_eq_some_iff.2 assigns, ?_⟩
    intro later member
    exact assignedBy?_eq_none_iff.2 (unassigned later (List.mem_reverse.1 member))

theorem lastAssigned?_eq_none_iff :
    lastAssigned? text name = none ↔ ∀ line ∈ lines text, ∀ value, ¬ Assigns line name value := by
  rw [lastAssigned?_eq, List.findSome?_eq_none_iff]
  simp only [List.mem_reverse, assignedBy?_eq_none_iff]

/-- A line does not show if it assigns nothing to a name or is followed by another one that does. -/
theorem lastAssigned?_insert {text' : String} (old : lines text = front ++ back)
    (new : lines text' = front ++ line :: back)
    (hidden : ∀ value, Assigns line name value →
      ∃ later ∈ back, ∃ value, Assigns later name value) :
    lastAssigned? text' name = lastAssigned? text name := by
  simp only [lastAssigned?_eq, old, new, List.reverse_append, List.reverse_cons,
    List.findSome?_append]
  cases later : back.reverse.findSome? (assignedBy? name) with
  | some value => simp
  | none =>
    have unassigned : assignedBy? name line = none := by
      apply assignedBy?_eq_none_iff.2
      intro value assigns
      obtain ⟨other, member, value, assigns⟩ := hidden value assigns
      have nothing := List.findSome?_eq_none_iff.1 later other (List.mem_reverse.2 member)
      exact assignedBy?_eq_none_iff.1 nothing value assigns
    simp [unassigned]

end Settings

end Carousel
