import Carousel.Proofs.Except
import Carousel.Value.Comparison
import Mathlib.Data.List.Forall2

/-!
# Equality of plain values

Values that nobody refuses to compare are always found to be equal or not, and in both directions
alike.  Among those that can be hashed equality is also transitive, so that a dictionary finds at
most one entry for a key.  A value that can be hashed never equals one that cannot.
-/

namespace Carousel

/-! ## Scalars -/

namespace Number

theorem same_comm (a b : Number) : a.same b = b.same a := by
  rw [Bool.eq_iff_iff, same_iff, same_iff]
  constructor
  · intro ⟨place, left, right⟩
    exact ⟨place, right, left⟩
  · intro ⟨place, left, right⟩
    exact ⟨place, right, left⟩

theorem same_trans {a b c : Number} (first : a.same b = true) (second : b.same c = true) :
    a.same c = true := by
  obtain ⟨place, left, middle⟩ := (same_iff a b).1 first
  obtain ⟨place', middle', right⟩ := (same_iff b c).1 second
  have equal : place = place' := Option.some.inj (middle.symm.trans middle')
  exact (same_iff a c).2 ⟨place, left, equal ▸ right⟩

end Number

namespace Scalar

/-- Equal scalars are equal numbers, or the same and no numbers. -/
theorem same_iff (a b : Scalar) :
    a.same b = true ↔
      (∃ m k, Number.ofScalar? a = some m ∧ Number.ofScalar? b = some k ∧ m.same k = true) ∨
        (Number.ofScalar? a = none ∧ a = b) := by
  rw [same]
  split
  · rename_i m k left right
    simp [left, right]
  · rename_i left right
    simp [left]
  · -- One is a number and the other is not, so they differ.
    rename_i mixed apart
    cases left : Number.ofScalar? a with
    | none =>
      cases right : Number.ofScalar? b with
      | none => exact absurd right (apart left)
      | some k =>
        have differ : a ≠ b := fun equal => by simp [equal, right] at left
        simp [differ]
    | some m =>
      cases right : Number.ofScalar? b with
      | none => simp
      | some k => exact absurd right (mixed m k left)

theorem same_comm (a b : Scalar) : a.same b = b.same a := by
  have forward (a b : Scalar) (same : a.same b = true) : b.same a = true := by
    obtain ⟨m, k, left, right, equal⟩ | ⟨other, rfl⟩ := (same_iff a b).1 same
    · exact (same_iff b a).2 (.inl ⟨k, m, right, left, m.same_comm k ▸ equal⟩)
    · exact same
  exact Bool.eq_iff_iff.2 ⟨forward a b, forward b a⟩

theorem same_trans {a b c : Scalar} (first : a.same b = true) (second : b.same c = true) :
    a.same c = true := by
  obtain ⟨m, k, left, middle, equal⟩ | ⟨_, rfl⟩ := (same_iff a b).1 first
  · obtain ⟨k', l, middle', right, equal'⟩ | ⟨other, _⟩ := (same_iff b c).1 second
    · have same : k = k' := Option.some.inj (middle.symm.trans middle')
      exact (same_iff a c).2 (.inl ⟨m, l, left, right, Number.same_trans equal (same ▸ equal')⟩)
    · simp [middle] at other
  · exact second

end Scalar

namespace Value

variable {a b c : Value} {xs ys zs : List Value}

/-- Two values are comparable and found to be different, in both directions. -/
structure Apart (a b : Value) : Prop where
  left : a.equal b = .ok false
  right : b.equal a = .ok false

/-- Two values are comparable, with the same answer in both directions. -/
def Settled (a b : Value) : Prop := ∃ same, a.equal b = .ok same ∧ b.equal a = .ok same

theorem Apart.symm (apart : Apart a b) : Apart b a := ⟨apart.right, apart.left⟩

theorem Settled.symm (settled : Settled a b) : Settled b a := by
  obtain ⟨same, left, right⟩ := settled
  exact ⟨same, right, left⟩

theorem Settled.equal_comm (settled : Settled a b) : a.equal b = b.equal a := by
  obtain ⟨same, left, right⟩ := settled
  rw [left, right]

theorem Settled.apart (settled : Settled a b) (differ : a.equal b ≠ .ok true) : Apart a b := by
  obtain ⟨same, left, right⟩ := settled
  cases same with
  | true => exact absurd left differ
  | false => exact ⟨left, right⟩

/-! ## Items -/

theorem equalItems_iff :
    equalItems xs ys = .ok true ↔ List.Forall₂ (fun x y => x.equal y = .ok true) xs ys := by
  induction xs generalizing ys with
  | nil => cases ys <;> simp [equalItems]
  | cons x xs ih =>
    cases ys with
    | nil => simp [equalItems]
    | cons y ys =>
      rw [equalItems, List.forall₂_cons, ← ih, bind_eq_ok]
      constructor
      · intro ⟨same, compared, rest⟩
        cases same with
        | true => exact ⟨compared, rest⟩
        | false => cases rest
      · intro ⟨compared, rest⟩
        exact ⟨true, compared, rest⟩

theorem settled_items (settled : ∀ x ∈ xs, ∀ y ∈ ys, Settled x y) :
    ∃ same, equalItems xs ys = .ok same ∧ equalItems ys xs = .ok same := by
  induction xs generalizing ys with
  | nil => cases ys <;> exact ⟨_, rfl, rfl⟩
  | cons x xs ih =>
    cases ys with
    | nil => exact ⟨_, rfl, rfl⟩
    | cons y ys =>
      obtain ⟨same, left, right⟩ := settled x (.head _) y (.head _)
      simp only [equalItems, left, right]
      cases same with
      | true => exact ih fun x member y member' => settled x (.tail _ member) y (.tail _ member')
      | false => exact ⟨_, rfl, rfl⟩

theorem equalItems_trans
    (trans : ∀ x ∈ xs, ∀ y ∈ ys, ∀ z ∈ zs, x.equal y = .ok true → y.equal z = .ok true →
      x.equal z = .ok true)
    (first : equalItems xs ys = .ok true) (second : equalItems ys zs = .ok true) :
    equalItems xs zs = .ok true := by
  rw [equalItems_iff] at first second ⊢
  induction first generalizing zs with
  | nil =>
    cases second
    exact .nil
  | cons same rest ih =>
    cases second with
    | cons same' rest' =>
      refine .cons (trans _ (.head _) _ (.head _) _ (.head _) same same') (ih ?_ rest')
      intro x member y member' z member''
      exact trans x (.tail _ member) y (.tail _ member') z (.tail _ member'')

/-! ## Values that can be hashed -/

/-- A value that can be hashed: it has no part that cannot. -/
inductive Key : Value → Prop where
  | scalar (s : Scalar) : Key (.scalar s)
  | range (start stop step : Int) : Key (.range start stop step)
  | tuple {items : List Value} (parts : ∀ item ∈ items, Key item) : Key (.tuple items)

mutual

theorem key_of_hashable : ∀ value : Value, value.unhashable? = none → value.Key
  | .scalar s, _ => .scalar s
  | .range start stop step, _ => .range start stop step
  | .tuple items, hashed => .tuple (keys_of_hashable items hashed)
  | .list _, hashed | .dict _, hashed | .refusing _, hashed => by simp [unhashable?] at hashed

theorem keys_of_hashable :
    ∀ items : List Value, firstUnhashable? items = none → ∀ item ∈ items, item.Key
  | [], _, _, member => by cases member
  | first :: rest, hashed, item, member => by
    simp only [firstUnhashable?, Option.or_eq_none_iff] at hashed
    cases member with
    | head => exact key_of_hashable first hashed.1
    | tail _ member => exact keys_of_hashable rest hashed.2 item member

end

theorem firstUnhashable?_eq_none :
    firstUnhashable? xs = none ↔ ∀ x ∈ xs, x.unhashable? = none := by
  induction xs with
  | nil => simp [firstUnhashable?]
  | cons x xs ih => simp [firstUnhashable?, ih]

theorem hashable_iff : a.hashable = true ↔ a.Key := by
  rw [hashable, Option.isNone_iff_eq_none]
  constructor
  · exact key_of_hashable a
  · intro key
    induction key with
    | scalar s => rfl
    | range start stop step => rfl
    | tuple parts ih => rw [unhashable?, firstUnhashable?_eq_none]; exact ih

theorem sameRange_iff (p q : Int × Int × Int) :
    sameRange p q = true ↔
      rangeLength p.1 p.2.1 p.2.2 = rangeLength q.1 q.2.1 q.2.2 ∧
        (rangeLength p.1 p.2.1 p.2.2 = 0 ∨
          (p.1 = q.1 ∧ (rangeLength p.1 p.2.1 p.2.2 = 1 ∨ p.2.2 = q.2.2))) := by
  simp [sameRange]

theorem sameRange_comm (p q : Int × Int × Int) : sameRange p q = sameRange q p := by
  rw [Bool.eq_iff_iff, sameRange_iff, sameRange_iff]
  constructor <;> (intro ⟨count, rest⟩; rw [count] at rest; simpa [count, eq_comm] using rest)

theorem sameRange_trans {p q r : Int × Int × Int} (first : sameRange p q = true)
    (second : sameRange q r = true) : sameRange p r = true := by
  rw [sameRange_iff] at *
  omega

namespace Key

/-- Of two values that can be hashed it is always found out whether they are equal. -/
theorem settled (left : a.Key) (right : b.Key) : Settled a b := by
  -- Keys of different forms are unequal, whichever of the two is asked.
  induction left generalizing b with
  | scalar s =>
    cases right with
    | scalar t => exact ⟨s.same t, rfl, by rw [equal, Scalar.same_comm]⟩
    | range start stop step => exact ⟨false, rfl, rfl⟩
    | tuple parts => exact ⟨false, rfl, rfl⟩
  | range start stop step =>
    cases right with
    | scalar t => exact ⟨false, rfl, rfl⟩
    | range start' stop' step' => exact ⟨_, rfl, by rw [equal, sameRange_comm]⟩
    | tuple parts => exact ⟨false, rfl, rfl⟩
  | tuple parts ih =>
    cases right with
    | scalar t => exact ⟨false, rfl, rfl⟩
    | range start stop step => exact ⟨false, rfl, rfl⟩
    | tuple parts' => exact settled_items fun x member y member' => ih x member (parts' y member')

theorem trans (left : a.Key) (middle : b.Key) (right : c.Key) (first : a.equal b = .ok true)
    (second : b.equal c = .ok true) : a.equal c = .ok true := by
  -- Keys of different forms are never equal, so only a chain of one form goes through.
  induction left generalizing b c with
  | scalar s =>
    cases middle with
    | scalar t =>
      cases right with
      | scalar r =>
        simp only [equal, Except.ok.injEq] at first second ⊢
        exact Scalar.same_trans first second
      | range start stop step => cases second
      | tuple parts => cases second
    | range start stop step => cases first
    | tuple parts => cases first
  | range start stop step =>
    cases middle with
    | scalar t => cases first
    | range start' stop' step' =>
      cases right with
      | scalar t => cases second
      | range start'' stop'' step'' =>
        simp only [equal, Except.ok.injEq] at first second ⊢
        exact sameRange_trans first second
      | tuple parts => cases second
    | tuple parts => cases first
  | tuple parts ih =>
    cases middle with
    | scalar t => cases first
    | range start stop step => cases first
    | tuple parts' =>
      cases right with
      | scalar t => cases second
      | range start stop step => cases second
      | tuple parts'' =>
        simp only [equal] at first second ⊢
        refine equalItems_trans ?_ first second
        intro x member y member' z member''
        exact ih x member (parts' y member') (parts'' z member'')

/-- A value that can be hashed equals only values that can be hashed. -/
theorem of_equal (left : a.Key) (same : a.equal b = .ok true) : b.Key := by
  induction left generalizing b with
  | scalar s =>
    cases b with
    | scalar t => exact .scalar t
    | _ => cases same
  | range start stop step =>
    cases b with
    | range start' stop' step' => exact .range start' stop' step'
    | _ => cases same
  | tuple parts ih =>
    cases b with
    | tuple items =>
      -- Every item of the other tuple has an equal one on the left.
      apply Key.tuple
      intro item member
      simp only [equal, equalItems_iff] at same
      induction same with
      | nil => cases member
      | cons compared rest ih' =>
        cases member with
        | head => exact ih _ (.head _) compared
        | tail _ member =>
          exact ih' (fun x member => parts x (.tail _ member))
            (fun x member => ih x (.tail _ member)) member
    | _ => cases same

end Key

/-! ## Dictionaries -/

section Entries

variable {test : Value → Except Raised Bool} {entries others : List (Value × Value)}
  {key value : Value} {entry : Value × Value}

theorem mem_of_lookupBy (found : lookupBy test entries = .ok (some value)) :
    ∃ entry ∈ entries, test entry.1 = .ok true ∧ entry.2 = value := by
  induction entries with
  | nil => cases found
  | cons first rest ih =>
    rw [lookupBy, bind_eq_ok] at found
    obtain ⟨same, tested, found⟩ := found
    cases same with
    | true => exact ⟨first, .head _, tested, Option.some.inj (Except.ok.inj found)⟩
    | false =>
      obtain ⟨entry, member, others⟩ := ih found
      exact ⟨entry, .tail _ member, others⟩

/-- If no two keys pass the test, the value of the one that does is found. -/
theorem lookupBy_of_mem (tested : ∀ entry ∈ entries, ∃ same, test entry.1 = .ok same)
    (single : entries.Pairwise fun e f => test e.1 = .ok true → test f.1 ≠ .ok true)
    (member : entry ∈ entries) (passed : test entry.1 = .ok true) :
    lookupBy test entries = .ok (some entry.2) := by
  induction entries with
  | nil => cases member
  | cons first rest ih =>
    obtain ⟨same, tested'⟩ := tested first (.head _)
    rw [List.pairwise_cons] at single
    rw [lookupBy, bind_eq_ok]
    refine ⟨same, tested', ?_⟩
    cases member with
    | head =>
      have equal : same = true := Except.ok.inj (tested'.symm.trans passed)
      simp [equal, pure, Except.pure]
    | tail _ member =>
      cases same with
      | true => exact absurd passed (single.1 entry member tested')
      | false => exact ih (fun entry member => tested entry (.tail _ member)) single.2 member

theorem lookupBy_answers (tested : ∀ entry ∈ entries, ∃ same, test entry.1 = .ok same) :
    ∃ found, lookupBy test entries = .ok found := by
  induction entries with
  | nil => exact ⟨none, rfl⟩
  | cons first rest ih =>
    obtain ⟨same, tested'⟩ := tested first (.head _)
    obtain ⟨found, answered⟩ := ih fun entry member => tested entry (.tail _ member)
    simp only [lookupBy, tested']
    cases same with
    | true => exact ⟨_, rfl⟩
    | false => exact ⟨found, answered⟩

def Partners (e f : Value × Value) : Prop := e.1.equal f.1 = .ok true ∧ e.2.equal f.2 = .ok true

/-- What makes entries those of a dictionary: keys that can be hashed, and no two equal ones. -/
structure Keyed (entries : List (Value × Value)) : Prop where
  keys : ∀ entry ∈ entries, entry.1.Key
  apart : entries.Pairwise fun e f => e.1.equal f.1 = .ok false

/-- At most one key of a dictionary equals a given one. -/
theorem Keyed.single (keyed : Keyed others) (isKey : key.Key) :
    others.Pairwise fun e f => key.equal e.1 = .ok true → key.equal f.1 ≠ .ok true := by
  refine keyed.apart.imp_of_mem fun {e f} member member' differ same same' => ?_
  have keyE := keyed.keys e member
  have keyF := keyed.keys f member'
  have back : e.1.equal key = .ok true := (isKey.settled keyE).equal_comm ▸ same
  have equal := keyE.trans isKey keyF back same'
  rw [differ] at equal
  cases equal

theorem equalEntries_answers (keys : ∀ e ∈ entries, ∀ f ∈ others, ∃ same, e.1.equal f.1 = .ok same)
    (values : ∀ e ∈ entries, ∀ f ∈ others, ∃ same, e.2.equal f.2 = .ok same) :
    ∃ same, equalEntries entries others = .ok same := by
  induction entries with
  | nil => exact ⟨true, rfl⟩
  | cons entry rest ih =>
    obtain ⟨key, value⟩ := entry
    have later := ih (fun e member => keys e (.tail _ member)) fun e member =>
      values e (.tail _ member)
    obtain ⟨found, looked⟩ := lookupBy_answers (keys (key, value) (.head _))
    simp only [equalEntries, looked]
    cases found with
    | none => exact ⟨false, rfl⟩
    | some other =>
      obtain ⟨f, member, _, rfl⟩ := mem_of_lookupBy looked
      obtain ⟨same, compared⟩ := values (key, value) (.head _) f member
      simp only [bind, Except.bind, compared]
      cases same with
      | true => exact later
      | false => exact ⟨false, rfl⟩

/-- The first entries are found among the others exactly if each of them has a partner there. -/
theorem equalEntries_iff (keys : ∀ e ∈ entries, e.1.Key) (keyed : Keyed others) :
    equalEntries entries others = .ok true ↔ ∀ e ∈ entries, ∃ f ∈ others, Partners e f := by
  induction entries with
  | nil => simp [equalEntries]
  | cons entry rest ih =>
    obtain ⟨key, value⟩ := entry
    have isKey : key.Key := keys (key, value) (.head _)
    have later := ih fun e member => keys e (.tail _ member)
    rw [equalEntries, bind_eq_ok, List.forall_mem_cons, ← later]
    constructor
    · intro ⟨found, looked, rest⟩
      cases found with
      | none => cases rest
      | some other =>
        obtain ⟨f, member, sameKey, rfl⟩ := mem_of_lookupBy looked
        obtain ⟨same, compared, rest⟩ := bind_eq_ok.1 rest
        cases same with
        | true => exact ⟨⟨f, member, sameKey, compared⟩, rest⟩
        | false => cases rest
    · intro ⟨⟨f, member, sameKey, sameValue⟩, rest⟩
      -- No key before the partner stops the search, since keys can always be compared.
      have tested : ∀ f ∈ others, ∃ same, key.equal f.1 = .ok same := fun f member =>
        (isKey.settled (keyed.keys f member)).imp fun _ settled => settled.1
      exact ⟨some f.2, lookupBy_of_mem tested (keyed.single isKey) member sameKey,
        bind_eq_ok.2 ⟨true, sameValue, rest⟩⟩

/-- If as many things as there are others have partners among them and no two share one, then the
others have partners, too. -/
theorem partners_of_length {β γ : Type} {related : β → γ → Prop} {lefts : List β} {rights : List γ}
    (single : lefts.Pairwise fun e e' => ∀ f, related e f → ¬ related e' f)
    (partnered : ∀ e ∈ lefts, ∃ f ∈ rights, related e f) (few : rights.length ≤ lefts.length) :
    ∀ f ∈ rights, ∃ e ∈ lefts, related e f := by
  induction lefts generalizing rights with
  | nil =>
    intro f member
    rw [List.length_nil, Nat.le_zero, List.length_eq_zero_iff] at few
    simp [few] at member
  | cons first rest ih =>
    rw [List.pairwise_cons] at single
    obtain ⟨partner, member, isPartner⟩ := partnered first (.head _)
    obtain ⟨before, after, rfl⟩ := List.append_of_mem member
    -- Without the partner of the first, the others are as many as the rest.
    have others : ∀ f ∈ before ++ after, ∃ e ∈ rest, related e f := by
      apply ih single.2
      · intro e isLater
        obtain ⟨f, member', isPartner'⟩ := partnered e (.tail _ isLater)
        have distinct : f ≠ partner := fun same =>
          single.1 e isLater partner isPartner (same ▸ isPartner')
        refine ⟨f, ?_, isPartner'⟩
        simpa [distinct] using member'
      · simp only [List.length_append, List.length_cons] at few ⊢
        omega
    intro f member'
    by_cases same : f = partner
    · exact ⟨first, .head _, same ▸ isPartner⟩
    · obtain ⟨e, isLater, related⟩ := others f (by simpa [same] using member')
      exact ⟨e, .tail _ isLater, related⟩

theorem equalEntries_symm (length : entries.length = others.length) (keyed : Keyed entries)
    (keyed' : Keyed others) (values : ∀ e ∈ entries, ∀ f ∈ others, Settled e.2 f.2)
    (same : equalEntries entries others = .ok true) : equalEntries others entries = .ok true := by
  rw [equalEntries_iff keyed.keys keyed'] at same
  rw [equalEntries_iff keyed'.keys keyed]
  have single : entries.Pairwise fun e e' => ∀ f, f ∈ others ∧ Partners e f →
      ¬ (f ∈ others ∧ Partners e' f) := by
    refine keyed.apart.imp_of_mem fun {e e'} member member' differ f partners partners' => ?_
    have keyE := keyed.keys e member
    have keyE' := keyed.keys e' member'
    have keyF := keyed'.keys f partners.1
    have back : f.1.equal e'.1 = .ok true := (keyE'.settled keyF).equal_comm ▸ partners'.2.1
    have equal := keyE.trans keyF keyE' partners.2.1 back
    rw [differ] at equal
    cases equal
  have partnered : ∀ e ∈ entries, ∃ f ∈ others, f ∈ others ∧ Partners e f := by
    intro e member
    obtain ⟨f, member', partners⟩ := same e member
    exact ⟨f, member', member', partners⟩
  intro f member'
  obtain ⟨e, member, -, partners⟩ :=
    partners_of_length single partnered (Nat.le_of_eq length.symm) f
    member'
  have keys := (keyed.keys e member).settled (keyed'.keys f member')
  exact ⟨e, member, keys.equal_comm ▸ partners.1,
    (values e member f member').equal_comm ▸ partners.2⟩

theorem settled_entries (length : entries.length = others.length) (keyed : Keyed entries)
    (keyed' : Keyed others) (values : ∀ e ∈ entries, ∀ f ∈ others, Settled e.2 f.2) :
    ∃ same, equalEntries entries others = .ok same ∧ equalEntries others entries = .ok same := by
  have settled : ∀ e ∈ entries, ∀ f ∈ others, Settled e.1 f.1 := fun e member f member' =>
    (keyed.keys e member).settled (keyed'.keys f member')
  have back : ∀ f ∈ others, ∀ e ∈ entries, Settled f.2 e.2 := fun f member' e member =>
    (values e member f member').symm
  obtain ⟨left, answered⟩ := equalEntries_answers
    (fun e member f member' => (settled e member f member').imp fun _ same => same.1)
    (fun e member f member' => (values e member f member').imp fun _ same => same.1)
  obtain ⟨right, answered'⟩ := equalEntries_answers
    (fun f member' e member => (settled e member f member').symm.imp fun _ same => same.1)
    (fun f member' e member => (back f member' e member).imp fun _ same => same.1)
  have agree : left = true ↔ right = true := by
    constructor
    · intro same
      have found := equalEntries_symm length keyed keyed' values (same ▸ answered)
      exact Except.ok.inj (answered'.symm.trans found)
    · intro same
      have found := equalEntries_symm length.symm keyed' keyed back (same ▸ answered')
      exact Except.ok.inj (answered.symm.trans found)
  exact ⟨left, answered, Bool.eq_iff_iff.2 agree ▸ answered'⟩

end Entries

/-! ## Plain values -/

/-- A value that is made of scalars and progressions by lists, tuples and dictionaries. -/
inductive Plain : Value → Prop where
  | scalar (s : Scalar) : Plain (.scalar s)
  | range (start stop step : Int) : Plain (.range start stop step)
  | list {items : List Value} (parts : ∀ item ∈ items, Plain item) : Plain (.list items)
  | tuple {items : List Value} (parts : ∀ item ∈ items, Plain item) : Plain (.tuple items)
  | dict {entries : List (Value × Value)} (keyed : Keyed entries)
      (parts : ∀ entry ∈ entries, Plain entry.2) : Plain (.dict entries)

namespace Plain

/-- Comparing plain values always ends with an answer, which is the same in both directions. -/
theorem settled (left : a.Plain) (right : b.Plain) : Settled a b := by
  induction left generalizing b with
  | scalar s =>
    cases right with
    | scalar t => exact (Key.scalar s).settled (.scalar t)
    | _ => exact ⟨false, rfl, rfl⟩
  | range start stop step =>
    cases right with
    | range start' stop' step' => exact (Key.range _ _ _).settled (.range _ _ _)
    | _ => exact ⟨false, rfl, rfl⟩
  | list parts ih =>
    cases right with
    | list parts' =>
      rename_i items others
      simp only [Settled, equal]
      by_cases length : items.length = others.length
      · rw [if_pos length, if_pos length.symm]
        exact settled_items fun x member y member' => ih x member (parts' y member')
      · rw [if_neg length, if_neg (Ne.symm length)]
        exact ⟨false, rfl, rfl⟩
    | _ => exact ⟨false, rfl, rfl⟩
  | tuple parts ih =>
    cases right with
    | tuple parts' => exact settled_items fun x member y member' => ih x member (parts' y member')
    | _ => exact ⟨false, rfl, rfl⟩
  | dict keyed parts ih =>
    cases right with
    | dict keyed' parts' =>
      rename_i entries others
      simp only [Settled, equal]
      by_cases length : entries.length = others.length
      · rw [if_pos length, if_pos length.symm]
        exact settled_entries length keyed keyed' fun e member f member' =>
          ih e member (parts' f member')
      · rw [if_neg length, if_neg (Ne.symm length)]
        exact ⟨false, rfl, rfl⟩
    | _ => exact ⟨false, rfl, rfl⟩

/-- A value that can be hashed and one that cannot are different. -/
theorem apart_of_hashable (left : a.Plain) (right : b.Plain) (hashed : a.hashable = true)
    (unhashed : b.hashable = false) : Apart a b := by
  apply (left.settled right).apart
  intro same
  have isKey := hashable_iff.2 ((hashable_iff.1 hashed).of_equal same)
  rw [unhashed] at isKey
  cases isKey

end Plain

/-! ## Putting dictionaries together -/

section Insertion

variable {entries : List (Value × Value)} {key value : Value} {entry : Value × Value}

theorem insertEntry_cons (key value present old : Value) (rest : List (Value × Value)) :
    (present.equal key = .ok true ∧
        insertEntry key value ((present, old) :: rest) = (present, value) :: rest) ∨
      (present.equal key ≠ .ok true ∧ insertEntry key value ((present, old) :: rest) =
        (present, old) :: insertEntry key value rest) := by
  rw [insertEntry]
  split
  · exact .inl ⟨‹_›, rfl⟩
  · exact .inr ⟨‹_›, rfl⟩

theorem mem_insertEntry (member : entry ∈ insertEntry key value entries) :
    ((∃ old ∈ entries, entry.1 = old.1) ∨ entry.1 = key) ∧ (entry ∈ entries ∨ entry.2 = value) := by
  induction entries with
  | nil =>
    rw [insertEntry, List.mem_singleton] at member
    simp [member]
  | cons first rest ih =>
    obtain ⟨_, inserted⟩ | ⟨_, inserted⟩ := insertEntry_cons key value first.1 first.2 rest
    · rw [inserted, List.mem_cons] at member
      obtain rfl | member := member
      · simp
      · exact ⟨.inl ⟨entry, .tail _ member, rfl⟩, .inl (.tail _ member)⟩
    · rw [inserted, List.mem_cons] at member
      obtain rfl | member := member
      · exact ⟨.inl ⟨first, .head _, rfl⟩, .inl (.head _)⟩
      · obtain ⟨keys, values⟩ := ih member
        exact ⟨keys.imp_left fun ⟨old, member, same⟩ => ⟨old, .tail _ member, same⟩,
          values.imp_left (.tail _)⟩

theorem Keyed.insertEntry (keyed : Keyed entries) (isKey : key.Key) :
    Keyed (insertEntry key value entries) := by
  induction entries with
  | nil =>
    refine ⟨fun entry member => ?_, List.pairwise_singleton _ _⟩
    rw [List.mem_singleton.1 member]
    exact isKey
  | cons first rest ih =>
    obtain ⟨firstKey, keys⟩ := List.forall_mem_cons.1 keyed.keys
    obtain ⟨fromFirst, apart⟩ := List.pairwise_cons.1 keyed.apart
    obtain ⟨_, inserted⟩ | ⟨differ, inserted⟩ :=
      insertEntry_cons key value first.1 first.2 rest
    · rw [inserted]
      exact ⟨List.forall_mem_cons.2 ⟨firstKey, keys⟩, List.pairwise_cons.2 ⟨fromFirst, apart⟩⟩
    · have later := ih ⟨keys, apart⟩
      rw [inserted]
      refine ⟨List.forall_mem_cons.2 ⟨firstKey, later.keys⟩, List.pairwise_cons.2 ⟨?_, later.apart⟩⟩
      intro entry member
      obtain ⟨⟨old, member, same⟩ | same, _⟩ := mem_insertEntry member
      · rw [same]
        exact fromFirst old member
      · rw [same]
        exact ((firstKey.settled isKey).apart differ).left

/-- A dictionary that is put together from hashable keys and plain values is plain. -/
theorem plain_dictOf (hashed : ∀ entry ∈ entries, entry.1.hashable = true)
    (parts : ∀ entry ∈ entries, entry.2.Plain) : (dictOf entries).Plain := by
  have kept (built : List (Value × Value)) (keyed : Keyed built)
      (plain : ∀ entry ∈ built, entry.2.Plain) :
      Plain (.dict (entries.foldl (fun built entry => insertEntry entry.1 entry.2 built) built)) := by
    induction entries generalizing built with
    | nil => exact .dict keyed plain
    | cons first rest ih =>
      rw [List.forall_mem_cons] at hashed parts
      refine ih hashed.2 parts.2 _ (keyed.insertEntry (hashable_iff.1 hashed.1)) ?_
      intro entry member
      obtain ⟨_, old | same⟩ := mem_insertEntry member
      · exact plain entry old
      · rw [same]
        exact parts.1
  exact kept [] ⟨List.forall_mem_nil _, .nil⟩ (List.forall_mem_nil _)

end Insertion

end Value

end Carousel
