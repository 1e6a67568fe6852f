import Carousel.Proofs.Equality
import Carousel.Universe
import Mathlib.Data.List.Pairwise

/-!
# Which candidates form a universe

Candidates that can be hashed are looked up among each other, all others are compared pair by pair,
and nobody compares one of the first kind with one of the second.  Still every repeated candidate is
found, since equal values are of one kind.  Where comparisons refuse to answer, the outcome is told
by the first repeated hashable value, and otherwise by the first pair of the others that is not
found different.
-/

namespace Carousel.Universe

open Value (Apart Key Plain Settled)

variable {values seen before after : List Value} {value old : Value}

/-! ## Looking up -/

def Differs (a b : Value) : Prop := a.equal b = .ok false

theorem matching_iff (settled : Settled old value) :
    matching value old = true ↔ old.equal value = .ok true := by
  obtain ⟨same, left, right⟩ := settled
  simp [matching, left, right]

theorem not_matching_iff (settled : Settled old value) :
    matching value old = false ↔ Differs old value := by
  obtain ⟨same, left, right⟩ := settled
  simp [matching, Differs, left, right]

theorem firstRepeat?_append (fresh : firstRepeat? seen before = none)
    (repeats : ∃ old, (old ∈ before ∨ old ∈ seen) ∧ matching value old = true) :
    firstRepeat? seen (before ++ value :: after) = some value := by
  induction before generalizing seen with
  | nil =>
    obtain ⟨old, member, same⟩ := repeats
    have found : seen.any (matching value) = true := by
      simpa using ⟨old, by simpa using member, same⟩
    simp [firstRepeat?, found]
  | cons first before ih =>
    rw [firstRepeat?] at fresh
    split at fresh
    · cases fresh
    · rename_i unseen
      rw [List.cons_append, firstRepeat?, if_neg unseen]
      apply ih fresh
      obtain ⟨old, member, same⟩ := repeats
      refine ⟨old, ?_, same⟩
      simp only [List.mem_cons] at member ⊢
      tauto

theorem firstRepeat?_eq_some (found : firstRepeat? seen values = some value) :
    ∃ before after, values = before ++ value :: after ∧ firstRepeat? seen before = none ∧
      ∃ old, (old ∈ before ∨ old ∈ seen) ∧ matching value old = true := by
  induction values generalizing seen with
  | nil => cases found
  | cons first rest ih =>
    rw [firstRepeat?] at found
    split at found
    · rename_i repeats
      cases found
      obtain ⟨old, member, same⟩ := List.any_eq_true.1 repeats
      exact ⟨[], rest, rfl, rfl, old, .inr member, same⟩
    · rename_i unseen
      obtain ⟨before, after, rfl, fresh, old, member, same⟩ := ih found
      refine ⟨first :: before, after, rfl, ?_, old, ?_, same⟩
      · rw [firstRepeat?, if_neg unseen]
        exact fresh
      · simp only [List.mem_cons] at member ⊢
        tauto

theorem not_matching_of_firstRepeat? (fresh : firstRepeat? seen values = none) :
    (∀ value ∈ values, ∀ old ∈ seen, matching value old = false) ∧
      values.Pairwise fun old value => matching value old = false := by
  induction values generalizing seen with
  | nil => simp
  | cons first rest ih =>
    rw [firstRepeat?] at fresh
    split at fresh
    · cases fresh
    · rename_i unseen
      obtain ⟨apart, distinct⟩ := ih fresh
      have unmatched : ∀ old ∈ seen, matching first old = false := by simpa using unseen
      refine ⟨List.forall_mem_cons.2 ⟨unmatched, fun value member old member' => ?_⟩,
        List.pairwise_cons.2 ⟨fun value member => ?_, distinct⟩⟩
      · exact apart value member old (.tail _ member')
      · exact apart value member first (.head _)

/-- Among values that can be hashed, looking up is comparing. -/
theorem firstRepeat?_eq_none_iff (keys : ∀ value ∈ values, value.Key) :
    firstRepeat? [] values = none ↔ values.Pairwise Differs := by
  have same : values.Pairwise (fun old value => matching value old = false) ↔
      values.Pairwise Differs := by
    apply List.Pairwise.iff_of_mem
    intro old value member member'
    exact not_matching_iff ((keys old member).settled (keys value member'))
  rw [← same]
  constructor
  · intro fresh
    exact (not_matching_of_firstRepeat? fresh).2
  · intro distinct
    exact firstRepeat?_eq_none (by simp) distinct

theorem key_of_mem_filter (member : value ∈ values.filter Value.hashable) : value.Key :=
  Value.hashable_iff.1 (List.mem_filter.1 member).2

/-! ## Comparing pair by pair -/

def pairs : List Value → List (Value × Value)
  | [] => []
  | value :: rest => rest.map (value, ·) ++ pairs rest

theorem forall_mem_pairs {related : Value → Value → Prop} :
    (∀ pair ∈ pairs values, related pair.1 pair.2) ↔ values.Pairwise related := by
  induction values with
  | nil => simp [pairs]
  | cons value rest ih =>
    rw [pairs, List.forall_mem_append, ih, List.pairwise_cons, List.forall_mem_map]

theorem requireAllDistinct_eq (values : List Value) :
    requireAllDistinct values = (pairs values).forM fun pair => requireDistinct pair.1 pair.2 := by
  induction values with
  | nil => rfl
  | cons value rest ih =>
    simp only [requireAllDistinct, ih, pairs, List.forM_eq_forM, List.forM_append, List.forM_map]

inductive Clash (a b : Value) : Fault → Prop where
  | repeated (same : a.equal b = .ok true) : Clash a b (.duplicateCandidate a)
  | unsuitable {refusal : Raised} (refused : a.equal b = .error refusal)
      (kind : refusal.kind = .type ∨ refusal.kind = .value ∨ refusal.kind = .configuration) :
      Clash a b (.incomparable a.typeName refusal.message)
  | raised {refusal : Raised} (refused : a.equal b = .error refusal)
      (kind : ¬ (refusal.kind = .type ∨ refusal.kind = .value ∨ refusal.kind = .configuration)) :
      Clash a b (.raised refusal)

theorem isUnsuitable_iff {kind : FaultKind} :
    kind.isUnsuitable = true ↔ kind = .type ∨ kind = .value ∨ kind = .configuration := by
  cases kind <;> simp [FaultKind.isUnsuitable]

theorem requireDistinct_eq_ok {a b : Value} : requireDistinct a b = .ok () ↔ Differs a b := by
  rw [requireDistinct, Differs]
  split <;> simp_all

theorem requireDistinct_eq_error {a b : Value} {fault : Fault} :
    requireDistinct a b = .error fault ↔ Clash a b fault := by
  constructor
  · intro failed
    rw [requireDistinct] at failed
    split at failed
    · cases failed
    · cases failed
      exact .repeated ‹_›
    · rename_i refusal refused
      by_cases unsuitable : refusal.kind.isUnsuitable
      · rw [if_pos unsuitable] at failed
        cases failed
        exact .unsuitable refused (isUnsuitable_iff.1 unsuitable)
      · rw [if_neg unsuitable] at failed
        cases failed
        exact .raised refused (isUnsuitable_iff.not.1 unsuitable)
  · intro clash
    cases clash with
    | repeated same => rw [requireDistinct, same]
    | unsuitable refused kind =>
      simp only [requireDistinct, refused, if_pos (isUnsuitable_iff.2 kind)]
    | raised refused kind =>
      simp only [requireDistinct, refused, if_neg (isUnsuitable_iff.not.2 kind)]

theorem requireAllDistinct_eq_ok :
    requireAllDistinct values = .ok () ↔ values.Pairwise Differs := by
  rw [requireAllDistinct_eq, forM_eq_ok, ← forall_mem_pairs]
  apply forall₂_congr
  intro pair _
  exact requireDistinct_eq_ok

/-! ## The outcome -/

/-- What comes of making a universe from some values. -/
inductive Judged (values : List Value) : Except Fault (Universe Value values.length) → Prop where
  /-- A hashable value equals an earlier one. -/
  | repeated {before after : List Value} {old value : Value}
      (split : values.filter Value.hashable = before ++ value :: after)
      (fresh : before.Pairwise Differs) (member : old ∈ before)
      (same : old.equal value = .ok true) :
      Judged values (.error (.duplicateCandidate value))
  /-- The hashable values differ, and two others are the first ones not found different. -/
  | clash {before after : List (Value × Value)} {a b : Value} {fault : Fault}
      (hashables : (values.filter Value.hashable).Pairwise Differs)
      (split : pairs (values.filter (!Value.hashable ·)) = before ++ (a, b) :: after)
      (fresh : ∀ pair ∈ before, Differs pair.1 pair.2) (clash : Clash a b fault) :
      Judged values (.error fault)
  | nothing (empty : values = []) : Judged values (.error .noCandidates)
  | admitted {found : Universe Value values.length} (nonempty : values ≠ [])
      (hashables : (values.filter Value.hashable).Pairwise Differs)
      (others : (values.filter (!Value.hashable ·)).Pairwise Differs)
      (kept : found.toList = values) : Judged values (.ok found)

theorem firstRepeat?_filter_eq_none_iff :
    firstRepeat? [] (values.filter Value.hashable) = none ↔
      (values.filter Value.hashable).Pairwise Differs :=
  firstRepeat?_eq_none_iff fun _ member => key_of_mem_filter member

theorem firstRepeat?_filter_eq_some_iff :
    firstRepeat? [] (values.filter Value.hashable) = some value ↔
      ∃ before after old, values.filter Value.hashable = before ++ value :: after ∧
        before.Pairwise Differs ∧ old ∈ before ∧ old.equal value = .ok true := by
  -- All that stands in a split of the hashable values is hashable.
  have keys {before after} (split : values.filter Value.hashable = before ++ value :: after) :
      (∀ old ∈ before, old.Key) ∧ value.Key := by
    constructor
    · intro old member
      exact key_of_mem_filter (split ▸ List.mem_append_left _ member)
    · exact key_of_mem_filter (split ▸ List.mem_append_right _ (.head _))
  constructor
  · intro found
    obtain ⟨before, after, split, fresh, old, member, same⟩ := firstRepeat?_eq_some found
    obtain ⟨olds, key⟩ := keys split
    obtain member | member := member
    · exact ⟨before, after, old, split, (firstRepeat?_eq_none_iff olds).1 fresh, member,
        (matching_iff ((olds old member).settled key)).1 same⟩
    · cases member
  · intro ⟨before, after, old, split, fresh, member, same⟩
    obtain ⟨olds, key⟩ := keys split
    rw [split]
    apply firstRepeat?_append ((firstRepeat?_eq_none_iff olds).2 fresh)
    exact ⟨old, .inl member, (matching_iff ((olds old member).settled key)).2 same⟩

theorem ofDistinct_eq_ok {found : Universe Value values.length} :
    ofDistinct values = .ok found ↔ values ≠ [] ∧ found.toList = values := by
  rw [ofDistinct]
  constructor
  · intro made
    split at made
    · cases made
      exact ⟨List.length_pos_iff.1 ‹_›, rfl⟩
    · cases made
  · intro ⟨nonempty, kept⟩
    rw [dif_pos (List.length_pos_iff.2 nonempty)]
    obtain ⟨⟨elements, size⟩, _⟩ := found
    have same : values.toArray = elements := by simpa [toList, ← Array.toList_inj] using kept.symm
    simp [same]

theorem ofDistinct_eq_error {fault : Fault} :
    ofDistinct values = .error fault ↔ values = [] ∧ fault = .noCandidates := by
  rw [ofDistinct]
  by_cases empty : values = []
  · simp [empty, eq_comm]
  · simp [empty, List.length_pos_iff.2 empty]

theorem ofList_of_judged {outcome : Except Fault (Universe Value values.length)}
    (judged : Judged values outcome) : ofList values = outcome := by
  cases judged with
  | repeated split fresh member same =>
    have found := firstRepeat?_filter_eq_some_iff.2 ⟨_, _, _, split, fresh, member, same⟩
    rw [ofList, requireNoRepeat, found]
    rfl
  | clash hashables split fresh clash =>
    rename_i before after a b fault
    have failed : requireAllDistinct (values.filter (!Value.hashable ·)) = .error fault := by
      rw [requireAllDistinct_eq, split]
      apply forM_of_first
      · intro pair member
        exact requireDistinct_eq_ok.2 (fresh pair member)
      · exact requireDistinct_eq_error.2 clash
    rw [ofList, requireNoRepeat, firstRepeat?_filter_eq_none_iff.2 hashables]
    simp only
    rw [failed]
    rfl
  | nothing empty =>
    subst empty
    rfl
  | admitted nonempty hashables others kept =>
    rw [ofList, requireNoRepeat, firstRepeat?_filter_eq_none_iff.2 hashables]
    simp only
    rw [requireAllDistinct_eq_ok.2 others]
    exact ofDistinct_eq_ok.2 ⟨nonempty, kept⟩

theorem judged_ofList (values : List Value) : Judged values (ofList values) := by
  -- Repetitions are looked for in the whole list before the first pair is compared.
  cases search : firstRepeat? [] (values.filter Value.hashable) with
  | some value =>
    obtain ⟨before, after, old, split, fresh, member, same⟩ :=
      firstRepeat?_filter_eq_some_iff.1 search
    have judged := Judged.repeated split fresh member same
    rw [ofList_of_judged judged]
    exact judged
  | none =>
    have hashables := firstRepeat?_filter_eq_none_iff.1 search
    cases checked : requireAllDistinct (values.filter (!Value.hashable ·)) with
    | error fault =>
      obtain ⟨before, ⟨a, b⟩, after, split, earlier, failed⟩ :=
        exists_first_of_forM (requireAllDistinct_eq _ ▸ checked)
      have judged := Judged.clash hashables split
        (fun pair member => requireDistinct_eq_ok.1 (earlier pair member))
        (requireDistinct_eq_error.1 failed)
      rw [ofList_of_judged judged]
      exact judged
    | ok _ =>
      have others := requireAllDistinct_eq_ok.1 checked
      have judged : Judged values (ofDistinct values) := by
        cases made : ofDistinct values with
        | error fault =>
          obtain ⟨empty, rfl⟩ := ofDistinct_eq_error.1 made
          exact .nothing empty
        | ok found =>
          obtain ⟨nonempty, kept⟩ := ofDistinct_eq_ok.1 made
          exact .admitted nonempty hashables others kept
      rw [ofList_of_judged judged]
      exact judged

/-- What is told of a clash is a faulty configuration, unless the refusal is none of that kind. -/
theorem Clash.kind_fault {a b : Value} {fault : Fault} (clash : Clash a b fault) :
    fault.kind = .configuration ∨
      ∃ refusal, fault = .raised refusal ∧ a.equal b = .error refusal ∧
        ¬ (refusal.kind = .type ∨ refusal.kind = .value ∨ refusal.kind = .configuration) := by
  cases clash with
  | repeated same => exact .inl rfl
  | unsuitable refused kind => exact .inl rfl
  | raised refused kind => exact .inr ⟨_, rfl, refused, kind⟩

/-! ## Plain values -/

theorem mem_of_mem_pairs {a b : Value} (member : (a, b) ∈ pairs values) :
    a ∈ values ∧ b ∈ values := by
  induction values with
  | nil => cases member
  | cons value rest ih =>
    rw [pairs, List.mem_append, List.mem_map] at member
    obtain ⟨later, member, same⟩ | member := member
    · cases same
      exact ⟨.head _, .tail _ member⟩
    · exact ⟨.tail _ (ih member).1, .tail _ (ih member).2⟩

/-- Two plain values need to be compared only if both can be hashed or neither can. -/
theorem apart_of_compared {a b : Value} (left : a.Plain) (right : b.Plain)
    (compared : b.hashable = a.hashable → Differs a b) : Apart a b := by
  by_cases kind : b.hashable = a.hashable
  · apply (left.settled right).apart
    rw [compared kind]
    simp
  · cases hashed : a.hashable with
    | true => exact left.apart_of_hashable right hashed (by simpa [hashed] using kind)
    | false => exact (right.apart_of_hashable left (by simpa [hashed] using kind) hashed).symm

/-- Plain values that differ among the hashable ones and among the others differ altogether. -/
theorem pairwise_apart_iff (plain : ∀ value ∈ values, value.Plain) :
    values.Pairwise Apart ↔ (values.filter Value.hashable).Pairwise Differs ∧
      (values.filter (!Value.hashable ·)).Pairwise Differs := by
  constructor
  · intro apart
    exact ⟨(apart.filter _).imp Apart.left, (apart.filter _).imp Apart.left⟩
  · intro ⟨hashables, others⟩
    induction values with
    | nil => exact .nil
    | cons value rest ih =>
      rw [List.forall_mem_cons] at plain
      -- Later values of the same kind have been compared with the first one.
      cases hashed : value.hashable with
      | true =>
        rw [List.filter_cons_of_pos hashed, List.pairwise_cons] at hashables
        rw [List.filter_cons_of_neg (by simp [hashed])] at others
        apply List.Pairwise.cons _ (ih plain.2 hashables.2 others)
        intro later member
        apply apart_of_compared plain.1 (plain.2 later member)
        intro kind
        exact hashables.1 later (List.mem_filter.2 ⟨member, kind.trans hashed⟩)
      | false =>
        rw [List.filter_cons_of_neg (by simp [hashed])] at hashables
        rw [List.filter_cons_of_pos (by simp [hashed]), List.pairwise_cons] at others
        apply List.Pairwise.cons _ (ih plain.2 hashables others.2)
        intro later member
        apply apart_of_compared plain.1 (plain.2 later member)
        intro kind
        exact others.1 later (List.mem_filter.2 ⟨member, by simp [kind, hashed]⟩)

theorem pairwise_apart_iff_get :
    values.Pairwise Apart ↔
      ∀ i j : Fin values.length, i ≠ j → (values.get i).equal (values.get j) = .ok false := by
  rw [List.pairwise_iff_get]
  constructor
  · intro apart i j distinct
    obtain below | above := Nat.lt_or_gt_of_ne (Fin.val_ne_of_ne distinct)
    · exact (apart i j below).left
    · exact (apart j i above).right
  · intro differ i j below
    have distinct := Fin.ne_of_lt below
    exact ⟨differ i j distinct, differ j i distinct.symm⟩

/-- Plain values form a universe if there is one and no two of them are equal. -/
theorem admitted_iff_apart (plain : ∀ value ∈ values, value.Plain) :
    (∃ found, ofList values = .ok found) ↔ values ≠ [] ∧ values.Pairwise Apart := by
  rw [pairwise_apart_iff plain]
  constructor
  · intro ⟨found, made⟩
    have judged := judged_ofList values
    rw [made] at judged
    cases judged with
    | admitted nonempty hashables others kept => exact ⟨nonempty, hashables, others⟩
  · intro ⟨nonempty, hashables, others⟩
    have filled := List.length_pos_iff.2 nonempty
    have judged : Judged values (.ok ⟨⟨values.toArray, List.size_toArray⟩, filled⟩) :=
      .admitted nonempty hashables others rfl
    exact ⟨_, ofList_of_judged judged⟩

/-- Plain values that form no universe lack a value or have one twice. -/
theorem fault_of_plain (plain : ∀ value ∈ values, value.Plain) {fault : Fault}
    (failed : ofList values = .error fault) :
    fault = .noCandidates ∧ values = [] ∨ ∃ value ∈ values, fault = .duplicateCandidate value := by
  have judged := judged_ofList values
  rw [failed] at judged
  cases judged with
  | repeated split fresh member same =>
    have inside := List.mem_filter.1 (split ▸ List.mem_append_right _ (.head _))
    exact .inr ⟨_, inside.1, rfl⟩
  | clash hashables split fresh clash =>
    obtain ⟨left, right⟩ := mem_of_mem_pairs (split ▸ List.mem_append_right _ (.head _))
    have left := (List.mem_filter.1 left).1
    have right := (List.mem_filter.1 right).1
    obtain ⟨same, compared, _⟩ := (plain _ left).settled (plain _ right)
    -- Plain values do not refuse to be compared.
    cases clash with
    | repeated _ => exact .inr ⟨_, left, rfl⟩
    | unsuitable refused _ => cases compared.symm.trans refused
    | raised refused _ => cases compared.symm.trans refused
  | nothing empty => exact .inl ⟨rfl, empty⟩

/-- A universe is made from the members of a value.  The members of a progression are not compared,
but they would pass. -/
theorem ofValue_of_items {sequence : Value} (members : sequence.items = .ok values)
    (moves : ∀ start stop, sequence ≠ .range start stop 0) :
    ofValue sequence = (ofList values).map fun found => ⟨values.length, found⟩ := by
  have present : sequence.isAbsent = false := by
    cases sequence with
    | scalar s =>
      cases s with
      | absent => cases members
      | _ => rfl
    | _ => rfl
  -- The members of a progression are not compared; they would pass, as long as it moves.
  have unrepeated (progression : sequence.isProgression = true) :
      requireNoRepeat values = .ok () := by
    cases sequence with
    | range start stop step =>
      obtain ⟨_, _, found⟩ := bind_eq_ok.1 members
      cases found
      apply requireNoRepeat_rangeMembers
      intro still
      exact moves start stop (still ▸ rfl)
    | _ => cases progression
  have sized (made : Except Fault (Universe Value values.length)) :
      (made >>= fun found => pure ⟨values.length, found⟩ : Except Fault (Sized Value)) =
        made.map fun found => ⟨values.length, found⟩ := by
    cases made <;> rfl
  rw [ofValue, present, members]
  cases progression : sequence.isProgression with
  | true =>
    rw [ofList, unrepeated progression]
    exact sized (ofDistinct values)
  | false => exact sized (ofList values)

/-- The members of a value form a universe exactly as told by `Judged`, and plain ones if there is
one and no two of them are equal. -/
theorem admits_exactly_distinct (values : List Value) :
    (∀ sequence : Value, sequence.items = .ok values →
      (∀ start stop, sequence ≠ .range start stop 0) →
        ofValue sequence = (ofList values).map fun found => ⟨values.length, found⟩) ∧
    (∀ outcome, ofList values = outcome ↔ Judged values outcome) ∧
    (∀ fault, ofList values = .error fault → fault.kind = .configuration ∨
      ∃ refusal, fault = .raised refusal ∧
        ¬ (refusal.kind = .type ∨ refusal.kind = .value ∨ refusal.kind = .configuration)) ∧
    ((∀ value ∈ values, value.Plain) →
      ((∃ found, ofList values = .ok found ∧ found.toList = values) ↔
        values ≠ [] ∧
          ∀ i j : Fin values.length, i ≠ j → (values.get i).equal (values.get j) = .ok false) ∧
      ∀ fault, ofList values = .error fault →
        fault = .noCandidates ∧ values = [] ∨
          ∃ value ∈ values, fault = .duplicateCandidate value) := by
  have judged := judged_ofList values
  refine ⟨fun _ => ofValue_of_items, fun outcome => ⟨fun made => made ▸ judged, ofList_of_judged⟩,
    fun fault failed => ?_, fun plain => ⟨?_, fun _ => fault_of_plain plain⟩⟩
  · rw [failed] at judged
    cases judged with
    | repeated split fresh member same => exact .inl rfl
    | clash hashables split fresh clash =>
      exact clash.kind_fault.imp_right fun ⟨refusal, told, _, kind⟩ => ⟨refusal, told, kind⟩
    | nothing empty => exact .inl rfl
  · rw [← pairwise_apart_iff_get, ← admitted_iff_apart plain]
    constructor
    · intro ⟨found, made, _⟩
      exact ⟨found, made⟩
    · intro ⟨found, made⟩
      rw [made] at judged
      cases judged with
      | admitted nonempty hashables others kept => exact ⟨found, made, kept⟩

def assorted : List Value :=
  [.int 1, .real .nan, .list [.int 1], .real .nan, .tuple [.int 1], .tuple [.list []], .absent,
    Value.dictOf [(.text "a", .int 1), (.text "b", .list [.bool true])]]

theorem plain_of_mem_assorted : ∀ value ∈ assorted, value.Plain := by
  have one : Plain (.int 1) := .scalar _
  have entries : Plain (Value.dictOf [(.text "a", .int 1), (.text "b", .list [.bool true])]) := by
    apply Value.plain_dictOf (by decide)
    simpa using ⟨one, .list (by simpa using .scalar _)⟩
  simp only [assorted, List.forall_mem_cons]
  exact ⟨one, .scalar _, .list (by simpa using one), .scalar _, .tuple (by simpa using one),
    .tuple (by simpa using .list (List.forall_mem_nil _)), .scalar _, entries,
    List.forall_mem_nil _⟩

theorem assorted_admitted :
    (∃ found, ofList assorted = .ok found ∧ found.toList = assorted) ∧
      Judged (.refusing ⟨.value, "ambiguous"⟩ :: assorted)
        (.error (.incomparable "Uncomparable" "ambiguous")) ∧
      Judged (.refusing ⟨.value, "ambiguous"⟩ :: assorted ++ [.bool true])
        (.error (.duplicateCandidate (.bool true))) := by
  constructor
  · exact ((admits_exactly_distinct assorted).2.2.2 plain_of_mem_assorted).1.2
      ⟨by decide, by decide⟩
  · exact ⟨((admits_exactly_distinct _).2.1 _).1 rfl, ((admits_exactly_distinct _).2.1 _).1 rfl⟩

end Carousel.Universe
