import Carousel.Proofs.Selection

/-!
# Selections as lists

Seen from outside, a selection is a plain list of positions without repeats.  Whatever integers it
is asked about, it answers as the list does and leaves what the list leaves; the marks beside the
list always say the same as the list itself.
-/

namespace Carousel

/-- A refusal is a fault of the value that was given. -/
theorem Refusal.kind_fault {n : Nat} (refusal : Refusal n) (label : Fin n → String) :
    (refusal.fault label).kind = .value := by
  cases refusal <;> rfl

namespace Selection

variable {α : Type} {n : Nat} {s t : Selection n} {number : Int} {position : Fin n}

/-! ## Requests -/

inductive Request where
  | append (number : Int)
  | popOldest
  | dropNewest (count : Int)
  | extended (index : Int)

inductive Answer (α : Type) (n : Nat) where
  | done
  | oldest (position : Option (Fin n))
  | newest (positions : List (Fin n))
  | elements (found : List α)

/-- Carries out a request.  A refused one leaves the selection as it was. -/
def serve (u : Universe α n) (label : Fin n → String) (s : Selection n) :
    Request → Except Fault (Answer α n) × Selection n
  | .append number =>
    match s.append number with
    | .ok joined => (.ok .done, joined)
    | .error refusal => (.error (refusal.fault label), s)
  | .popOldest => (.ok (.oldest s.popOldest.1), s.popOldest.2)
  | .dropNewest count => (.ok (.newest (s.dropNewest count).1), (s.dropNewest count).2)
  | .extended index => ((s.preview u index).map .elements, s)

def serveAll (u : Universe α n) (label : Fin n → String) (s : Selection n) :
    List Request → List (Except Fault (Answer α n)) × Selection n
  | [] => ([], s)
  | request :: rest =>
    let (answer, next) := s.serve u label request
    let (answers, last) := next.serveAll u label rest
    (answer :: answers, last)

/-! ## Lists of positions -/

/-- What a list of positions answers to a request, and what it leaves. -/
inductive Listed (u : Universe α n) (label : Fin n → String) :
    List (Fin n) → Request → Except Fault (Answer α n) → List (Fin n) → Prop where
  | joins {order : List (Fin n)} {number : Int} {position : Fin n}
      (named : (position : Int) = number) (fresh : position ∉ order) :
      Listed u label order (.append number) (.ok .done) (order ++ [position])
  | repeated {order : List (Fin n)} {number : Int} {position : Fin n}
      (named : (position : Int) = number) (selected : position ∈ order) :
      Listed u label order (.append number) (.error (.alreadySelected (label position))) order
  | outside {order : List (Fin n)} {number : Int} (outside : ¬ (0 ≤ number ∧ number < n)) :
      Listed u label order (.append number) (.error (.positionOutOfRange number)) order
  | empty : Listed u label [] .popOldest (.ok (.oldest none)) []
  | leaves {oldest : Fin n} {rest : List (Fin n)} :
      Listed u label (oldest :: rest) .popOldest (.ok (.oldest (some oldest))) rest
  | trims {kept removed : List (Fin n)} {count : Int}
      (length : (removed.length : Int) = min (max count 0) (kept ++ removed).length) :
      Listed u label (kept ++ removed) (.dropNewest count) (.ok (.newest removed)) kept
  | shows {order : List (Fin n)} {index : Int} :
      Listed u label order (.extended index)
        ((u.itemAt index).map fun element => .elements (u.elementsAt order ++ [element])) order

inductive Listing (u : Universe α n) (label : Fin n → String) :
    List (Fin n) → List Request → List (Except Fault (Answer α n)) → List (Fin n) → Prop where
  | nil {order : List (Fin n)} : Listing u label order [] [] order
  | cons {order next last : List (Fin n)} {request : Request} {rest : List Request}
      {answer : Except Fault (Answer α n)} {answers : List (Except Fault (Answer α n))}
      (first : Listed u label order request answer next)
      (later : Listing u label next rest answers last) :
      Listing u label order (request :: rest) (answer :: answers) last

/-! ## Numbers of candidates -/

theorem append_eq_add (named : (position : Int) = number) : s.append number = s.add position := by
  subst named
  simp [append]

theorem append_outside (outside : ¬ (0 ≤ number ∧ number < n)) :
    s.append number = .error (.outOfRange number) := by
  simp [append, outside]

theorem holds_eq_contains (named : (position : Int) = number) :
    s.holds number = s.contains position := by
  subst named
  simp [holds]

/-- A number names a candidate or is out of range. -/
theorem named_or_outside (number : Int) :
    (∃ position : Fin n, (position : Int) = number) ∨ ¬ (0 ≤ number ∧ number < n) := by
  by_cases inside : 0 ≤ number ∧ number < n
  · exact .inl ⟨⟨number.toNat, by omega⟩, Int.toNat_of_nonneg inside.1⟩
  · exact .inr inside

/-- The membership test of any number agrees with the order. -/
theorem Sound.holds_iff (sound : s.Sound) :
    s.holds number = true ↔ ∃ position ∈ s.order, (position : Int) = number := by
  obtain ⟨position, named⟩ | outside := named_or_outside (n := n) number
  · rw [holds_eq_contains named, sound.marked]
    constructor
    · intro member
      exact ⟨position, member, named⟩
    · intro ⟨other, member, same⟩
      have equal : position = other := by omega
      exact equal ▸ member
  · have unheld : s.holds number = false := by simp [holds, outside]
    simp only [unheld, Bool.false_eq_true, false_iff, not_exists, not_and]
    intro position _ named
    omega

/-- A candidate joins exactly if it exists and is not selected. -/
theorem Sound.append_eq_ok_iff (sound : s.Sound) :
    s.append number = .ok t ↔ ∃ position : Fin n, (position : Int) = number ∧
      position ∉ s.order ∧ t = ⟨s.order ++ [position], mark s.marks position true⟩ := by
  obtain ⟨position, named⟩ | outside := named_or_outside (n := n) number
  · rw [append_eq_add named, add_eq_ok_iff sound]
    constructor
    · intro joined
      exact ⟨position, named, joined⟩
    · intro ⟨other, same, joined⟩
      have equal : other = position := by omega
      exact equal ▸ joined
  · rw [append_outside outside]
    constructor
    · intro impossible
      cases impossible
    · intro ⟨position, named, _⟩
      omega

/-- The preview at the number of a candidate has the candidate at its end. -/
theorem preview_eq_extended (u : Universe α n) (named : (position : Int) = number) :
    s.preview u number = .ok (u.elementsAt (s.extended position)) := by
  subst named
  have found : Index.locate n .noSuchItem (position : Int) = .ok position := by
    have counted : ¬ (position : Int) < 0 := by omega
    simp [Index.locate, Index.position?, counted]
  rw [preview, Universe.itemAt, found, extended, Universe.elementsAt_append]
  rfl

/-! ## The list answers for the selection -/

/-- One request: the list tells the answer and the order left, and the selection stays sound. -/
theorem listed_serve (u : Universe α n) (label : Fin n → String) (sound : s.Sound)
    (request : Request) :
    Listed u label s.order request (s.serve u label request).1 (s.serve u label request).2.order ∧
      (s.serve u label request).2.Sound := by
  cases request with
  | append number =>
    obtain ⟨position, named⟩ | outside := named_or_outside (n := n) number
    · by_cases selected : position ∈ s.order
      · have marked := (sound.marked position).2 selected
        have refused : s.append number = .error (.selected position) := by
          simp [append_eq_add named, add, marked]
        simp only [serve, refused]
        exact ⟨.repeated named selected, sound⟩
      · have joined := (add_eq_ok_iff sound).2 ⟨selected, rfl⟩
        simp only [serve, append_eq_add named, joined]
        exact ⟨.joins named selected, sound.add joined⟩
    · simp only [serve, append_outside outside]
      exact ⟨.outside outside, sound⟩
  | popOldest =>
    refine ⟨?_, sound.popOldest⟩
    simp only [serve, popOldest_fst, order_popOldest]
    cases s.order with
    | nil => exact .empty
    | cons oldest rest => exact .leaves
  | dropNewest count =>
    refine ⟨?_, sound.dropNewest count⟩
    -- The order is what is kept and what is dropped, one behind the other.
    have parts : (s.dropNewest count).2.order ++ (s.dropNewest count).1 = s.order :=
      List.take_append_drop _ _
    have trimmed : Listed u label ((s.dropNewest count).2.order ++ (s.dropNewest count).1)
        (.dropNewest count) (.ok (.newest (s.dropNewest count).1)) (s.dropNewest count).2.order := by
      apply Listed.trims
      rw [parts, dropNewest_fst, List.length_drop, size]
      omega
    rw [parts] at trimmed
    exact trimmed
  | extended index =>
    refine ⟨?_, sound⟩
    have shown : (s.preview u index).map Answer.elements = (u.itemAt index).map fun element =>
        (.elements (u.elementsAt s.order ++ [element]) : Answer α n) := by
      rw [preview]
      cases u.itemAt index <;> rfl
    simp only [serve, shown]
    exact .shows

/-- Several requests, by induction on them. -/
theorem listing_serveAll (u : Universe α n) (label : Fin n → String) (sound : s.Sound)
    (requests : List Request) :
    Listing u label s.order requests (s.serveAll u label requests).1
        (s.serveAll u label requests).2.order ∧ (s.serveAll u label requests).2.Sound := by
  induction requests generalizing s with
  | nil => exact ⟨.nil, sound⟩
  | cons request rest ih =>
    obtain ⟨first, kept⟩ := listed_serve u label sound request
    obtain ⟨later, last⟩ := ih kept
    exact ⟨.cons first later, last⟩

/-! ## Main result -/

/-- The selection is a list without repeats, whatever it is asked: it answers like the list and
agrees with its marks.  Only a candidate that is not selected can join, nothing changes when it
cannot, and the elements shown before it joins are those that are selected afterwards.  What remains
is the rest of the positions in their order. -/
structure Faithful (u : Universe α n) (label : Fin n → String) (s : Selection n) : Prop where
  distinct : s.order.Nodup
  members : ∀ number : Int, s.holds number = true ↔ ∃ position ∈ s.order, (position : Int) = number
  answers : ∀ request, Listed u label s.order request (s.serve u label request).1
    (s.serve u label request).2.order
  joins : ∀ number : Int, (s.serve u label (.append number)).1 = .ok .done ↔
    (0 ≤ number ∧ number < n) ∧ s.holds number = false
  refused : ∀ number fault, (s.serve u label (.append number)).1 = .error fault →
    fault.kind = .value ∧ (s.serve u label (.append number)).2 = s
  shown : ∀ number, (s.serve u label (.append number)).1 = .ok .done →
    s.serve u label (.extended number) =
      (.ok (.elements (u.elementsAt (s.serve u label (.append number)).2.order)), s)
  ascending : s.remaining.Pairwise (· < ·)
  unselected : ∀ position, position ∈ s.remaining ↔ position ∉ s.order
  complete : (s.order ++ s.remaining).Perm (List.finRange n)

theorem Sound.faithful (sound : s.Sound) (u : Universe α n) (label : Fin n → String) :
    s.Faithful u label where
  distinct := sound.nodup
  members _ := sound.holds_iff
  answers request := (listed_serve u label sound request).1
  joins number := by
    obtain ⟨position, named⟩ | outside := named_or_outside (n := n) number
    · have inside : 0 ≤ number ∧ number < n := by omega
      rw [holds_eq_contains named, serve, append_eq_add named, Selection.add]
      cases contained : s.contains position with
      | true => simp
      | false => simp [inside]
    · simp [serve, append_outside outside, outside]
  refused number fault answered := by
    cases appended : s.append number with
    | ok joined => simp [serve, appended] at answered
    | error refusal =>
      have same : refusal.fault label = fault := by simpa [serve, appended] using answered
      constructor
      · rw [← same, refusal.kind_fault]
      · rw [serve, appended]
  shown number answered := by
    cases appended : s.append number with
    | error refusal => simp [serve, appended] at answered
    | ok joined =>
      obtain ⟨position, named, -, rfl⟩ := sound.append_eq_ok_iff.1 appended
      simp only [serve, appended, preview_eq_extended u named]
      rfl
  ascending := (List.pairwise_lt_finRange n).filter _
  unselected _ := sound.mem_remaining_iff
  complete := sound.perm_append_remaining

/-- From the empty selection on, every sequence of requests is answered like one to a list of
positions, and leads to a selection that is such a list. -/
theorem requests_answered_by_list (u : Universe α n) (label : Fin n → String)
    (requests : List Request) :
    let served := (empty n).serveAll u label requests
    Listing u label [] requests served.1 served.2.order ∧ served.2.Faithful u label := by
  obtain ⟨listing, sound⟩ := listing_serveAll u label sound_empty requests
  exact ⟨listing, sound.faithful u label⟩

def fourLetters : Universe Char 4 := ⟨#v['a', 'b', 'c', 'd'], Nat.succ_pos 3⟩

/-- Four letters are asked for with numbers that fit and numbers that do not. -/
theorem requests_answered_of_four_letters :
    let requests : List Request := [.append 2, .append 0, .append 2, .append 4, .append (-1),
      .extended (-1), .append 3, .dropNewest (-3), .popOldest, .dropNewest 7, .popOldest]
    let answers : List (Except Fault (Answer Char 4)) := [.ok .done, .ok .done,
      .error (.alreadySelected "2"), .error (.positionOutOfRange 4),
      .error (.positionOutOfRange (-1)), .ok (.elements ['c', 'a', 'd']), .ok .done,
      .ok (.newest []), .ok (.oldest (some 2)), .ok (.newest [0, 3]), .ok (.oldest none)]
    ∃ s, (empty 4).serveAll fourLetters toString requests = (answers, s) ∧
      Listing fourLetters toString [] requests answers [] ∧ s.Faithful fourLetters toString ∧
      s.remaining = [0, 1, 2, 3] := by
  intro requests answers
  obtain ⟨listing, faithful⟩ := requests_answered_by_list fourLetters toString requests
  exact ⟨_, rfl, listing, faithful, by decide⟩

end Selection

end Carousel
