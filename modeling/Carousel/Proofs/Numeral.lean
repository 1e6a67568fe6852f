import Carousel.Decimal
import Carousel.Text.Basic
import Mathlib.Data.List.TakeWhile
import Mathlib.Tactic.Ring

/-!
# Reading numbers

What is read from Latin digits, with a sign, a fraction and an exponent around them.  An integer in
its usual digits is read back exactly if there are not too many, and no more are ever read.
-/

namespace Carousel.Text

/-! ## Trimming -/

theorem dropWhile_of_head? {drop : Char → Bool} {text : List Char}
    (kept : ∀ c ∈ text.head?, drop c = false) : text.dropWhile drop = text := by
  cases text with
  | nil => rfl
  | cons c rest => simp [kept c rfl]

/-- A text is not trimmed if its first and its last character are kept. -/
theorem trim_eq_self {drop : Char → Bool} {text : List Char}
    (first : ∀ c ∈ text.head?, drop c = false) (last : ∀ c ∈ text.getLast?, drop c = false) :
    trim drop text = text := by
  rw [trim, dropWhile_of_head? first, dropWhile_of_head?, List.reverse_reverse]
  rwa [List.head?_reverse]

theorem trim_of_forall {drop : Char → Bool} {text : List Char}
    (kept : ∀ c ∈ text, drop c = false) : trim drop text = text :=
  trim_eq_self (fun c found => kept c (List.mem_of_head? found))
    (fun c found => kept c (List.mem_of_getLast? found))

/-- A text without blanks, hash marks and quotes: trimming and cutting leave it as it is. -/
def Plain (text : List Char) : Prop := ∀ c ∈ text, isBlank c = false ∧ c ≠ '#' ∧ c ≠ '"'

instance (text : List Char) : Decidable (Plain text) :=
  List.decidableBAll (fun c => isBlank c = false ∧ c ≠ '#' ∧ c ≠ '"') text

namespace Plain

variable {text more : List Char}

theorem append (plain : Plain text) (others : Plain more) : Plain (text ++ more) := by
  intro c found
  exact (List.mem_append.1 found).elim (plain c) (others c)

theorem trim_isBlank (plain : Plain text) : trim isBlank text = text :=
  trim_of_forall fun c found => (plain c found).1

theorem trim_isPadding (plain : Plain text) : trim isPadding text = text := by
  apply trim_of_forall
  intro c found
  rw [isPadding, (plain c found).1, Bool.false_and]

end Plain

theorem plain_signText (negative : Bool) : Plain (Binary64.signText negative).toList := by
  cases negative <;> decide

/-! ## Digits -/

def Digits (text : List Char) : Prop := ∀ c ∈ text, c.isDigit = true

def value (text : List Char) : Nat := Nat.ofDigitChars 10 text 0

theorem Digits.append {text more : List Char} (digits : Digits text) (others : Digits more) :
    Digits (text ++ more) := by
  intro c found
  exact (List.mem_append.1 found).elim (digits c) (others c)

theorem Digits.take {text : List Char} (digits : Digits text) (count : Nat) :
    Digits (text.take count) := fun c found => digits c (List.mem_of_mem_take found)

theorem Digits.drop {text : List Char} (digits : Digits text) (count : Nat) :
    Digits (text.drop count) := fun c found => digits c (List.mem_of_mem_drop found)

theorem digits_toDigits (n : Nat) : Digits (Nat.toDigits 10 n) := fun _ found =>
  Nat.isDigit_of_mem_toDigits (by decide) (by decide) found

theorem digits_replicate_zero (count : Nat) : Digits (List.replicate count '0') := by
  intro c found
  rw [List.eq_of_mem_replicate found]
  rfl

theorem value_append (text more : List Char) :
    value (text ++ more) = value text * 10 ^ more.length + value more := by
  rw [value, Nat.ofDigitChars_append, Nat.ofDigitChars_eq_ofDigitChars_zero, Nat.mul_comm]
  rfl

@[simp] theorem value_replicate_zero (count : Nat) : value (List.replicate count '0') = 0 := by
  simp [value]

@[simp] theorem value_toDigits (n : Nat) : value (Nat.toDigits 10 n) = n :=
  Nat.ofDigitChars_ten_toDigits

theorem toNat_of_isDigit {c : Char} (digit : c.isDigit = true) : 48 ≤ c.toNat ∧ c.toNat ≤ 57 :=
  Char.isDigit_iff_toNat.1 digit

theorem digitValue?_of_isDigit {c : Char} (digit : c.isDigit = true) :
    digitValue? c = some (c.toNat - 48) := by
  obtain ⟨least, most⟩ := toNat_of_isDigit digit
  have latin : (decide (48 ≤ c.toNat) && decide (c.toNat < 48 + 10)) = true := by
    rw [Bool.and_eq_true, decide_eq_true_eq, decide_eq_true_eq]
    omega
  rw [digitValue?, zeroDigits, List.find?_cons, latin]
  rfl

theorem ne_of_isDigit {c other : Char} (digit : c.isDigit = true) (mark : other.isDigit = false) :
    c ≠ other := by
  intro same
  rw [same, mark] at digit
  cases digit

theorem plain_of_isDigit {c : Char} (digit : c.isDigit = true) :
    isBlank c = false ∧ c ≠ '#' ∧ c ≠ '"' := by
  obtain ⟨least, most⟩ := toNat_of_isDigit digit
  have unblank : isBlank c = false := by
    simp [isBlank]
    omega
  exact ⟨unblank, ne_of_isDigit digit rfl, ne_of_isDigit digit rfl⟩

theorem Digits.plain {text : List Char} (digits : Digits text) : Plain text := fun c found =>
  plain_of_isDigit (digits c found)

theorem digitRun?_of_digits {text : List Char} (digits : Digits text) (given : text ≠ []) :
    digitRun? text = some (text.map (·.toNat - 48)) := by
  induction text with
  | nil => exact absurd rfl given
  | cons c rest ih =>
    have first := digitValue?_of_isDigit (digits c List.mem_cons_self)
    cases rest with
    | nil => simp [digitRun?, first]
    | cons next rest =>
      have unmarked : next ≠ '_' :=
        ne_of_isDigit (digits next (List.mem_cons_of_mem _ List.mem_cons_self)) rfl
      have others := ih (fun c found => digits c (List.mem_cons_of_mem _ found)) (by simp)
      rw [digitRun?, first, others]
      · rfl
      · exact List.cons_ne_nil _ _
      · intro rest same
        exact unmarked (List.cons.inj same).1

theorem ofDigits_map (text : List Char) : ofDigits (text.map (·.toNat - 48)) = value text := by
  simp only [ofDigits, value, Nat.ofDigitChars_eq_foldl, List.foldl_map, Nat.mul_comm]
  rfl

theorem digitRun?_lt {text : List Char} {digits : List Nat} (read : digitRun? text = some digits) :
    ∀ d ∈ digits, d < 10 := by
  fun_induction digitRun? text generalizing digits with
  | case1 => cases read
  | case2 c =>
    obtain ⟨d, found, rfl⟩ := Option.map_eq_some_iff.1 read
    simp [digitValue?_lt found]
  | case3 c rest ih | case4 c rest _ _ ih =>
    simp only [Option.bind_eq_bind, Option.bind_eq_some_iff, Option.pure_def,
      Option.some.injEq] at read
    obtain ⟨d, found, others, run, rfl⟩ := read
    exact List.forall_mem_cons.2 ⟨digitValue?_lt found, ih run⟩

/-- Digits below ten stand for less than the next power of ten. -/
theorem ofDigits_lt {digits : List Nat} (small : ∀ d ∈ digits, d < 10) :
    ofDigits digits < 10 ^ digits.length := by
  -- The induction needs any number in front of the digits.
  suffices bound : ∀ n, digits.foldl (fun n d => n * 10 + d) n < (n + 1) * 10 ^ digits.length by
    simpa [ofDigits] using bound 0
  induction digits with
  | nil => intro n; simp
  | cons d rest ih =>
    intro n
    have first : d < 10 := small d List.mem_cons_self
    have others := ih (fun d found => small d (List.mem_cons_of_mem _ found)) (n * 10 + d)
    calc rest.foldl (fun n d => n * 10 + d) (n * 10 + d)
        < (n * 10 + d + 1) * 10 ^ rest.length := others
      _ ≤ (n + 1) * 10 * 10 ^ rest.length := Nat.mul_le_mul_right _ (by omega)
      _ = (n + 1) * 10 ^ (d :: rest).length := by rw [List.length_cons]; ring

/-! ## Signs -/

def Leads (text : List Char) : Prop := ∃ c rest, text = c :: rest ∧ c.isDigit = true

theorem Digits.leads {text : List Char} (digits : Digits text) (given : text ≠ []) :
    Leads text := by
  cases text with
  | nil => exact absurd rfl given
  | cons c rest => exact ⟨c, rest, rfl, digits c List.mem_cons_self⟩

theorem Leads.append {text : List Char} (leads : Leads text) (more : List Char) :
    Leads (text ++ more) := by
  obtain ⟨c, rest, rfl, digit⟩ := leads
  exact ⟨c, rest ++ more, rfl, digit⟩

/-- A sign is split off a text that begins with a digit. -/
theorem splitSign_signText (negative : Bool) {text : List Char} (leads : Leads text) :
    splitSign ((Binary64.signText negative).toList ++ text) = (negative, text) := by
  obtain ⟨c, rest, rfl, digit⟩ := leads
  have minus : c ≠ '-' := ne_of_isDigit digit rfl
  have plus : c ≠ '+' := ne_of_isDigit digit rfl
  cases negative with
  | true => rfl
  | false => simp [Binary64.signText, splitSign, minus, plus]

/-! ## Integers -/

theorem isDigitMark_of_isDigit {c : Char} (digit : c.isDigit = true) : isDigitMark c = true := by
  simp [isDigitMark, digitValue?_of_isDigit digit]

theorem readInt_digits (negative : Bool) {text : List Char} (digits : Digits text)
    (given : text ≠ []) :
    readInt (Binary64.signText negative ++ String.ofList text) =
      if maxDigits < text.length then .error (.tooLong text.length)
      else .ok (signed negative (value text)) := by
  have marks : ∀ c ∈ text, isDigitMark c = true := fun c found =>
    isDigitMark_of_isDigit (digits c found)
  have plain := (plain_signText negative).append digits.plain
  have run := digitRun?_of_digits digits given
  simp only [readInt, String.toList_append, String.toList_ofList, plain.trim_isPadding,
    splitSign_signText negative (digits.leads given), List.takeWhile_eq_self_iff.2 marks,
    List.dropWhile_eq_nil_iff.2 marks, run, ofDigits_map, List.length_map, List.isEmpty_nil,
    if_true]

theorem toString_int (n : Int) :
    toString n =
      Binary64.signText (decide (n < 0)) ++ String.ofList (Nat.toDigits 10 n.natAbs) := by
  rw [Int.toString_eq_repr, Int.repr_eq_if, ← Nat.repr_eq_ofList_toDigits]
  by_cases sign : n < 0
  · have size : (-n).toNat = n.natAbs := by omega
    simp [sign, Int.not_le.2 sign, size, Binary64.signText]
  · have size : n.toNat = n.natAbs := by omega
    simp [sign, Int.not_lt.1 sign, size, Binary64.signText]

theorem plain_toString (n : Int) : Plain (toString n).toList := by
  rw [toString_int, String.toList_append, String.toList_ofList]
  exact (plain_signText _).append (digits_toDigits _).plain

theorem toString_ne_empty (n : Int) : (toString n).toList ≠ [] := by
  rw [toString_int, String.toList_append, String.toList_ofList]
  simp [Nat.toDigits_ne_nil]

theorem signed_natAbs (n : Int) : signed (decide (n < 0)) n.natAbs = n := by
  by_cases sign : n < 0
  · rw [signed, decide_eq_true sign, if_pos rfl]
    omega
  · rw [signed, decide_eq_false sign, if_neg Bool.false_ne_true]
    omega

theorem maxDigits_pos : 0 < maxDigits := by decide

/-- An integer is read back from its usual digits exactly if there are not too many of them. -/
theorem readInt_toString_iff (n : Int) :
    readInt (toString n) = .ok n ↔ n.natAbs < 10 ^ maxDigits := by
  rw [toString_int, readInt_digits _ (digits_toDigits _) Nat.toDigits_ne_nil, value_toDigits,
    signed_natAbs, ← Nat.length_toDigits_le_iff (by decide) maxDigits_pos]
  split <;> simp <;> omega

/-- What is read as an integer has not too many digits. -/
theorem natAbs_lt_of_readInt {text : String} {n : Int} (read : readInt text = .ok n) :
    n.natAbs < 10 ^ maxDigits := by
  simp only [readInt] at read
  split at read
  · cases read
  · rename_i digits run
    split at read
    · cases read
    · rename_i short
      split at read
      · have small := ofDigits_lt (digitRun?_lt run)
        have power : 10 ^ digits.length ≤ 10 ^ maxDigits :=
          Nat.pow_le_pow_right (by decide) (Nat.le_of_not_lt short)
        have size (negative : Bool) : (signed negative (ofDigits digits)).natAbs =
            ofDigits digits := by
          cases negative <;> simp [signed]
        injection read with same
        rw [← same, size]
        omega
      · cases read

/-- What is read as an integer can be written and read again. -/
theorem readInt_toString_of_readInt {text : String} {n : Int} (read : readInt text = .ok n) :
    readInt (toString n) = .ok n :=
  (readInt_toString_iff n).2 (natAbs_lt_of_readInt read)

end Carousel.Text
