import Carousel.Proofs.Numeral
import Carousel.Proofs.Rounding

/-!
# Written numbers read back

A floating-point number is written with the shortest digits that round to it, positionally or with
an exponent.  Each way of writing them keeps the value, so reading gives the number back: the
extreme magnitudes, both zeros, the infinities and not-a-number included.
-/

namespace Carousel

namespace Text

/-! ## Reading the parts of a number -/

/-- Digits with a point before the fraction, or without both. -/
def pointed (whole fraction : List Char) : List Char :=
  if fraction.isEmpty then whole else whole ++ '.' :: fraction

/-- What can stand behind the digits: nothing, or an exponent with its sign. -/
inductive Tail : List Char → Int → Prop
  | none : Tail [] 0
  | exponent (negative : Bool) {text : List Char} : Digits text → text ≠ [] →
      Tail ('e' :: (if negative then '-' else '+') :: text) (signed negative (value text))

theorem takeWhile_append_of_head? {keep : Char → Bool} {text rest : List Char}
    (kept : ∀ c ∈ text, keep c = true) (stops : ∀ c ∈ rest.head?, keep c = false) :
    (text ++ rest).takeWhile keep = text := by
  rw [List.takeWhile_append_of_pos kept]
  cases rest with
  | nil => simp
  | cons c rest => simp [stops c rfl]

theorem dropWhile_append_of_head? {keep : Char → Bool} {text rest : List Char}
    (kept : ∀ c ∈ text, keep c = true) (stops : ∀ c ∈ rest.head?, keep c = false) :
    (text ++ rest).dropWhile keep = rest := by
  rw [List.dropWhile_append_of_pos kept, dropWhile_of_head? stops]

/-- What stands behind the whole digits: nothing, or the point and the fraction. -/
theorem pointed_eq (whole fraction : List Char) :
    ∃ rest, pointed whole fraction = whole ++ rest ∧ rest.drop 1 = fraction ∧
      ∀ c ∈ rest.head?, c = '.' := by
  cases fraction with
  | nil => exact ⟨[], (List.append_nil whole).symm, rfl, by simp⟩
  | cons c fraction => exact ⟨'.' :: c :: fraction, rfl, rfl, by simp⟩

theorem split_point {whole : List Char} (digits : Digits whole) (fraction : List Char) :
    (pointed whole fraction).takeWhile (· ≠ '.') = whole ∧
      ((pointed whole fraction).dropWhile (· ≠ '.')).drop 1 = fraction := by
  obtain ⟨rest, parts, others, point⟩ := pointed_eq whole fraction
  have pointless : ∀ c ∈ whole, decide (c ≠ '.') = true := fun c found =>
    decide_eq_true (ne_of_isDigit (digits c found) rfl)
  have stops : ∀ c ∈ rest.head?, decide (c ≠ '.') = false := fun c found =>
    decide_eq_false (not_not_intro (point c found))
  rw [parts, takeWhile_append_of_head? pointless stops, dropWhile_append_of_head? pointless stops]
  exact ⟨rfl, others⟩

theorem optionalRun?_of_digits {text : List Char} (digits : Digits text) :
    optionalRun? text = some (text.map (·.toNat - 48)) := by
  cases text with
  | nil => rfl
  | cons c rest => exact digitRun?_of_digits digits (List.cons_ne_nil _ _)

theorem mem_pointed {whole fraction : List Char} {c : Char} (found : c ∈ pointed whole fraction) :
    c ∈ whole ∨ c = '.' ∨ c ∈ fraction := by
  rw [pointed] at found
  split at found
  · exact .inl found
  · simpa using found

theorem Tail.head?_eq {tail : List Char} {exponent : Int} (ends : Tail tail exponent) :
    ∀ c ∈ tail.head?, c = 'e' := by
  cases ends with
  | none => simp
  | exponent sign digits some => simp

theorem signedRun?_sign (negative : Bool) {text : List Char} (digits : Digits text)
    (given : text ≠ []) :
    signedRun? ((if negative then '-' else '+') :: text) = some (signed negative (value text)) := by
  have split : splitSign ((if negative then '-' else '+') :: text) = (negative, text) := by
    cases negative <;> rfl
  simp only [signedRun?, split, digitRun?_of_digits digits given, Option.map_some, ofDigits_map]

theorem readUnsigned?_pointed (negative : Bool) {whole fraction tail : List Char} {exponent : Int}
    (wholes : Digits whole) (given : whole ≠ []) (fractions : Digits fraction)
    (ends : Tail tail exponent) :
    readUnsigned? negative (pointed whole fraction ++ tail) =
      some (.ofDecimal negative (value (whole ++ fraction)) (exponent - fraction.length)) := by
  have plain : ∀ c ∈ pointed whole fraction, (!(decide (c = 'e') || decide (c = 'E'))) = true := by
    intro c found
    have unmarked : c ≠ 'e' ∧ c ≠ 'E' := by
      rcases mem_pointed found with found | rfl | found
      · exact ⟨ne_of_isDigit (wholes c found) rfl, ne_of_isDigit (wholes c found) rfl⟩
      · decide
      · exact ⟨ne_of_isDigit (fractions c found) rfl, ne_of_isDigit (fractions c found) rfl⟩
    simp [unmarked]
  have stops : ∀ c ∈ tail.head?, (!(decide (c = 'e') || decide (c = 'E'))) = false := by
    intro c found
    simp [ends.head?_eq c found]
  have given' : (whole.map (·.toNat - 48)).isEmpty = false := by simp [given]
  obtain ⟨before, behind⟩ := split_point wholes fraction
  rw [readUnsigned?]
  simp only [takeWhile_append_of_head? plain stops, dropWhile_append_of_head? plain stops, before,
    behind, optionalRun?_of_digits wholes, optionalRun?_of_digits fractions, Option.bind_eq_bind,
    Option.bind_some, given', Bool.false_and, ← List.map_append, ofDigits_map, List.length_map]
  -- Only the exponent depends on what stands behind the digits.
  cases ends with
  | none => rfl
  | exponent sign digits some =>
    simp only [signedRun?_sign sign digits some, Option.bind_some]
    rfl

/-- A number that begins with a digit is none of the words for special numbers. -/
theorem readBinary64?_of_leads (negative : Bool) {text : List Char} (leads : Leads text)
    (plain : Plain text) :
    readBinary64? (Binary64.signText negative ++ String.ofList text) =
      readUnsigned? negative text := by
  have wordless (word : String) (letter : word.toList.head?.any Char.isDigit = false) :
      String.ofList (text.map Char.toLower) ≠ word := by
    obtain ⟨c, rest, rfl, digit⟩ := leads
    have lower : c.toLower = c := by
      have most : c.val ≤ '9'.val := (toNat_of_isDigit digit).2
      have small : ¬ (c.val ≥ 'A'.val ∧ c.val ≤ 'Z'.val) := fun capital =>
        absurd (UInt32.le_trans capital.1 most) (by decide)
      exact dif_neg small
    intro same
    rw [← same] at letter
    simp [lower, digit] at letter
  simp only [readBinary64?, String.toList_append, String.toList_ofList,
    ((plain_signText negative).append plain).trim_isPadding, splitSign_signText negative leads]
  rw [if_neg, if_neg]
  · exact wordless _ (by decide)
  · exact not_or_intro (wordless _ (by decide)) (wordless _ (by decide))

end Text

namespace Decimal

open Text

/-! ## Writing the digits -/

theorem toList_zeros (count : Nat) : (zeros count).toList = List.replicate count '0' := by
  rw [zeros, String.pushn_eq_repeat_push]
  induction count with
  | zero => rfl
  | succ count ih => rw [Nat.repeat, String.toList_push, ih, List.replicate_succ']

theorem toList_toString (n : Nat) : (toString n).toList = Nat.toDigits 10 n := by
  rw [Nat.toString_eq_repr, Nat.toList_repr]

theorem toList_filled (width n : Nat) :
    (filled width n).toList =
      List.replicate (width - (toString n).length) '0' ++ Nat.toDigits 10 n := by
  rw [filled, String.toList_append, toList_zeros, toList_toString]

theorem dropWhile_zeros (text : List Char) :
    ∃ count, text = List.replicate count '0' ++ text.dropWhile (· = '0') := by
  induction text with
  | nil => exact ⟨0, rfl⟩
  | cons c rest ih =>
    obtain ⟨count, parts⟩ := ih
    by_cases zero : c = '0'
    · refine ⟨count + 1, ?_⟩
      rw [List.dropWhile_cons_of_pos (by simp [zero]), zero, List.replicate_succ, List.cons_append,
        ← parts]
    · exact ⟨0, by simp [zero]⟩

/-- Only zeros are missing at the end of the significant digits. -/
theorem significantDigits_append (d : Decimal) :
    ∃ count, Nat.toDigits 10 d.digits = d.significantDigits ++ List.replicate count '0' := by
  obtain ⟨count, parts⟩ := dropWhile_zeros (Nat.toDigits 10 d.digits).reverse
  refine ⟨count, ?_⟩
  rw [← List.reverse_reverse (Nat.toDigits 10 d.digits), parts, List.reverse_append,
    List.reverse_replicate, significantDigits, toList_toString]

theorem digits_significantDigits (d : Decimal) : Digits d.significantDigits := by
  obtain ⟨count, parts⟩ := significantDigits_append d
  intro c found
  apply digits_toDigits d.digits
  rw [parts]
  exact List.mem_append_left _ found

/-- The digits stand for the significant ones, moved up by the zeros behind them. -/
theorem digits_eq {d : Decimal} {count : Nat}
    (parts : Nat.toDigits 10 d.digits = d.significantDigits ++ List.replicate count '0') :
    d.digits = value d.significantDigits * 10 ^ count := by
  have whole := value_toDigits d.digits
  rwa [parts, value_append, value_replicate_zero, Nat.add_zero, List.length_replicate,
    eq_comm] at whole

theorem significantDigits_ne_nil {d : Decimal} (positive : 0 < d.digits) :
    d.significantDigits ≠ [] := by
  obtain ⟨count, parts⟩ := significantDigits_append d
  intro empty
  have zero := digits_eq parts
  have none : value [] = 0 := rfl
  rw [empty, none, Nat.zero_mul] at zero
  omega

/-- The place of the first digit of a decimal: `0` for a value in `[1, 10)`. -/
def place (d : Decimal) : Int := (toString d.digits).length + d.exponent - 1

/-- Any number of zeros behind the significant digits gives the same number, if the exponent makes
up for them. -/
theorem ofDecimal_significantDigits (negative : Bool) (d : Decimal) (zeros : Nat) {digits : Nat}
    {exponent : Int} (filled : digits = value d.significantDigits * 10 ^ zeros)
    (level : exponent + zeros + d.significantDigits.length = d.place + 1) :
    Binary64.ofDecimal negative digits exponent =
      Binary64.ofDecimal negative d.digits d.exponent := by
  obtain ⟨count, parts⟩ := significantDigits_append d
  have length := congrArg List.length parts
  rw [List.length_append, List.length_replicate, ← toList_toString, String.length_toList] at length
  have shifted : exponent = d.exponent + count - zeros := by
    rw [place] at level
    omega
  -- Both sides are the significant digits, with zeros moved to the exponent.
  calc Binary64.ofDecimal negative digits exponent
      = Binary64.ofDecimal negative (value d.significantDigits) (d.exponent + count) := by
        rw [filled, shifted, Binary64.ofDecimal_mul_pow]
    _ = Binary64.ofDecimal negative d.digits d.exponent := by
        rw [digits_eq parts, ← Binary64.ofDecimal_mul_pow negative _ count,
          Int.add_sub_cancel]

/-! ## Spellings -/

/-- A text that spells a decimal: digits that may have a fraction and an exponent and that stand for
its value under either sign. -/
inductive Spelled (d : Decimal) : List Char → Prop
  | intro {whole fraction tail : List Char} {exponent : Int} (wholes : Digits whole)
      (given : whole ≠ []) (fractions : Digits fraction) (ends : Tail tail exponent)
      (value_eq : ∀ negative, Binary64.ofDecimal negative (value (whole ++ fraction))
        (exponent - fraction.length) = Binary64.ofDecimal negative d.digits d.exponent) :
      Spelled d (pointed whole fraction ++ tail)

theorem pointed_of_ne_nil {fraction : List Char} (given : fraction ≠ []) (whole : List Char) :
    pointed whole fraction = whole ++ '.' :: fraction := by
  rw [pointed, if_neg (by simp [given])]

theorem tail_filled (width : Nat) (place : Int) :
    Tail ('e' :: (if place < 0 then '-' else '+') :: (filled width place.natAbs).toList) place := by
  have digits : Digits (filled width place.natAbs).toList := by
    rw [toList_filled]
    exact (digits_replicate_zero _).append (digits_toDigits _)
  have given : (filled width place.natAbs).toList ≠ [] := by
    rw [toList_filled]
    simp [Nat.toDigits_ne_nil]
  have ends := Tail.exponent (decide (place < 0)) digits given
  have number : value (filled width place.natAbs).toList = place.natAbs := by
    rw [toList_filled, value_append, value_replicate_zero, Nat.zero_mul, Nat.zero_add,
      value_toDigits]
  rw [number, signed_natAbs] at ends
  simpa only [decide_eq_true_eq] using ends

variable {d : Decimal}

/-- One digit before the point, and an exponent. -/
theorem spelled_scientific (positive : 0 < d.digits) (width : Nat) :
    Spelled d (pointed (d.significantDigits.take 1) (d.significantDigits.drop 1) ++
      'e' :: (if d.place < 0 then '-' else '+') :: (filled width d.place.natAbs).toList) := by
  have digits := digits_significantDigits d
  have some := List.length_pos_iff.2 (significantDigits_ne_nil positive)
  apply Spelled.intro (digits.take 1) _ (digits.drop 1) (tail_filled width d.place)
  · intro negative
    apply ofDecimal_significantDigits negative d 0
    · rw [List.take_append_drop, Nat.pow_zero, Nat.mul_one]
    · rw [List.length_drop]
      omega
  · simp [significantDigits_ne_nil positive]

/-- Digits around a point. -/
theorem spelled_positional (zeros : Nat) {whole fraction : List Char} (wholes : Digits whole)
    (given : whole ≠ []) (fractions : Digits fraction) (given' : fraction ≠ [])
    (filled : value (whole ++ fraction) = value d.significantDigits * 10 ^ zeros)
    (level : zeros + d.significantDigits.length = d.place + 1 + fraction.length) :
    Spelled d (whole ++ '.' :: fraction) := by
  rw [← pointed_of_ne_nil given', ← List.append_nil (pointed whole fraction)]
  apply Spelled.intro wholes given fractions .none
  intro negative
  apply ofDecimal_significantDigits negative d zeros filled
  omega

/-- A number below one: zeros stand between the point and the digits. -/
theorem spelled_fraction (positive : 0 < d.digits) (small : d.place < 0) :
    Spelled d (['0'] ++
      '.' :: (List.replicate (-d.place - 1).toNat '0' ++ d.significantDigits)) := by
  have fractions := (digits_replicate_zero (-d.place - 1).toNat).append (digits_significantDigits d)
  apply spelled_positional 0 (digits_replicate_zero 1) (List.cons_ne_nil _ _) fractions
  · simp [significantDigits_ne_nil positive]
  · rw [value_append, value_append, value_replicate_zero, value_replicate_zero]
    ring
  · rw [List.length_append, List.length_replicate]
    omega

/-- An integer: zeros fill up the digits before the point. -/
theorem spelled_integer (positive : 0 < d.digits) (large : 0 ≤ d.place)
    (few : d.significantDigits.length ≤ d.place.toNat + 1) :
    Spelled d (d.significantDigits ++
      List.replicate (d.place.toNat + 1 - d.significantDigits.length) '0' ++ '.' :: ['0']) := by
  have wholes := (digits_significantDigits d).append
    (digits_replicate_zero (d.place.toNat + 1 - d.significantDigits.length))
  apply spelled_positional (d.place.toNat + 1 - d.significantDigits.length + 1) wholes _
    (digits_replicate_zero 1) (List.cons_ne_nil _ _)
  · rw [value_append, value_append, value_replicate_zero, value_replicate_zero,
      List.length_replicate, List.length_replicate]
    ring
  · rw [List.length_replicate]
    omega
  · simp [significantDigits_ne_nil positive]

/-- The point stands between the digits. -/
theorem spelled_mixed (large : 0 ≤ d.place)
    (many : d.place.toNat + 1 < d.significantDigits.length) :
    Spelled d (d.significantDigits.take (d.place.toNat + 1) ++
      '.' :: d.significantDigits.drop (d.place.toNat + 1)) := by
  have digits := digits_significantDigits d
  apply spelled_positional 0 (digits.take _) _ (digits.drop _)
  · apply List.ne_nil_of_length_pos
    rw [List.length_drop]
    omega
  · rw [List.take_append_drop, Nat.pow_zero, Nat.mul_one]
  · rw [List.length_drop]
    omega
  · apply List.ne_nil_of_length_pos
    rw [List.length_take]
    omega

/-- Every decimal is spelled by the text that is written for it. -/
theorem spelled_write (style : PointStyle) (positive : 0 < d.digits) :
    Spelled d (d.write style).toList := by
  have named : (toString d.digits).length + d.exponent - 1 = d.place := rfl
  simp only [write, named]
  split
  · have spelled := spelled_scientific positive style.exponentWidth
    have sign : (if d.place < 0 then "-" else "+").toList = [if d.place < 0 then '-' else '+'] := by
      split <;> rfl
    cases rest : d.significantDigits.drop 1 with
    | nil =>
      rw [rest] at spelled
      simpa [pointed, sign] using spelled
    | cons c others =>
      rw [rest] at spelled
      simpa [pointed, sign] using spelled
  · split
    · rename_i small
      simpa [toList_zeros] using spelled_fraction positive small
    · rename_i large
      split
      · rename_i few
        simpa [toList_zeros] using spelled_integer positive (Int.not_lt.1 large) few
      · rename_i many
        simpa using spelled_mixed (Int.not_lt.1 large) (Nat.lt_of_not_le many)

namespace Spelled

variable {text : List Char}

theorem leads (spelled : Spelled d text) : Leads text := by
  cases spelled with
  | @intro whole fraction _ _ wholes given _ _ _ =>
    have first : Leads (pointed whole fraction) := by
      rw [pointed]
      split
      · exact wholes.leads given
      · exact (wholes.leads given).append _
    exact first.append _

/-- Apart from digits, only a point, the letter of the exponent and its sign can occur. -/
theorem mark (spelled : Spelled d text) :
    ∀ c ∈ text, c.isDigit = true ∨ c ∈ ['.', 'e', '-', '+'] := by
  cases spelled with
  | intro wholes given fractions ends value_eq =>
    intro c found
    rcases List.mem_append.1 found with found | found
    · rcases mem_pointed found with found | rfl | found
      · exact .inl (wholes c found)
      · simp
      · exact .inl (fractions c found)
    · cases ends with
      | none => cases found
      | exponent sign digits some =>
        rcases List.mem_cons.1 found with rfl | found
        · simp
        · rcases List.mem_cons.1 found with rfl | found
          · cases sign <;> simp
          · exact .inl (digits c found)

theorem plain (spelled : Spelled d text) : Plain text := by
  intro c found
  have marks : Plain ['.', 'e', '-', '+'] := by decide
  rcases spelled.mark c found with digit | mark
  · exact plain_of_isDigit digit
  · exact marks c mark

theorem read (spelled : Spelled d text) (negative : Bool) :
    readBinary64? (Binary64.signText negative ++ String.ofList text) =
      some (Binary64.ofDecimal negative d.digits d.exponent) := by
  rw [readBinary64?_of_leads negative spelled.leads spelled.plain]
  cases spelled with
  | intro wholes given fractions ends value_eq =>
    rw [readUnsigned?_pointed negative wholes given fractions ends, value_eq]

end Spelled

end Decimal

namespace Binary64

/-- The texts of the special numbers, and the digits of the others. -/
theorem write_cases (x : Binary64) :
    x ∈ [nan, infinity false, infinity true, num false 0, num true 0] ∨
      ∃ negative rank text, x = num negative rank ∧ (Decimal.shortest rank).Spelled text ∧
        x.write = signText negative ++ String.ofList text := by
  cases x with
  | nan => simp
  | num negative rank =>
    by_cases infinite : rank.val = infiniteRank
    · have same : num negative rank = infinity negative := congrArg _ (Fin.ext infinite)
      cases negative <;> simp [same]
    · by_cases zero : rank.val = 0
      · have same : num negative rank = num negative 0 := congrArg _ (Fin.ext zero)
        cases negative <;> simp [same]
      · have spelled := Decimal.spelled_write .standard (Decimal.digits_shortest_pos zero)
        refine .inr ⟨negative, rank, _, rfl, spelled, ?_⟩
        rw [write, if_neg infinite, if_neg zero, String.ofList_toList]

/-- A floating-point number is read back from the text that is written for it. -/
theorem readBinary64?_write (x : Binary64) : Text.readBinary64? x.write = some x := by
  rcases write_cases x with special | ⟨negative, rank, text, rfl, spelled, written⟩
  · have reads : ∀ x ∈ [nan, infinity false, infinity true, num false 0, num true 0],
        Text.readBinary64? x.write = some x := by decide +kernel
    exact reads x special
  · rw [written, spelled.read, ofDecimal_of_positive (Decimal.toBinary64_shortest rank)]

theorem plain_write (x : Binary64) : Text.Plain x.write.toList := by
  rcases write_cases x with special | ⟨negative, rank, text, rfl, spelled, written⟩
  · have plain : ∀ x ∈ [nan, infinity false, infinity true, num false 0, num true 0],
        Text.Plain x.write.toList := by decide +kernel
    exact plain x special
  · rw [written, String.toList_append, String.toList_ofList]
    exact (Text.plain_signText negative).append spelled.plain

theorem write_ne_empty (x : Binary64) : x.write.toList ≠ [] := by
  intro empty
  have same : x.write = "" := String.toList_eq_nil_iff.1 empty
  have reads := readBinary64?_write x
  rw [same] at reads
  cases (reads.symm.trans (by decide +kernel : Text.readBinary64? "" = none))

end Binary64

end Carousel
