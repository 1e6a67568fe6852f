import Carousel.Proofs.Order
import Carousel.Proofs.Run.Phase
import Carousel.Proofs.Run.Script
import Carousel.Proofs.Solver

/-!
# Trimming

Removal asks nobody and cannot fail.  What it takes is the end of the selection, as much as the product of
size and share says but never so much that fewer than two stay where there were two, and exactly what it
takes remains again afterwards.
-/

namespace Carousel

open Act (Completes)
open Binary64 (infiniteRank magnitude nearestRank unitsPerOne)

variable {σ δ α : Type} {n : Nat}

/-! ## The product of size and share -/

namespace Binary64

/-- A share is finite and not above one. -/
theorem finite_of_share {negative : Bool} {rank : Rank}
    (least : (Number.int 0).le (.real (.num negative rank)) = true)
    (most : (Number.real (.num negative rank)).le (.int 1) = true) :
    rank.val ≠ infiniteRank ∧ magnitude rank ≤ unitsPerOne := by
  by_cases infinite : rank.val = infiniteRank
  · simp only [Number.le, Number.place?, units?, if_pos infinite] at least most
    cases negative with
    | false => cases most
    | true => cases least
  · refine ⟨infinite, ?_⟩
    cases negative with
    | false =>
      simp only [Number.le, Number.place?, units?_num infinite, Number.Place.le,
        decide_eq_true_eq, Bool.false_eq_true, if_false, Int.one_mul] at most
      exact Int.ofNat_le.1 most
    | true =>
      rw [magnitude_eq_zero infinite least]
      exact Nat.zero_le _

/-- The product of a finite number and a share is finite, since it is not the greater one. -/
theorem floor?_mul_share (negative : Bool) {a b : Rank} (finite : a.val ≠ infiniteRank)
    (finite' : b.val ≠ infiniteRank) (most : magnitude b ≤ unitsPerOne) :
    ∃ count, (num false a * num negative b).floor? = some count := by
  have cross : magnitude a * magnitude b * 1 ≤ magnitude a * unitsPerOne := by
    rw [Nat.mul_one]
    exact Nat.mul_le_mul_left _ most
  have smaller := nearestRank_mono unitsPerOne_pos Nat.one_pos cross
  rw [nearestRank_magnitude] at smaller
  have bound := Nat.le_of_lt_succ a.isLt
  have product : num false a * num negative b =
      num (false != negative) (nearestRank (magnitude a * magnitude b) unitsPerOne) :=
    if_neg (not_or.2 ⟨finite, finite'⟩)
  rw [product, floor?, units?_num (by omega)]
  exact ⟨_, rfl⟩

def lastBinade : Rank := ⟨2046 * binade, by decide +kernel⟩

theorem magnitude_lastBinade : magnitude lastBinade = Nat.pow 2 1023 * unitsPerOne := by
  decide +kernel

theorem ofInt?_natCast (size : Nat) :
    ofInt? size =
      if (nearestRank (size * unitsPerOne) 1).val = infiniteRank then none
      else some (ofRatio false size 1) := by
  have positive : decide ((size : Int) < 0) = false := by simp
  rw [ofInt?, Int.natAbs_natCast, positive]
  rfl

/-- A size is converted to a finite number. -/
theorem finite_of_lt {size : Nat} (small : size < Nat.pow 2 1023) :
    (nearestRank (size * unitsPerOne) 1).val ≠ infiniteRank := by
  have smaller := nearestRank_mono_right 1
    (Nat.mul_le_mul_right unitsPerOne (Nat.le_of_lt small))
  rw [← magnitude_lastBinade, nearestRank_magnitude] at smaller
  have below : lastBinade.val < infiniteRank := by decide +kernel
  omega

end Binary64

namespace Share

/-- What the product of a size and the share is rounded down to.  The product is one of integers if the
share is one, and otherwise one of floating-point numbers, to which the size is converted first. -/
inductive Floors (share : Share) (size : Nat) : Int → Prop where
  | exact {i : Int} (number : share.number = .int i) : Floors share size (size * i)
  | rounded {x y : Binary64} {count : Int} (number : share.number = .real x)
      (converted : Binary64.ofInt? size = some y) (floored : (y * x).floor? = some count) :
      Floors share size count

/-- A product with a share has a greatest integer below it, if the size can be converted. -/
theorem floors_countOf (share : Share) {size : Nat} (small : size < Nat.pow 2 1023) :
    Floors share size (share.countOf size) := by
  have least := share.least
  have most := share.most
  cases number : share.number with
  | int i =>
    rw [countOf_int number]
    exact .exact number
  | real x =>
    rw [number] at least most
    cases x with
    | nan => cases least
    | num negative rank =>
      obtain ⟨finite, fraction⟩ := Binary64.finite_of_share least most
      have finite' := Binary64.finite_of_lt small
      obtain ⟨count, floored⟩ := Binary64.floor?_mul_share negative finite' finite fraction
      rw [countOf_real number, Binary64.ofRatio, floored]
      exact .rounded number ((Binary64.ofInt?_natCast size).trans (if_neg finite')) floored

/-- The floor is what removal counts. -/
theorem countOf_eq_of_floors {share : Share} {size : Nat} {count : Int}
    (floors : Floors share size count) : share.countOf size = count := by
  cases floors with
  | exact number => exact countOf_int number size
  | rounded number converted floored =>
    rw [Binary64.ofInt?_natCast] at converted
    split at converted
    · cases converted
    · cases converted
      rw [countOf_real number, floored]
      rfl

def half : Share := ⟨.real (.ofRatio false 1 2), by decide +kernel, by decide +kernel⟩

end Share

/-! ## What removal does -/

namespace Selection

variable {s : Selection n}

theorem order_append_dropNewest (s : Selection n) (count : Int) :
    (s.dropNewest count).2.order ++ (s.dropNewest count).1 = s.order :=
  List.take_append_drop _ _

/-- What was dropped was selected before. -/
theorem Sound.not_mem_remaining_of_dropped (sound : s.Sound) {count : Int} {position : Fin n}
    (dropped : position ∈ (s.dropNewest count).1) : position ∉ s.remaining := by
  rw [sound.mem_remaining_iff, not_not, ← s.order_append_dropNewest count]
  exact List.mem_append_right _ dropped

/-- Besides what remained before, what was dropped remains. -/
theorem Sound.remaining_dropNewest (sound : s.Sound) (count : Int) :
    (s.dropNewest count).2.remaining =
      (List.finRange n).filter fun position =>
        s.remaining.contains position || (s.dropNewest count).1.contains position := by
  have nodup := sound.nodup
  rw [← s.order_append_dropNewest count, List.nodup_append] at nodup
  rw [(sound.dropNewest count).remaining_eq]
  apply List.filter_congr
  intro position _
  have remains : position ∈ s.remaining ↔ position ∉ s.order := sound.mem_remaining_iff
  rw [← s.order_append_dropNewest count, List.mem_append, not_or] at remains
  rw [Bool.eq_iff_iff, Bool.not_eq_true', ← Bool.not_eq_true, List.contains_iff_mem, Bool.or_eq_true,
    List.contains_iff_mem, List.contains_iff_mem, remains]
  constructor
  · intro absent
    by_cases dropped : position ∈ (s.dropNewest count).1
    · exact .inr dropped
    · exact .inl ⟨absent, dropped⟩
  · -- Nobody is both kept and dropped.
    rintro (⟨absent, _⟩ | dropped)
    · exact absent
    · exact fun kept => nodup.2.2 _ kept _ dropped rfl

end Selection

namespace Scene

variable {scene : Scene σ δ α n} {s t : Stage σ n} {removed : List (Fin n)}

/-- Removal by a share ends at `t` and answers `removed`, whatever could be asked.  It splits the selection
into what stays, as much as the product of size and share leaves and the clamp demands, and what it answers;
exactly the latter remains again, and nothing is asked or drawn. -/
structure Trims (scene : Scene σ δ α n) (share : Share) (s : Stage σ n) (removed : List (Fin n))
    (t : Stage σ n) : Prop where
  completes : ∀ problem : Problem σ δ α n, { scene with problem }.removal.Completes s removed t
  split : t.run.selection.order ++ removed = s.run.selection.order
  floors : s.run.selection.size < Nat.pow 2 1023 →
    ∃ count, share.Floors s.run.selection.size count
  size : ∀ count, share.Floors s.run.selection.size count →
    (t.run.selection.size : Int) =
      max (min (s.run.selection.size : Int) 2) (s.run.selection.size - count)
  sound : t.run.selection.Sound
  remaining : t.run.selection.remaining =
    (List.finRange n).filter fun position =>
      s.run.selection.remaining.contains position || removed.contains position
  apart : ∀ position ∈ removed, position ∉ s.run.selection.remaining
  caller : t.caller = s.caller
  generator : t.generator = s.generator
  scoreCalls : t.run.scoreCalls = s.run.scoreCalls
  feasibilityCalls : t.run.feasibilityCalls = s.run.feasibilityCalls

/-- Removal trims every selection by every share that passes the check of settings. -/
theorem removal_trims (scene : Scene σ δ α n) {share : Share} (sound : s.run.selection.Sound)
    (checked : Settings.checkBeta s.run.config.beta = .ok share) :
    ∃ removed t, Trims scene share s removed t := by
  have counted := Settings.countOf_of_checkBeta checked s.run.selection.size
  refine ⟨_, scene.noted (recordOf .removal s.run (trimmed _ s).run 0) (trimmed _ s),
    fun problem => completes_removal.2 ⟨_, counted, rfl, rfl⟩, ?_, ?_, ?_, ?_, ?_, ?_,
    rfl, rfl, rfl, rfl⟩
  · exact s.run.selection.order_append_dropNewest _
  · intro small
    exact ⟨_, Share.floors_countOf _ small⟩
  · intro count floors
    rw [← Share.countOf_eq_of_floors floors]
    exact size_trimmed share s
  · exact sound.dropNewest _
  · exact sound.remaining_dropNewest _
  · exact fun position dropped => sound.not_mem_remaining_of_dropped dropped

def halving : Stage Unit 5 :=
  let s := Stage.holding .minimize [2, 0, 3, 1, 4]
  { s with run := { s.run with config := { s.run.config with beta := Share.half.number.toValue } } }

/-- Of five members a half is two. -/
theorem removal_trims_of_five_numbers :
    let scene := (Solver.plain 5).scene (.ofTable 4 (fun _ => true) []) .itself
    halving.run.selection.Sound ∧ Settings.checkBeta halving.run.config.beta = .ok .half ∧
      ∃ t, Trims scene .half halving [1, 4] t ∧ t.run.selection.order = [2, 0, 3] := by
  intro scene
  have sound : halving.run.selection.Sound := Selection.sound_holding (by decide)
  have checked : Settings.checkBeta halving.run.config.beta = .ok .half :=
    Settings.checkBeta_toValue .half
  obtain ⟨removed, t, trims⟩ := removal_trims scene sound checked
  have answered : (scene.removal.perform halving).1.toOption = some [1, 4] := by decide +kernel
  have completed : scene.removal.perform halving = (.ok removed, t) := trims.completes scene.problem
  rw [completed] at answered
  obtain rfl : removed = [1, 4] := Option.some.inj answered
  have order : t.run.selection.order ++ [1, 4] = [2, 0, 3] ++ [1, 4] := trims.split
  exact ⟨sound, checked, t, trims, List.append_cancel_right order⟩

end Scene

end Carousel
