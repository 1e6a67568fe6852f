import Carousel.Proofs.Run.Choice
import Carousel.Proofs.Solver

/-!
# Undefined scores

A missing score and not-a-number have no number of their own and take that of negative infinity.  They
lose against every greater number, and against a genuine negative infinity they can win.
-/

namespace Carousel

open Score (Counted Reads)
open Scene (Scored)

variable {σ δ α : Type} {n : Nat}

/-- The score is missing, or it converts to not-a-number. -/
def Score.IsUndefined (score : Score) : Prop := score = .absent ∨ score.toBinary64 = .ok .nan

/-- Only negative infinity is ranked as low as negative infinity. -/
theorem Binary64.eq_infinity_of_le {x : Binary64} (defined : x.rankable = x)
    (least : x.rankKey ≤ -(infiniteRank : Int)) : x = infinity true := by
  have positive : 0 < infiniteRank := by decide +kernel
  -- A number without a sign has a key that is not negative, and only an infinite one has the least key.
  cases x with
  | nan => cases defined
  | num negative rank =>
    have most := Nat.le_of_lt_succ rank.isLt
    rw [rankKey_num] at least
    cases negative with
    | false =>
      rw [if_neg (by decide)] at least
      omega
    | true =>
      rw [if_pos rfl] at least
      have infinite : rank.val = infiniteRank := by omega
      exact congrArg (num true) (Fin.ext infinite)

theorem integer?_of_undefined {score : Score} (undefined : score.IsUndefined) :
    Column.integer? score = none := by
  rcases undefined with rfl | converted
  · rfl
  · unfold Column.integer?
    split
    · rename_i b
      cases b <;> cases converted
    · rename_i i
      have rounded : orFault .integerTooLarge (Binary64.ofInt? i) = .ok .nan := converted
      unfold Binary64.ofInt? at rounded
      simp only at rounded
      split at rounded <;> cases rounded
    · rfl

theorem eq_infinity_of_reads {score : Score} {x : Binary64} (reads : Reads score x)
    (undefined : score.IsUndefined) : x = .infinity true := by
  cases reads with
  | missing => rfl
  | undefined => rfl
  | number converted =>
    rcases undefined with rfl | lost
    · cases converted
    · cases converted.symm.trans lost

/-- An undefined score counts as negative infinity, whatever is beside it. -/
theorem value_of_undefined {scores : List Score} {values : List Number} {place : Nat}
    {score : Score} (counted : Counted scores values) (found : scores[place]? = some score)
    (undefined : score.IsUndefined) : values[place]? = some (.real (.infinity true)) := by
  obtain ⟨inside, rfl⟩ := List.getElem?_eq_some_iff.1 found
  cases counted with
  | @exact integers all =>
    have integer := all.get inside (all.length_eq ▸ inside)
    cases (integer?_of_undefined undefined).symm.trans integer
  | @rounded numbers _ reads =>
    have inside' : place < numbers.length := reads.length_eq ▸ inside
    have read := eq_infinity_of_reads (reads.get inside inside') undefined
    rw [List.getElem?_map, List.getElem?_eq_getElem inside']
    exact congrArg (fun x => some (Number.real x)) read

/-- Where an undefined score is greatest, all scores count as negative infinity. -/
theorem eq_infinity_of_undefined {scores : List Score} {values : List Number} {place : Nat}
    {score : Score} (counted : Counted scores values) (greatest : place ∈ summit values)
    (found : scores[place]? = some score) (undefined : score.IsUndefined) :
    ∀ value ∈ values, value = .real (.infinity true) := by
  obtain ⟨top, at_place, bound⟩ := mem_summit.1 greatest
  obtain rfl := Option.some.inj (at_place.symm.trans (value_of_undefined counted found undefined))
  have member := List.mem_of_getElem? at_place
  intro value inside
  have below := (le_iff_key_le counted inside member).1 (bound value inside)
  cases counted with
  | exact =>
    obtain ⟨i, _, other⟩ := List.mem_map.1 member
    cases other
  | rounded _ reads =>
    obtain ⟨x, read, rfl⟩ := List.mem_map.1 inside
    rw [Binary64.eq_infinity_of_le (rankable_of_reads reads x read) below]

namespace Scene

variable {scene : Scene σ δ α n} {s m t : Stage σ n} {eligible : List (Fin n)} {scores : List Score}
  {values : List Number} {chosen : Fin n}

/-- If one of the scores counts as more than negative infinity, what is chosen has a score that is
neither missing nor not-a-number. -/
theorem select_defined (scored : Scored scene eligible s scores m) (counted : Counted scores values)
    (above : ∃ value ∈ values, value ≠ .real (.infinity true))
    (selected : (scene.select eligible).Completes s (some chosen) t) :
    ∃ (place : Nat) (score : Score), eligible[place]? = some chosen ∧ scores[place]? = some score ∧
      ¬ score.IsUndefined := by
  obtain ⟨place, greatest, found⟩ := summit_of_select scored counted selected
  have inside := summit_lt greatest
  rw [counted.length_eq] at inside
  have given := List.getElem?_eq_getElem inside
  refine ⟨place, scores[place], found, given, fun undefined => ?_⟩
  obtain ⟨value, member, more⟩ := above
  exact more (eq_infinity_of_undefined counted greatest given undefined value member)

end Scene

/-- Not-a-number, negative infinity, nothing, or a truth value. -/
def Problem.lowScore : Nat → Score
  | 0 => .real .nan
  | 1 => .real (.infinity true)
  | 2 => .absent
  | _ => .bool false

def Problem.lowScores : Problem Unit Unit Nat 4 :=
  { Problem.ofTable 3 (fun _ => true) [] with score := fun _ _ number => pure (lowScore number) }

namespace Scene

def low : Scene Unit Unit Nat 4 := (Solver.plain 4).scene .lowScores .itself

/-- The number with a score of its own wins against all the others. -/
theorem select_defined_of_four_numbers :
    (low.select [0, 1, 2, 3]).Completes (.holding .minimize []) (some 3)
        ((low.select [0, 1, 2, 3]).perform (.holding .minimize [])).2 ∧
      ∃ (place : Nat) (score : Score), [(0 : Fin 4), 1, 2, 3][place]? = some 3 ∧
        ((List.range 4).map Problem.lowScore)[place]? = some score ∧ ¬ score.IsUndefined := by
  have selected : (low.select [0, 1, 2, 3]).Completes (.holding .minimize []) (some 3)
      ((low.select [0, 1, 2, 3]).perform (.holding .minimize [])).2 :=
    Act.completes_of_fst (eq_ok_of_toOption (by decide +kernel))
  have scored : Scored low [0, 1, 2, 3] (.holding .minimize [])
      ((List.range 4).map Problem.lowScore) _ :=
    Act.completes_mapM.1 (Act.completes_of_fst rfl)
  have counted : Counted ((List.range 4).map Problem.lowScore)
      ([.infinity true, .infinity true, .infinity true, .zero].map .real) :=
    .rounded ⟨.real .nan, .head _, rfl⟩
      (.cons (.undefined rfl) (.cons (.number rfl) (.cons .missing (.cons (.number rfl) .nil))))
  have above : ∃ value ∈ [Binary64.infinity true, .infinity true, .infinity true, .zero].map
      Number.real, value ≠ .real (.infinity true) := ⟨.real .zero, by simp, nofun⟩
  exact ⟨selected, select_defined scored counted above selected⟩

/-- Beside a genuine negative infinity, not-a-number is chosen as if it were one. -/
theorem undefined_ties_with_negative_infinity :
    ((low.select [0, 1]).perform (.holding .minimize [])).1.toOption = some (some 0) ∧
      (Problem.lowScore 0).IsUndefined ∧ ¬ (Problem.lowScore 1).IsUndefined := by
  refine ⟨by decide +kernel, .inr rfl, ?_⟩
  rintro (absent | converted)
  · cases absent
  · cases converted

end Scene

end Carousel
