import Mathlib.Data.List.Nodup
import Carousel.Proofs.Except
import Carousel.Score

/-!
# Ties

A choice goes by chance only where several entries reach the best score.  Elsewhere the way of breaking
ties makes no difference, and the generator is left alone.
-/

namespace Carousel

open Draw (Generator)

variable {γ : Type}

namespace Column

def winners (column : Column) : Nat := column.keys.countP fun key => column.best? == some key

theorem length_tied {column : Column} {candidates : List γ}
    (aligned : column.keys.length = candidates.length) :
    (column.tied candidates).length = column.winners := by
  unfold tied winners
  cases found : column.best? with
  | none =>
    have empty : column.keys = [] := List.max?_eq_none_iff.1 found
    simp [empty]
  | some best =>
    have keys : (candidates.zip column.keys).map Prod.snd = column.keys :=
      List.map_snd_zip (by omega)
    calc (((candidates.zip column.keys).filter fun entry => entry.2 == best).map Prod.fst).length
      _ = (candidates.zip column.keys).countP ((some best == some ·) ∘ Prod.snd) := by
        rw [List.length_map, ← List.countP_eq_length_filter]
        apply List.countP_congr
        intro entry _
        simp only [Function.comp_apply, beq_iff_eq, Option.some.injEq]
        exact eq_comm
      _ = ((candidates.zip column.keys).map Prod.snd).countP (some best == some ·) :=
        List.countP_map.symm
      _ = column.keys.countP (some best == some ·) := by rw [keys]

theorem length_tiedPlaces {column : Column} {places : List Nat}
    (found : column.tiedPlaces = .ok places) : places.length = column.winners := by
  unfold tiedPlaces at found
  split at found
  · cases found
  · cases found
    exact length_tied (List.length_range).symm

end Column

/-- Two or more of the scores reach the best one. -/
def Contested (scores : List Score) : Prop :=
  ∃ column, Column.ofScores scores = .ok column ∧ 1 < column.winners

/-- Different integers never tie. -/
theorem not_contested_of_nodup {scores : List Score} {keys : List Int}
    (integers : scores.mapM Column.integer? = some keys) (distinct : keys.Nodup) :
    ¬ Contested scores := by
  intro ⟨column, made, several⟩
  have exact' : column = .exact keys := by
    rw [Column.ofScores, integers] at made
    exact (Except.ok.inj made).symm
  subst exact'
  unfold Column.winners at several
  cases found : (Column.exact keys).best? with
  | none => simp [found] at several
  | some best =>
    -- A best key without a second one leaves a single winner.
    have once : keys.count best ≤ 1 := List.nodup_iff_count_le_one.1 distinct best
    have counted : (keys.countP fun key => some best == some key) = keys.count best := by
      apply List.countP_congr
      intro key _
      simp only [beq_iff_eq, Option.some.injEq]
      exact eq_comm
    rw [found] at several
    have several : 1 < keys.countP fun key => some best == some key := several
    omega

theorem pick_of_settled {random : Bool} {tied : List γ} (g : Generator)
    (settled : random = false ∨ tied.length ≤ 1) : pick random tied g = (tied.head?, g) := by
  unfold pick
  apply if_neg
  rintro ⟨rfl, several⟩
  rcases settled with off | few
  · cases off
  · omega

/-- Where ties are not drawn, or where there is none, every generator leads to the same choice and is
left alone. -/
theorem chooseBest_of_settled {random : Bool} {candidates : List γ} {scores : List Score}
    (settled : random = false ∨ ¬ Contested scores) (g h : Generator) :
    chooseBest random candidates scores g =
      (chooseBest false candidates scores h).map fun found => (found.1, g) := by
  unfold chooseBest
  split
  · rfl
  cases made : Column.ofScores scores with
  | error fault => rfl
  | ok column =>
    -- Both ways of listing the tied ones list as many as the column has winners.
    have few {δ : Type} {tied : List δ} (counted : tied.length = column.winners) :
        random = false ∨ tied.length ≤ 1 := by
      apply settled.imp id
      intro uncontested
      apply Nat.le_of_not_lt
      intro several
      exact uncontested ⟨column, made, counted ▸ several⟩
    simp only [bind, Except.bind]
    split
    · rename_i aligned
      have counted := Column.length_tied aligned
      rw [pick_of_settled g (few counted), pick_of_settled h (.inl rfl)]
      rfl
    · cases found : column.tiedPlaces with
      | error fault => rfl
      | ok places =>
        have counted := Column.length_tiedPlaces found
        simp only [pick_of_settled g (few counted), pick_of_settled h (.inl rfl)]
        cases places.head?.bind (candidates[·]?) with
        | none => rfl
        | some candidate => rfl

end Carousel
