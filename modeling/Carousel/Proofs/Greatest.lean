import Carousel.Proofs.Best
import Carousel.Proofs.Order
import Carousel.Proofs.Ties

/-!
# The greatest scores

The scores of one sweep count as numbers: as they are if all are integers, and otherwise as what they
are rounded to.  The places at which a greatest number stands are told by the order of exact values
alone, and a choice among candidates is a choice among these places.
-/

namespace Carousel

open Draw (Generator)

variable {γ : Type}

/-! ## What scores count as -/

/-- The number that a score counts as beside one that is no integer.  Not-a-number and a missing score
count as negative infinity. -/
inductive Score.Reads : Score → Binary64 → Prop where
  | missing : Reads .absent (.infinity true)
  | undefined {score : Score} (converted : score.toBinary64 = .ok .nan) :
      Reads score (.infinity true)
  | number {score : Score} {negative : Bool} {rank : Rank}
      (converted : score.toBinary64 = .ok (.num negative rank)) : Reads score (.num negative rank)

/-- The numbers that the scores of one sweep count as: integers exactly if all are integers or truth
values, and else what each of them is rounded to. -/
inductive Score.Counted : List Score → List Number → Prop where
  | exact {scores : List Score} {integers : List Int}
      (all : List.Forall₂ (fun score i => Column.integer? score = some i) scores integers) :
      Counted scores (integers.map .int)
  | rounded {scores : List Score} {numbers : List Binary64}
      (mixed : ∃ score ∈ scores, Column.integer? score = none)
      (reads : List.Forall₂ Reads scores numbers) : Counted scores (numbers.map .real)

open Score (Reads Counted)

theorem Score.Counted.length_eq {scores : List Score} {values : List Number}
    (counted : Counted scores values) : values.length = scores.length := by
  cases counted with
  | exact all => rw [List.length_map, all.length_eq]
  | rounded _ reads => rw [List.length_map, reads.length_eq]

/-- The places of the numbers that none surpasses, in order. -/
def summit (values : List Number) : List Nat :=
  (List.range values.length).filter fun place =>
    (values[place]?).any fun value => values.all (·.le value)

theorem mem_summit {values : List Number} {place : Nat} :
    place ∈ summit values ↔
      ∃ value, values[place]? = some value ∧ ∀ other ∈ values, other.le value = true := by
  simp only [summit, List.mem_filter, List.mem_range, Option.any_eq_true, List.all_eq_true]
  constructor
  · rintro ⟨_, value, found, greatest⟩
    exact ⟨value, found, greatest⟩
  · rintro ⟨value, found, greatest⟩
    exact ⟨(List.getElem?_eq_some_iff.1 found).1, value, found, greatest⟩

/-! ## Conversions -/

theorem mapM_integer?_eq_some {scores : List Score} {integers : List Int} :
    scores.mapM Column.integer? = some integers ↔
      List.Forall₂ (fun score i => Column.integer? score = some i) scores integers := by
  induction scores generalizing integers with
  | nil => cases integers <;> simp
  | cons score scores ih =>
    simp only [List.mapM_cons, Option.bind_eq_bind, Option.bind_eq_some_iff, ih]
    constructor
    · rintro ⟨i, first, rest, later, same⟩
      cases same
      exact .cons first later
    · intro all
      cases all with
      | cons first later => exact ⟨_, first, _, later, rfl⟩

theorem mapM_integer?_eq_none {scores : List Score} :
    scores.mapM Column.integer? = none ↔ ∃ score ∈ scores, Column.integer? score = none := by
  induction scores with
  | nil => simp
  | cons score scores ih =>
    rw [List.mapM_cons, List.exists_mem_cons_iff, ← ih]
    cases first : Column.integer? score <;> cases rest : scores.mapM Column.integer? <;> simp

theorem rating_of_converted {score : Score} {x : Binary64}
    (converted : score.toBinary64 = .ok x) : Column.rating score = .ok x.rankable := by
  unfold Column.rating
  split
  · cases converted
  · rw [converted]
    rfl

theorem rating_eq_ok {score : Score} {x : Binary64} :
    Column.rating score = .ok x ↔ Reads score x := by
  constructor
  · intro rated
    unfold Column.rating at rated
    split at rated
    · cases rated
      exact .missing
    · obtain ⟨y, converted, rated⟩ := bind_eq_ok.1 rated
      cases rated
      cases y with
      | nan => exact .undefined converted
      | num negative rank => exact .number converted
  · intro reads
    cases reads with
    | missing => rfl
    | undefined converted => exact rating_of_converted converted
    | number converted => exact rating_of_converted converted

theorem mapM_rating_eq_ok {scores : List Score} {numbers : List Binary64} :
    scores.mapM Column.rating = .ok numbers ↔ List.Forall₂ Reads scores numbers := by
  induction scores generalizing numbers with
  | nil => cases numbers <;> simp [pure, Except.pure]
  | cons score scores ih =>
    rw [List.mapM_cons]
    constructor
    · intro rated
      obtain ⟨x, first, rated⟩ := bind_eq_ok.1 rated
      obtain ⟨rest, later, rated⟩ := bind_eq_ok.1 rated
      cases rated
      exact .cons (rating_eq_ok.1 first) (ih.1 later)
    · intro reads
      cases reads with
      | cons first later =>
        exact bind_eq_ok.2 ⟨_, rating_eq_ok.2 first, bind_eq_ok.2 ⟨_, ih.2 later, rfl⟩⟩

/-- Scores that count as numbers are no sequences. -/
theorem scalars_of_reads {scores : List Score} {numbers : List Binary64}
    (reads : List.Forall₂ Reads scores numbers) :
    ∃ scalars : List Scalar, scores = scalars.map .scalar := by
  induction reads with
  | nil => exact ⟨[], rfl⟩
  | @cons score x _ _ first _ ih =>
    obtain ⟨scalars, rfl⟩ := ih
    have plain {y : Binary64} (converted : score.toBinary64 = .ok y) :
        ∃ scalar, score = .scalar scalar := by
      cases score with
      | scalar scalar => exact ⟨scalar, rfl⟩
      | _ => cases converted
    have single : ∃ scalar, score = .scalar scalar := by
      cases first with
      | missing => exact ⟨_, rfl⟩
      | undefined converted => exact plain converted
      | number converted => exact plain converted
    obtain ⟨scalar, rfl⟩ := single
    exact ⟨scalar :: scalars, rfl⟩

theorem rankable_of_reads {scores : List Score} {numbers : List Binary64}
    (reads : List.Forall₂ Reads scores numbers) : ∀ x ∈ numbers, x.rankable = x := by
  induction reads with
  | nil => simp
  | cons first _ ih =>
    refine List.forall_mem_cons.2 ⟨?_, ih⟩
    cases first <;> rfl

/-! ## The column of the scores -/

def Number.key : Number → Int
  | int i => i
  | real x => x.rankKey

/-- Scores that count as numbers make a column that has the keys of these. -/
theorem ofScores_of_counted {scores : List Score} {values : List Number}
    (counted : Counted scores values) :
    ∃ column : Column, Column.ofScores scores = .ok column ∧
      column.keys = values.map Number.key := by
  cases counted with
  | @exact integers all =>
    refine ⟨.exact integers, by rw [Column.ofScores, mapM_integer?_eq_some.2 all], ?_⟩
    rw [List.map_map]
    exact (List.map_id integers).symm
  | @rounded numbers mixed reads =>
    refine ⟨.rounded numbers, ?_, ?_⟩
    · have rated := mapM_rating_eq_ok.2 reads
      obtain ⟨scalars, rfl⟩ := scalars_of_reads reads
      rw [Column.ofScores, mapM_integer?_eq_none.2 mixed, Value.commonExtent_map_scalar,
        Value.leavesOfAll_map_scalar, rated]
      rfl
    · rw [List.map_map]
      rfl

/-- The numbers of one sweep are ordered by their keys. -/
theorem le_iff_key_le {scores : List Score} {values : List Number}
    (counted : Counted scores values) {x y : Number} (left : x ∈ values) (right : y ∈ values) :
    x.le y = true ↔ x.key ≤ y.key := by
  cases counted with
  | exact =>
    obtain ⟨i, _, rfl⟩ := List.mem_map.1 left
    obtain ⟨j, _, rfl⟩ := List.mem_map.1 right
    exact Number.int_le i j
  | rounded _ reads =>
    obtain ⟨x, read, rfl⟩ := List.mem_map.1 left
    obtain ⟨y, read', rfl⟩ := List.mem_map.1 right
    have ordered := Binary64.rankable_le x y
    rwa [rankable_of_reads reads x read, rankable_of_reads reads y read'] at ordered

/-! ## The places of a column -/

namespace Column

variable {column : Column}

theorem tied_map_candidates {δ : Type} (f : γ → δ) (candidates : List γ) :
    column.tied (candidates.map f) = (column.tied candidates).map f := by
  unfold tied
  split
  · rfl
  · rw [List.zip_map_left, List.filter_map, List.map_map, List.map_map]
    rfl

/-- A number of a sweep is greatest if its key is the best entry. -/
theorem key_eq_best_iff {scores : List Score} {values : List Number} {value : Number} {best : Int}
    (counted : Counted scores values) (keys : column.keys = values.map Number.key)
    (found : column.best? = some best) (member : value ∈ values) :
    value.key = best ↔ ∀ other ∈ values, other.le value = true := by
  obtain ⟨reached, bound⟩ := List.max?_eq_some_iff.1 found
  rw [keys] at reached bound
  constructor
  · rintro rfl other inside
    exact (le_iff_key_le counted inside member).2 (bound _ (List.mem_map_of_mem inside))
  · intro greatest
    obtain ⟨top, inside, rfl⟩ := List.mem_map.1 reached
    have below := (le_iff_key_le counted inside member).1 (greatest top inside)
    have above := bound _ (List.mem_map_of_mem member)
    omega

theorem zip_range (keys : List Int) :
    (List.range keys.length).zip keys =
      (List.range keys.length).map fun place => (place, keys.getD place 0) := by
  refine List.ext_getElem (by simp) fun place inside _ => ?_
  have within : place < keys.length := by simpa using inside
  simp [List.getD, within]

theorem tied_range {scores : List Score} {values : List Number}
    (counted : Counted scores values) (keys : column.keys = values.map Number.key) :
    column.tied (List.range values.length) = summit values := by
  unfold tied
  split
  · rename_i nothing
    have empty : values = [] := by
      have keyless := List.max?_eq_none_iff.1 nothing
      rwa [keys, List.map_eq_nil_iff] at keyless
    rw [empty]
    rfl
  · rename_i best found
    have entries := zip_range column.keys
    rw [show column.keys.length = values.length by rw [keys, List.length_map]] at entries
    rw [entries, List.filter_map, List.map_map]
    show ((List.range values.length).filter fun place => column.keys.getD place 0 == best).map id = _
    rw [List.map_id, summit]
    apply List.filter_congr
    intro place inside
    have inside : place < values.length := List.mem_range.1 inside
    have itself : column.keys.getD place 0 = values[place].key := by
      simp [keys, List.getD, inside]
    rw [itself, List.getElem?_eq_getElem inside, Option.any_some, Bool.eq_iff_iff, beq_iff_eq,
      key_eq_best_iff counted keys found (List.getElem_mem inside), List.all_eq_true]

end Column

/-! ## The choice -/

variable {random : Bool} {candidates : List γ} {scores : List Score} {values : List Number}

theorem pick_map {δ : Type} (f : γ → δ) (tied : List γ) (g : Generator) :
    pick random (tied.map f) g = ((pick random tied g).1.map f, (pick random tied g).2) := by
  unfold pick
  rw [List.length_map]
  split
  · simp
  · simp

/-- A choice by scores that count as numbers is a choice of a place where a greatest one stands. -/
theorem chooseBest_of_counted (g : Generator) (nonempty : candidates ≠ [])
    (counted : Counted scores values) (aligned : values.length = candidates.length) :
    chooseBest random candidates scores g =
      .ok ((pick random (summit values) g).1.bind (candidates[·]?),
        (pick random (summit values) g).2) := by
  obtain ⟨column, made, keys⟩ := ofScores_of_counted counted
  have length : column.keys.length = candidates.length := by rw [keys, List.length_map, aligned]
  -- The tied candidates stand at the tied places.
  have located : candidates.map some = (List.range values.length).map (candidates[·]?) := by
    refine List.ext_getElem (by simp [aligned]) fun place inside _ => ?_
    rw [List.length_map] at inside
    simp [inside]
  have tied : (column.tied candidates).map some = (summit values).map (candidates[·]?) := by
    rw [← Column.tied_map_candidates, located, Column.tied_map_candidates,
      Column.tied_range counted keys]
  have picked := congrArg (pick random · g) tied
  simp only [pick_map, Prod.mk.injEq] at picked
  have notEmpty : candidates.isEmpty = false := by simpa using nonempty
  rw [chooseBest, notEmpty, made]
  simp only [bind, Except.bind, Bool.false_eq_true, if_false, length, if_true]
  have chosen : (pick random (column.tied candidates) g).1 =
      (pick random (summit values) g).1.bind (candidates[·]?) := by
    simpa [Option.bind_map] using congrArg (Option.bind · id) picked.1
  rw [← chosen, ← picked.2]
  rfl

theorem summit_lt {place : Nat} (member : place ∈ summit values) : place < values.length := by
  obtain ⟨value, found, _⟩ := mem_summit.1 member
  exact (List.getElem?_eq_some_iff.1 found).1

/-- Some number of a sweep is greatest, since all of them can be compared. -/
theorem summit_ne_nil (nonempty : candidates ≠ []) (counted : Counted scores values)
    (aligned : values.length = candidates.length) : summit values ≠ [] := by
  obtain ⟨column, _, keys⟩ := ofScores_of_counted counted
  have length : column.keys.length = (List.range values.length).length := by
    rw [keys, List.length_map, List.length_range]
  have several : List.range values.length ≠ [] := by
    rw [aligned]
    simpa using nonempty
  rw [← Column.tied_range counted keys]
  exact Column.tied_ne_nil length several

/-- A score that is a scalar counts as a number, or its conversion is at fault. -/
theorem counted_or_refused (scalars : List Scalar) :
    (∃ values, Counted (scalars.map .scalar) values) ∨
      ∃ fault, Column.ofScores (scalars.map .scalar) = .error fault := by
  cases integral : (scalars.map Value.scalar).mapM Column.integer? with
  | some integers => exact .inl ⟨_, .exact (mapM_integer?_eq_some.1 integral)⟩
  | none =>
    cases rated : (scalars.map Value.scalar).mapM Column.rating with
    | ok numbers =>
      exact .inl ⟨_, .rounded (mapM_integer?_eq_none.1 integral) (mapM_rating_eq_ok.1 rated)⟩
    | error fault =>
      refine .inr ⟨fault, ?_⟩
      rw [Column.ofScores, integral, Value.commonExtent_map_scalar,
        Value.leavesOfAll_map_scalar, rated]
      rfl

end Carousel
