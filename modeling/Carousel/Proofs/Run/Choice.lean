import Carousel.Proofs.Greatest
import Carousel.Proofs.Run.Preference
import Carousel.Proofs.Solver

/-!
# Choices of a stage

Scoring draws nothing, so the generator moves only when a choice is made, and then by one draw and only if
ties are drawn and there is one.  Which candidate is chosen is told by the numbers that the scores count
as; if there are none because a candidate cannot be scored or a score cannot be converted, nothing is
drawn at all.
-/

namespace Carousel

open Score (Counted)

variable {σ δ α : Type} {n : Nat}

namespace Scene

variable {scene : Scene σ δ α n} {s m t : Stage σ n} {eligible : List (Fin n)} {scores : List Score}
  {values : List Number} {fault : Fault}

/-! ## Scoring draws nothing -/

theorem generator_of_rate {selected : List α} {position : Fin n} {answer : Except Fault Score}
    (rated : (scene.rate selected position).perform s = (answer, t)) :
    t.generator = s.generator := by
  have unmoved : ((scene.rate selected position).perform s).2.generator = s.generator := rfl
  rwa [rated] at unmoved

theorem generator_of_sweep {selected : List α}
    (sweep : Act.Sweeps (scene.rate selected) eligible s scores m) :
    m.generator = s.generator := by
  induction sweep with
  | nil => rfl
  | cons first _ ih => exact ih.trans (generator_of_rate first)

theorem generator_of_unscored {selected : List α}
    (failed : (eligible.mapM (scene.rate selected)).Fails s fault t) :
    t.generator = s.generator := by
  obtain ⟨before, position, after, scores, m, _, swept, raised⟩ := Act.fails_mapM.1 failed
  exact (generator_of_rate raised).trans (generator_of_sweep swept)

/-! ## The choice -/

/-- What a choice does.  Without candidates there is none, and nothing happens.  With candidates all of
them are scored first.  If their scores count as numbers, a place is chosen where a greatest of these
stands: the first one, or where ties are drawn and there is one, that of the rank that a single draw
gives.  If a candidate cannot be scored, or the scores cannot be converted, a fault ends the choice, and
nothing is drawn. -/
structure TakesGreatest (scene : Scene σ δ α n) (eligible : List (Fin n)) (s : Stage σ n) : Prop where
  none_iff : ∀ {choice t}, (scene.select eligible).Completes s choice t →
    (choice = none ↔ eligible = [])
  nobody : eligible = [] → (scene.select eligible).Completes s none s
  settled : ∀ {scores values m}, eligible ≠ [] → Scored scene eligible s scores m →
    Counted scores values →
    s.run.config.drawsTies = false ∨ (summit values).length = 1 →
      m.generator = s.generator ∧ ∃ place position, (summit values).head? = some place ∧
        eligible[place]? = some position ∧ (scene.select eligible).Completes s (some position) m
  drawn : ∀ {scores values m}, Scored scene eligible s scores m → Counted scores values →
    s.run.config.drawsTies = true → 1 < (summit values).length →
      let draw := s.generator.below (summit values).length
      draw.1 < (summit values).length ∧ ∃ place position, (summit values)[draw.1]? = some place ∧
        eligible[place]? = some position ∧
        (scene.select eligible).Completes s (some position) { m with generator := draw.2 }
  unscored : ∀ {fault t}, (eligible.mapM (scene.rate
      (scene.problem.candidates.elementsAt s.run.selection.order))).Fails s fault t →
    t.generator = s.generator ∧ (scene.select eligible).Fails s fault t
  unranked : ∀ {scores m fault}, Scored scene eligible s scores m →
    Column.ofScores scores = .error fault →
      m.generator = s.generator ∧ (scene.select eligible).Fails s fault m
  uncounted : ∀ {scores : List Scalar} {m}, Scored scene eligible s (scores.map .scalar) m →
    (∀ values, ¬ Counted (scores.map .scalar) values) →
      m.generator = s.generator ∧ ∃ fault, (scene.select eligible).Fails s fault m

/-- The candidate at a place where a greatest number stands. -/
theorem position_of_summit {place : Nat} (scored : Scored scene eligible s scores m)
    (counted : Counted scores values) (member : place ∈ summit values) :
    ∃ position, eligible[place]? = some position := by
  have inside := summit_lt member
  rw [counted.length_eq, scored.length_eq] at inside
  exact ⟨_, List.getElem?_eq_getElem inside⟩

/-- A choice by scores that count as numbers picks one of the places where a greatest stands. -/
theorem completes_of_counted {position : Fin n} {place : Nat} {generator : Draw.Generator}
    (scored : Scored scene eligible s scores m) (counted : Counted scores values)
    (picked : pick s.run.config.drawsTies (summit values) s.generator =
      (some place, generator))
    (found : eligible[place]? = some position) :
    (scene.select eligible).Completes s (some position) { m with generator } := by
  have nonempty : eligible ≠ [] := List.ne_nil_of_mem (List.mem_of_getElem? found)
  have aligned : values.length = eligible.length := by
    rw [counted.length_eq, scored.length_eq]
  refine completes_select.2 ⟨scores, m, generator, scored, ?_, rfl⟩
  rw [(asked_of_scored scored).config, generator_of_sweep scored,
    chooseBest_of_counted _ nonempty counted aligned, picked, Option.bind_some, found]

theorem fails_of_unranked (scored : Scored scene eligible s scores m)
    (refused : Column.ofScores scores = .error fault) :
    (scene.select eligible).Fails s fault m := by
  have nonempty : eligible.isEmpty = false := by
    cases eligible with
    | nil =>
      obtain rfl : scores = [] := by simpa using scored.length_eq
      cases refused
    | cons _ _ => rfl
  refine fails_select.2 (.unranked scored ?_)
  rw [chooseBest, nonempty, refused]
  rfl

/-- What is chosen stands at a place where a greatest number stands. -/
theorem summit_of_select {chosen : Fin n} (scored : Scored scene eligible s scores m)
    (counted : Counted scores values)
    (selected : (scene.select eligible).Completes s (some chosen) t) :
    ∃ place ∈ summit values, eligible[place]? = some chosen := by
  have nonempty : eligible ≠ [] := List.ne_nil_of_mem (mem_of_select_some selected)
  have several := summit_ne_nil nonempty counted (counted.length_eq.trans scored.length_eq)
  obtain ⟨place, member, picked⟩ :=
    pick_mem several s.run.config.drawsTies s.generator
  obtain ⟨position, found⟩ := position_of_summit scored counted member
  have completed := completes_of_counted scored counted (Prod.ext picked rfl) found
  obtain rfl : chosen = position := Option.some.inj (selected.unique completed).1
  exact ⟨place, member, found⟩

theorem select_takesGreatest (scene : Scene σ δ α n) (eligible : List (Fin n)) (s : Stage σ n) :
    TakesGreatest scene eligible s where
  none_iff selected := by
    constructor
    · rintro rfl
      exact eq_nil_of_select_none selected
    · rintro rfl
      exact (select_nil.1 selected).1
  nobody empty := by
    rw [empty]
    exact select_nil.2 ⟨rfl, rfl⟩
  settled nonempty scored counted settled := by
    have unmoved := generator_of_sweep scored
    have aligned := counted.length_eq.trans scored.length_eq
    have several := summit_ne_nil nonempty counted aligned
    have first := List.head?_eq_some_head several
    obtain ⟨position, found⟩ := position_of_summit scored counted (List.head_mem several)
    -- The scores leave the generator alone, and so does a choice that is not contested.
    have picked := pick_of_settled s.generator (settled.imp id Nat.le_of_eq)
    rw [first] at picked
    have completed := completes_of_counted scored counted picked found
    rw [← unmoved] at completed
    exact ⟨unmoved, _, position, first, found, completed⟩
  drawn {scores values m} scored counted random several := by
    have below := Draw.Generator.below_lt (Nat.lt_of_succ_lt several) s.generator
    have ranked := List.getElem?_eq_getElem below
    obtain ⟨position, found⟩ := position_of_summit scored counted (List.getElem_mem below)
    refine ⟨below, _, position, ranked, found, ?_⟩
    refine completes_of_counted scored counted ?_ found
    rw [pick, if_pos ⟨random, several⟩]
    exact congrArg (·, _) ranked
  unscored {fault t} failed := by
    refine ⟨generator_of_unscored failed, fails_select.2 ?_⟩
    obtain ⟨before, position, after, scores, m, split, swept, raised⟩ := Act.fails_mapM.1 failed
    exact .unscored split swept raised
  unranked scored refused := ⟨generator_of_sweep scored, fails_of_unranked scored refused⟩
  uncounted {scalars m} scored uncounted := by
    rcases counted_or_refused scalars with ⟨values, counted⟩ | ⟨fault, refused⟩
    · exact absurd counted (uncounted values)
    · exact ⟨generator_of_sweep scored, fault, fails_of_unranked scored refused⟩

def drawing : Stage Unit 3 :=
  let s := Stage.holding .minimize []
  { s with run := { s.run with config := { s.run.config with randomTieBreak := .bool true } } }

/-- Of three numbers with equal scores one is drawn. -/
theorem takesGreatest_of_three_ties :
    let scene := (Solver.plain 3).scene .anyTwo .itself
    let zeros : List Number := [.int 0, .int 0, .int 0]
    summit zeros = [0, 1, 2] ∧ (drawing.generator.below 3).2 ≠ drawing.generator ∧
      ∃ m position, Scored scene [0, 1, 2] drawing [.int 0, .int 0, .int 0] m ∧
        (scene.select [0, 1, 2]).Completes drawing (some position)
          { m with generator := (drawing.generator.below 3).2 } := by
  intro scene zeros
  have tied : summit zeros = [0, 1, 2] := by decide +kernel
  have scored : Scored scene [0, 1, 2] drawing [.int 0, .int 0, .int 0] _ :=
    Act.completes_mapM.1 (Act.completes_of_fst rfl)
  have counted : Counted [.int 0, .int 0, .int 0] zeros :=
    .exact (.cons rfl (.cons rfl (.cons rfl .nil)))
  have several : 1 < (summit zeros).length := by
    rw [tied]
    decide
  obtain ⟨_, _, position, _, _, completed⟩ :=
    (select_takesGreatest scene [0, 1, 2] drawing).drawn scored counted rfl several
  rw [tied] at completed
  exact ⟨tied, by decide +kernel, _, position, scored, completed⟩

end Scene

end Carousel
