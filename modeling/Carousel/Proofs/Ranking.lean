import Mathlib
import Carousel.Proofs.Session
import Carousel.Proofs.Solver

/-!
# Only the ranking of integer scores matters

Integer scores are compared exactly, so an increasing function of them reaches its greatest value at
the same candidates.  With scores that are changed by such a function every selection chooses among
the same ties, draws as often and from as many, and so no call can tell the difference.
-/

namespace Carousel

variable {σ δ α γ : Type} {n : Nat} {f : Int → Int} {integers : List Int} {score score' : Score}
  {scores scores' : List Score}

/-- Both scores are integers, and `f` takes the first one to the second. -/
def Score.Shifted (f : Int → Int) (score score' : Score) : Prop :=
  ∃ i, Column.integer? score = some i ∧ Column.integer? score' = some (f i)

/-! ## Ties -/

namespace Column

theorem best?_map (increasing : StrictMono f) (integers : List Int) :
    (exact (integers.map f)).best? = (exact integers).best?.map f := by
  show (integers.map f).max? = integers.max?.map f
  cases greatest : integers.max? with
  | none =>
    rw [List.max?_eq_none_iff] at greatest
    rw [greatest]
    rfl
  | some best =>
    obtain ⟨member, bound⟩ := List.max?_eq_some_iff.1 greatest
    refine List.max?_eq_some_iff.2 ⟨List.mem_map_of_mem member, fun value moved => ?_⟩
    obtain ⟨i, inside, rfl⟩ := List.mem_map.1 moved
    exact increasing.monotone (bound i inside)

/-- An increasing function neither loses a tie nor makes a new one. -/
theorem tied_map (increasing : StrictMono f) (integers : List Int) (candidates : List γ) :
    (exact (integers.map f)).tied candidates = (exact integers).tied candidates := by
  rw [tied, tied, best?_map increasing]
  cases (exact integers).best? with
  | none => rfl
  | some best =>
    show ((candidates.zip (integers.map f)).filter fun entry => entry.2 == f best).map Prod.fst =
      ((candidates.zip integers).filter fun entry => entry.2 == best).map Prod.fst
    have reaches : (fun entry : γ × Int => entry.2 == f best) ∘ Prod.map id f =
        fun entry => entry.2 == best := by
      funext entry
      simp [increasing.injective.eq_iff]
    rw [List.zip_map_right, List.filter_map, reaches, List.map_map]
    rfl

theorem tiedPlaces_map (increasing : StrictMono f) (integers : List Int) :
    (exact (integers.map f)).tiedPlaces = (exact integers).tiedPlaces := by
  rw [tiedPlaces, tiedPlaces, tied_map increasing]
  simp [keys]

/-- Integer scores make an exact column, and so do their values. -/
theorem ofScores_of_shifted (shifted : List.Forall₂ (Score.Shifted f) scores scores') :
    ∃ integers, ofScores scores = .ok (exact integers) ∧
      ofScores scores' = .ok (exact (integers.map f)) := by
  have found : ∃ integers, scores.mapM integer? = some integers ∧
      scores'.mapM integer? = some (integers.map f) := by
    induction shifted with
    | nil => exact ⟨[], rfl, rfl⟩
    | cons first _ ih =>
      obtain ⟨i, left, right⟩ := first
      obtain ⟨integers, lefts, rights⟩ := ih
      refine ⟨i :: integers, ?_, ?_⟩
      · simp [List.mapM_cons, left, lefts]
      · simp [List.mapM_cons, right, rights]
  obtain ⟨integers, left, right⟩ := found
  exact ⟨integers, by rw [ofScores, left], by rw [ofScores, right]⟩

end Column

theorem chosenAlike_shifted (increasing : StrictMono f) : ChosenAlike n (Score.Shifted f) := by
  intro scores scores' shifted random candidates generator
  obtain ⟨integers, left, right⟩ := Column.ofScores_of_shifted shifted
  have length_eq : (Column.exact (integers.map f)).keys.length =
      (Column.exact integers).keys.length := List.length_map _
  rw [chooseBest, chooseBest, left, right]
  simp only [bind, Except.bind, length_eq, Column.tied_map increasing,
    Column.tiedPlaces_map increasing]

/-! ## Main result -/

/-- The problems differ in their scores alone: those of the left one are integers, and those of the
right one are what `f` makes of them. -/
structure Problem.Rescored (f : Int → Int) (left right : Problem σ δ α n) : Prop where
  candidates : left.candidates = right.candidates
  label : left.label = right.label
  feasible : left.feasible = right.feasible
  score : ∀ view selected candidate,
    Callback.Parallel (Score.Shifted f) Eq (left.score view selected candidate)
      (right.score view selected candidate)

theorem Problem.Rescored.unison {left right : Problem σ δ α n} (increasing : StrictMono f)
    (rescored : left.Rescored f right) :
    left.Unison Eq 0 (fun caller caller' => caller' = caller) right := by
  have corresponds : left.Corresponds (Score.Shifted f) 0 (fun caller caller' => caller' = caller)
      right := by
    constructor
    · rintro view positions _ caller rfl
      rw [rescored.feasible, rescored.candidates, Nat.zero_add]
      exact ⟨.of_eq (fun _ => rfl) rfl, rfl⟩
    · rintro view positions position _ caller rfl
      rw [rescored.candidates, Nat.zero_add]
      obtain ⟨related, after⟩ := rescored.score view (right.candidates.elementsAt positions)
        (right.candidates.element position) rfl
      exact ⟨related, after.symm⟩
  refine corresponds.unison (chosenAlike_shifted increasing) (fun _ => rfl) fun position => ?_
  rw [rescored.label, rescored.candidates]

namespace Session

variable {left right : Problem σ δ α n}

/-- Every call does the same with integer scores and with increasing values of them: it gives the same
answer and the same notices and leaves the same session, so that the remembered solutions, the report
with its counts and its history, the generator and the state of the caller are the same. -/
theorem only_ranking_matters (increasing : StrictMono f) (rescored : left.Rescored f right)
    (s : Session σ δ n) :
    (∀ call, s.perform right call = s.perform left call) ∧
      ∀ calls, s.performAll right calls = s.performAll left calls := by
  have unison := rescored.unison increasing
  constructor
  · intro call
    obtain ⟨answer, after, notices⟩ := perform_through unison s call
    exact Outcome.ext answer after notices
  · intro calls
    obtain ⟨answers, last⟩ := performAll_through unison s calls
    exact Prod.ext answers last

end Session

namespace Problem

def rescored (f : Int → Int) (problem : Problem σ δ α n) : Problem σ δ α n :=
  { problem with
    score := fun view selected candidate => do
      let score ← problem.score view selected candidate
      return (Column.integer? score).elim score fun i => .int (f i) }

/-- If all scores are integers, all of them change. -/
theorem rescored_rescored {problem : Problem σ δ α n} (f : Int → Int)
    (integral : ∀ view selected candidate caller score after,
      (problem.score view selected candidate).perform caller = (.ok score, after) →
        (Column.integer? score).isSome) : problem.Rescored f (problem.rescored f) := by
  refine ⟨rfl, rfl, rfl, ?_⟩
  rintro view selected candidate caller _ rfl
  have performed : ((problem.rescored f).score view selected candidate).perform caller =
      match (problem.score view selected candidate).perform caller with
      | (.ok score, after) => (.ok ((Column.integer? score).elim score fun i => .int (f i)), after)
      | (.error raised, after) => (.error raised, after) := by
    simp only [rescored, Callback.perform, bind, ExceptT.bind, StateT.bind, ExceptT.mk,
      ExceptT.bindCont]
    rcases problem.score view selected candidate caller with ⟨_ | _, _⟩ <;> rfl
  rw [performed]
  cases given : (problem.score view selected candidate).perform caller with
  | mk answer after =>
    cases answer with
    | error raised => exact ⟨.faulted rfl, rfl⟩
    | ok score =>
      obtain ⟨i, integer⟩ := Option.isSome_iff_exists.1 (integral _ _ _ _ _ _ given)
      refine ⟨.answered ⟨i, integer, ?_⟩, rfl⟩
      rw [integer]
      rfl

/-- A score that floating point cannot tell from the greatest one, a truth value, or the greatest. -/
def closeScore : Nat → Score
  | 1 => .int (2 ^ 53)
  | 2 => .bool true
  | _ => .int (2 ^ 53 + 1)

def closeScores : Problem Unit Unit Nat 4 :=
  { ofTable 3 (fun selected => decide (2 ≤ selected.length)) [] with
    score := fun _ _ number => pure (closeScore number) }

end Problem

/-- Tripled scores make no difference where one of the two greatest is drawn. -/
theorem Session.only_ranking_matters_of_close_scores :
    let tripled : Problem Unit Unit Nat 4 := .rescored (fun i => 3 * i - 7) .closeScores
    let session : Session Unit Unit 4 :=
      { solver := .fresh { (default : Config) with randomTieBreak := true } () () }
    (session.perform .closeScores (.construct .minimize)).after.solver.generator ≠
        session.solver.generator ∧
      StrictMono (fun i : Int => 3 * i - 7) ∧
      Problem.closeScores.Rescored (fun i => 3 * i - 7) tripled ∧
      (∀ call, session.perform tripled call = session.perform .closeScores call) ∧
      ∀ calls, session.performAll tripled calls = session.performAll .closeScores calls := by
  intro tripled session
  have drawn : (session.perform .closeScores (.construct .minimize)).after.solver.generator ≠
      session.solver.generator := by decide +kernel
  have increasing : StrictMono (fun i : Int => 3 * i - 7) := by
    intro i j below
    show 3 * i - 7 < 3 * j - 7
    omega
  have changed : Problem.closeScores.Rescored (fun i => 3 * i - 7) tripled := by
    refine Problem.rescored_rescored _ fun view selected number caller score after answered => ?_
    have equal : score = Problem.closeScore number := by
      cases answered
      rfl
    rw [equal]
    unfold Problem.closeScore
    split <;> rfl
  exact ⟨drawn, increasing, changed, only_ranking_matters increasing changed session⟩

end Carousel
