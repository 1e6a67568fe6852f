import Carousel.Proofs.Act
import Carousel.Proofs.Choice
import Carousel.Proofs.Selection
import Carousel.Run.Phases

/-!
# Questions to the caller

A feasibility test, a sweep of scores and the choice that follows are questions: they move the
counts of calls, the generator and the state of the caller, and leave the rest of a stage alone.
-/

namespace Carousel

open Act (Completes Sweeps accepted completes_bind completes_get_bind completes_mapM
  completes_filterM)

variable {σ δ α β : Type} {n : Nat}

namespace Stage

/-- What no step inside a phase changes. -/
structure Kept (s t : Stage σ n) : Prop where
  direction : t.run.direction = s.run.direction
  config : t.run.config = s.run.config
  history : t.run.history = s.run.history
  notices : t.notices = s.notices

/-- What no step outside the iterative phase changes. -/
structure Still (s t : Stage σ n) : Prop extends Kept s t where
  rounds : t.run.rounds = s.run.rounds
  iteration : t.iteration = s.iteration

/-- Nothing was done but asking questions. -/
structure Asked (s t : Stage σ n) : Prop extends Still s t where
  selection : t.run.selection = s.run.selection

variable {s m t : Stage σ n}

theorem Kept.refl (s : Stage σ n) : Kept s s := ⟨rfl, rfl, rfl, rfl⟩

theorem Kept.trans (first : Kept s m) (second : Kept m t) : Kept s t :=
  ⟨second.direction.trans first.direction, second.config.trans first.config,
    second.history.trans first.history, second.notices.trans first.notices⟩

theorem Still.refl (s : Stage σ n) : Still s s := ⟨.refl s, rfl, rfl⟩

theorem Still.trans (first : Still s m) (second : Still m t) : Still s t :=
  ⟨first.toKept.trans second.toKept, second.rounds.trans first.rounds,
    second.iteration.trans first.iteration⟩

theorem Asked.refl (s : Stage σ n) : Asked s s := ⟨.refl s, rfl⟩

theorem Asked.trans (first : Asked s m) (second : Asked m t) : Asked s t :=
  ⟨first.toStill.trans second.toStill, second.selection.trans first.selection⟩

/-- An action that does nothing but ask questions. -/
def Asks (act : Act (Stage σ n) β) : Prop := ∀ ⦃s answer t⦄, act.Completes s answer t → Asked s t

end Stage

/-- The feasibility test answers by a fixed predicate on the selected elements. -/
def Problem.Decides (problem : Problem σ δ α n) (accepts : List α → Bool) : Prop :=
  ∀ view selected caller,
    ∃ after, (problem.feasible view selected).perform caller = (.ok (accepts selected), after)

namespace Scene

open Stage (Asked Asks)

variable {scene : Scene σ δ α n} {s t : Stage σ n}

@[simp] theorem completes_update {change : Run n → Run n} {answer : Unit} :
    (update change : Act (Stage σ n) Unit).Completes s answer t ↔
      t = { s with run := change s.run } := Act.completes_modify

theorem completes_call {callback : View δ → Callback σ β} {answer : β} :
    (scene.call callback).Completes s answer t ↔
      ∃ caller, (callback (scene.view s)).perform s.caller = (.ok answer, caller) ∧
        t = { s with caller } := by
  unfold Completes Act.perform call
  rcases (callback (scene.view s)).perform s.caller with ⟨_ | found, caller⟩
  · constructor
    · intro completed
      cases completed
    · rintro ⟨_, answered, _⟩
      cases answered
  · constructor
    · intro completed
      cases completed
      exact ⟨caller, rfl, rfl⟩
    · rintro ⟨_, answered, rfl⟩
      cases answered
      rfl

/-- A feasibility test shows the caller the elements at the tested positions. -/
theorem completes_isFeasible {positions : List (Fin n)} {verdict : Bool} :
    (scene.isFeasible positions).Completes s verdict t ↔
      ∃ caller, (scene.problem.feasible (scene.view s)
          (scene.problem.candidates.elementsAt positions)).perform s.caller =
            (.ok verdict, caller) ∧
        t = { s with
          run := { s.run with feasibilityCalls := s.run.feasibilityCalls + 1 }
          caller } := by
  unfold isFeasible
  simp only [completes_bind, completes_update, completes_call]
  constructor
  · rintro ⟨_, _, rfl, caller, answered, rfl⟩
    exact ⟨caller, answered, rfl⟩
  · rintro ⟨caller, answered, rfl⟩
    exact ⟨(), _, rfl, caller, answered, rfl⟩

theorem completes_rate {selected : List α} {position : Fin n} {score : Score} :
    (scene.rate selected position).Completes s score t ↔
      ∃ caller, (scene.problem.score (scene.view s) selected
          (scene.problem.candidates.element position)).perform s.caller = (.ok score, caller) ∧
        t = { s with run := { s.run with scoreCalls := s.run.scoreCalls + 1 }, caller } := by
  unfold rate
  simp only [completes_bind, completes_update, completes_call]
  constructor
  · rintro ⟨_, _, rfl, caller, answered, rfl⟩
    exact ⟨caller, answered, rfl⟩
  · rintro ⟨caller, answered, rfl⟩
    exact ⟨(), _, rfl, caller, answered, rfl⟩

/-- A selection is a sweep of scores over the eligible candidates and the choice among them. -/
theorem completes_select {eligible : List (Fin n)} {choice : Option (Fin n)} :
    (scene.select eligible).Completes s choice t ↔
      ∃ scores m generator,
        Sweeps (scene.rate (scene.problem.candidates.elementsAt s.run.selection.order))
          eligible s scores m ∧
        chooseBest m.run.config.drawsTies eligible scores m.generator =
          .ok (choice, generator) ∧
        t = { m with generator } := by
  unfold select
  simp only [completes_bind, completes_mapM, Act.completes_get, Act.completes_lift,
    Act.completes_set, Act.completes_pure]
  constructor
  · rintro ⟨_, _, ⟨rfl, rfl⟩, scores, m, sweep, _, _, ⟨rfl, rfl⟩, ⟨_, generator⟩, _,
      ⟨chosen, rfl⟩, _, _, rfl, rfl, rfl⟩
    exact ⟨scores, _, generator, sweep, chosen, rfl⟩
  · rintro ⟨scores, m, generator, sweep, chosen, rfl⟩
    exact ⟨_, _, ⟨rfl, rfl⟩, scores, m, sweep, _, _, ⟨rfl, rfl⟩, (choice, generator), _,
      ⟨chosen, rfl⟩, ⟨⟩, _, rfl, rfl, rfl⟩

theorem completes_selectRemaining {choice : Option (Fin n)} :
    scene.selectRemaining.Completes s choice t ↔
      (scene.select s.run.selection.remaining).Completes s choice t := by
  unfold selectRemaining
  exact completes_get_bind

theorem completes_add {position : Fin n} {answer : Unit} :
    (scene.add position).Completes s answer t ↔
      ∃ selection, s.run.selection.add position = .ok selection ∧
        t = { s with run := { s.run with selection } } := by
  unfold add
  rw [completes_get_bind]
  constructor
  · intro added
    split at added
    · rename_i selection joined
      exact ⟨selection, joined, completes_update.1 added⟩
    · exact absurd added Act.not_completes_throw
  · rintro ⟨selection, joined, rfl⟩
    rw [joined]
    exact completes_update.2 rfl

/-! ## What questions leave alone -/

theorem asks_pure (answer : β) : Asks (pure answer : Act (Stage σ n) β) := by
  intro s found t completed
  obtain ⟨_, rfl⟩ := Act.completes_pure.1 completed
  exact .refl _

theorem asks_isFeasible (positions : List (Fin n)) : Asks (scene.isFeasible positions) := by
  intro s verdict t tested
  obtain ⟨caller, _, rfl⟩ := completes_isFeasible.1 tested
  exact ⟨⟨⟨rfl, rfl, rfl, rfl⟩, rfl, rfl⟩, rfl⟩

theorem asks_rate (selected : List α) (position : Fin n) : Asks (scene.rate selected position) := by
  intro s score t rated
  obtain ⟨caller, _, rfl⟩ := completes_rate.1 rated
  exact ⟨⟨⟨rfl, rfl, rfl, rfl⟩, rfl, rfl⟩, rfl⟩

theorem asks_select (eligible : List (Fin n)) : Asks (scene.select eligible) := by
  intro s choice t selected
  obtain ⟨scores, m, generator, sweep, _, rfl⟩ := completes_select.1 selected
  have asked : Asked s m := sweep.chain Asked.refl Asked.trans fun position _ _ _ rated =>
    asks_rate _ position rated
  exact asked.trans ⟨⟨⟨rfl, rfl, rfl, rfl⟩, rfl, rfl⟩, rfl⟩

theorem asks_selectRemaining : Asks scene.selectRemaining := by
  intro s choice t selected
  exact asks_select _ (completes_selectRemaining.1 selected)

/-! ## What is chosen -/

theorem select_nil {choice : Option (Fin n)} :
    (scene.select []).Completes s choice t ↔ choice = none ∧ t = s := by
  rw [completes_select]
  constructor
  · rintro ⟨scores, m, generator, sweep, chosen, rfl⟩
    cases sweep
    cases chosen
    exact ⟨rfl, rfl⟩
  · rintro ⟨rfl, rfl⟩
    exact ⟨[], t, t.generator, .nil, rfl, rfl⟩

theorem eq_nil_of_select_none {eligible : List (Fin n)}
    (selected : (scene.select eligible).Completes s none t) : eligible = [] := by
  obtain ⟨scores, m, generator, _, chosen, _⟩ := completes_select.1 selected
  by_cases nonempty : eligible = []
  · exact nonempty
  · obtain ⟨_, _, equal⟩ := chooseBest_mem nonempty chosen
    cases equal

theorem mem_of_select_some {eligible : List (Fin n)} {position : Fin n}
    (selected : (scene.select eligible).Completes s (some position) t) : position ∈ eligible := by
  by_cases nonempty : eligible = []
  · subst nonempty
    cases (select_nil.1 selected).1
  · obtain ⟨scores, m, generator, _, chosen, _⟩ := completes_select.1 selected
    obtain ⟨candidate, member, equal⟩ := chooseBest_mem nonempty chosen
    cases equal
    exact member

theorem completes_fitting {fit : List (Fin n)} :
    scene.fitting.Completes s fit t ↔
      ∃ verdicts,
        Sweeps (fun position => scene.isFeasible (s.run.selection.extended position))
          s.run.selection.remaining s verdicts t ∧
        fit = accepted s.run.selection.remaining verdicts := by
  unfold fitting
  rw [completes_get_bind, completes_filterM]

theorem asks_fitting : Asks scene.fitting := by
  intro s fit t found
  obtain ⟨verdicts, sweep, _⟩ := completes_fitting.1 found
  exact sweep.chain Asked.refl Asked.trans fun position _ _ _ tested =>
    asks_isFeasible _ tested

/-! ## Fixed predicates -/

variable {accepts : List α → Bool}

theorem verdict_eq (decides : scene.problem.Decides accepts) {positions : List (Fin n)}
    {verdict : Bool} (tested : (scene.isFeasible positions).Completes s verdict t) :
    verdict = accepts (scene.problem.candidates.elementsAt positions) := by
  obtain ⟨caller, answered, _⟩ := completes_isFeasible.1 tested
  obtain ⟨after, decided⟩ :=
    decides (scene.view s) (scene.problem.candidates.elementsAt positions) s.caller
  cases answered.symm.trans decided
  rfl

end Scene

end Carousel
