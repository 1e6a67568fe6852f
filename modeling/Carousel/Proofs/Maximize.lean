import Carousel.Proofs.Solver

/-!
# Full runs towards a large selection

A construction towards a large selection tests nothing and takes every candidate, so the greedy
solution is the whole universe and no refined solution is larger.  The iterative phase makes at
least as many rounds as there are members to evict, so a refined solution is feasible whenever
feasibility survives the loss of the oldest member.
-/

namespace Carousel

variable {σ δ α : Type} {n : Nat}

namespace Scene.Passage

variable {scene : Scene σ δ α n} {config : Config} {start : Stage σ n}

theorem greedy_perm_of_maximize (p : Passage scene config .maximize start)
    (sound : start.run.selection.Sound) : p.greedy.Perm (List.finRange n) := by
  -- The second construction has no test that could stop it.
  obtain ⟨m, first, second, found⟩ := completes_greedy_maximize.1 p.construction
  have small : m.run.selection.Sound := (past_of_construction (by exact sound) first).sound
  obtain ⟨flag, ended, grows, noted⟩ := grows_of_construction (by exact small) second
  have exhausted : flag = false := grows.not_stopped_of_maximize rfl small
  subst exhausted
  rw [found, noted, selection_noted]
  exact grows.full asks_isConstructed small

theorem length_greedy_of_maximize (p : Passage scene config .maximize start)
    (sound : start.run.selection.Sound) : p.greedy.length = n := by
  rw [(p.greedy_perm_of_maximize sound).length_eq, List.length_finRange]

theorem not_isImprovement_of_maximize (p : Passage scene config .maximize start)
    (large : start.run.direction = .maximize) (sound : start.run.selection.Sound) :
    Direction.maximize.isImprovement p.refined.length p.greedy.length = false := by
  have bounded := p.length_refined_le large sound
  rw [p.length_greedy_of_maximize sound]
  simp only [Direction.isImprovement, decide_eq_false_iff_not]
  omega

theorem not_improved_of_maximize (p : Passage scene config .maximize start)
    (large : start.run.direction = .maximize) (sound : start.run.selection.Sound) :
    p.report.improved = false := by
  have bounded := p.length_refined_le large sound
  have whole := p.length_greedy_of_maximize sound
  show decide (p.greedy.length < p.refined.length) = false
  simp only [decide_eq_false_iff_not]
  omega

theorem best_of_maximize (p : Passage scene config .maximize start)
    (large : start.run.direction = .maximize) (sound : start.run.selection.Sound) :
    p.best = p.greedy := by
  unfold best better
  rw [p.not_isImprovement_of_maximize large sound]
  rfl

variable {accepts : List α → Bool}

/-- The iterative phase leaves an accepted selection, whatever it starts from. -/
theorem rotated_accepted (p : Passage scene config .maximize start)
    (decides : scene.problem.Decides accepts) (hereditary : Hereditary accepts)
    (large : start.run.direction = .maximize) (sound : start.run.selection.Sound) :
    accepts (scene.problem.candidates.elementsAt p.rotated.run.selection.order) = true := by
  have trimmed := p.past_trimmed large sound
  have constructed := p.past_constructed large sound
  obtain ⟨_, joining, m, rotates, noted⟩ :=
    rotates_of_iterative scene.problem.candidates.nonempty trimmed.sound p.iterative
  rw [noted, selection_noted]
  cases rotates.accepted_or_drop decides hereditary (trimmed.direction.trans large)
    trimmed.sound with
  | inl accepted => exact accepted
  | inr evicted =>
    -- Nobody has joined, and there were enough rounds to evict everyone.
    have enough : p.trimmed.run.selection.order.length ≤
        config.alpha * p.greedy.length := by
      rw [p.length_greedy_of_maximize sound]
      calc p.trimmed.run.selection.order.length
        _ ≤ n := trimmed.sound.size_le
        _ ≤ config.alpha * n :=
          Nat.le_mul_of_pos_left n config.alpha_pos
    rw [evicted, List.drop_eq_nil_of_le enough]
    exact hereditary.empty

theorem refined_accepted (p : Passage scene config .maximize start)
    (decides : scene.problem.Decides accepts) (hereditary : Hereditary accepts)
    (large : start.run.direction = .maximize) (sound : start.run.selection.Sound) :
    accepts (scene.problem.candidates.elementsAt p.refined) = true := by
  have rotated := p.past_rotated large sound
  obtain ⟨_, m, grows, noted⟩ :=
    grows_of_completion_maximize (rotated.direction.trans large) rotated.sound p.completion
  unfold refined
  rw [noted, selection_noted]
  exact grows.accepted_of_saturated decides rotated.sound
    (p.rotated_accepted decides hereditary large sound)

end Scene.Passage

/-! ## Main results -/

/-- Three numbers of which only one may be selected. -/
def Problem.oneOfThree : Problem Unit Unit Nat 3 :=
  .ofTable 2 (fun selected => decide (selected.length ≤ 1)) [[0, 2, 1], [1, 2, 3]]

theorem hereditary_length_le (room : Nat) :
    Hereditary fun selected : List α => decide (selected.length ≤ room) where
  empty := by simp
  tail oldest rest accepted := by
    simp only [List.length_cons, decide_eq_true_eq] at accepted ⊢
    omega

namespace Solver

variable {solver : Solver σ δ n} {problem : Problem σ δ α n} {accepts : List α → Bool}
  {alpha beta : Value} {best : List (Fin n)}

/-- For a hereditary predicate, the refined solution of every completed large run is feasible. -/
theorem refined_feasible_of_hereditary (decides : problem.Decides accepts)
    (hereditary : Hereditary accepts)
    (completed : (solver.optimize problem .maximize alpha beta).answer = .ok best) :
    ∃ report, (solver.optimize problem .maximize alpha beta).after.Recalls report ∧
      report.best = best ∧
      accepts (problem.candidates.elementsAt report.refined) = true := by
  obtain ⟨config, _, p, rfl, outcome⟩ := passage_of_optimize completed
  refine ⟨p.report, ?_, rfl, ?_⟩
  · rw [outcome]
    exact recalls_of_passage p
  · exact p.refined_accepted decides hereditary rfl (sound_start config)

/-- The removal phase may hand on three numbers where only one is feasible; the refined solution is
feasible nevertheless. -/
theorem refined_feasible_of_three_handed_on :
    let accepts := fun selected : List Nat => decide (selected.length ≤ 1)
    let outcome := (plain 3).optimize .oneOfThree .maximize .absent .absent
    (outcome.after.memory.report.bind (·.phase? .removal)).map (·.sizeAfter) = some 3 ∧
      (∀ selected, selected.length = 3 → accepts selected = false) ∧
      ∃ report, outcome.after.Recalls report ∧ report.best = [1, 2, 0] ∧
        accepts (Problem.oneOfThree.candidates.elementsAt report.refined) = true := by
  refine ⟨by decide +kernel, fun selected three => by simp [three], ?_⟩
  exact refined_feasible_of_hereditary (Problem.ofTable_decides 2 _ _) (hereditary_length_le 1)
    (eq_ok_of_toOption (by decide +kernel))

/-- A completed large run returns its greedy solution, which has every candidate and is what a
greedy run on the same solver gives.  The refined solution is never chosen, and the status is the
answer to the test of the whole universe at the end of the search. -/
theorem best_eq_construct_of_maximize
    (completed : (solver.optimize problem .maximize alpha beta).answer = .ok best) :
    best.Perm (List.finRange n) ∧
      (problem.candidates.elementsAt best).Perm problem.candidates.toList ∧
      (solver.construct problem .maximize).answer = .ok best ∧
      ∃ config report, solver.callConfig alpha beta = .ok config ∧
        (solver.optimize problem .maximize alpha beta).after.Recalls report ∧
        report.best = best ∧ report.greedy = best ∧
        Direction.maximize.isImprovement report.refined.length report.greedy.length = false ∧
        report.improved = false ∧
        ∃ searched verdict checked,
          ((solver.scene problem .itself).search config .maximize).Completes
            { stage := solver.start .maximize config, memory := solver.memory }
            (report.greedy, report.refined) searched ∧
          ((solver.scene problem .itself).isFeasible best).Completes searched.stage verdict
            checked ∧
          (solver.optimize problem .maximize alpha beta).after.caller = checked.caller ∧
          (report.status = .feasible ↔ verdict = true) := by
  obtain ⟨config, overridden, p, rfl, outcome⟩ := passage_of_optimize completed
  have sound : (solver.start .maximize config).run.selection.Sound := sound_start config
  have greedy := p.best_of_maximize rfl sound
  have full : p.best.Perm (List.finRange n) := greedy ▸ p.greedy_perm_of_maximize sound
  have notChosen := p.not_isImprovement_of_maximize rfl sound
  have notImproved := p.not_improved_of_maximize rfl sound
  refine ⟨full, Universe.elementsAt_perm full, greedy ▸ construct_of_passage overridden p,
    config, p.report, overridden, ?_, rfl, greedy.symm, notChosen, notImproved, _, p.verdict,
    p.checked, p.completes_search, p.check, ?_, p.status_eq_feasible_iff⟩
  · rw [outcome]
    exact recalls_of_passage p
  · rw [outcome]
    rfl

/-- A full run with a multiplier of three and a share of one returns what a greedy run does. -/
theorem best_eq_construct_of_three_numbers :
    let outcome := (plain 3).optimize .oneOfThree .maximize (.int 3) (.int 1)
    outcome.answer = .ok [1, 2, 0] ∧
      ((plain 3).construct .oneOfThree .maximize).answer = .ok [1, 2, 0] ∧
      ∃ report, outcome.after.Recalls report ∧ report.greedy = [1, 2, 0] ∧
        report.improved = false := by
  have completed : ((plain 3).optimize .oneOfThree .maximize (.int 3) (.int 1)).answer =
      .ok [1, 2, 0] := eq_ok_of_toOption (by decide +kernel)
  obtain ⟨_, _, constructed, _, report, _, recalls, _, greedy, _, notImproved, _⟩ :=
    best_eq_construct_of_maximize completed
  exact ⟨completed, constructed, report, recalls, greedy, notImproved⟩

end Solver

end Carousel
