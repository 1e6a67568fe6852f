import Carousel.Proofs.Solver

/-!
# Full runs towards a small selection

Construction and completion each stop for one of two reasons: the selection was found feasible, or
the candidates ran out.  The returned solution is chosen by size alone, so the reasons of the two
phases decide when it is infeasible; and its size lies between what the removal phase left and the
size of the greedy solution.
-/

namespace Carousel

variable {σ δ α : Type} {n : Nat}

/-- A predicate that does not depend on the order of a list. -/
def OrderFree (accepts : List α → Bool) : Prop :=
  ∀ ⦃xs ys⦄, xs.Perm ys → accepts xs = accepts ys

namespace Scene.Passage

variable {scene : Scene σ δ α n} {config : Config} {start : Stage σ n} {accepts : List α → Bool}

/-! ## Why the phases stop -/

theorem greedy_accepted_or_full (p : Passage scene config .minimize start)
    (decides : scene.problem.Decides accepts) (small : start.run.direction = .minimize)
    (sound : start.run.selection.Sound) :
    accepts (scene.problem.candidates.elementsAt p.greedy) = true ∨
      p.greedy.Perm (List.finRange n) := by
  obtain ⟨construction, found⟩ := completes_greedy_minimize.1 p.construction
  obtain ⟨flag, m, grows, noted⟩ := grows_of_construction sound construction
  rw [found, noted, selection_noted]
  cases flag with
  | true =>
    obtain ⟨_, tested⟩ := grows.tested_of_minimize small sound
    exact .inl (verdict_eq decides tested).symm
  | false => exact .inr (grows.full asks_isConstructed sound)

theorem refined_accepted_or_full (p : Passage scene config .minimize start)
    (decides : scene.problem.Decides accepts) (small : start.run.direction = .minimize)
    (sound : start.run.selection.Sound) :
    accepts (scene.problem.candidates.elementsAt p.refined) = true ∨
      p.refined.Perm (List.finRange n) := by
  have rotated := p.past_rotated small sound
  obtain ⟨m, grows, noted⟩ :=
    grows_of_completion_minimize (rotated.direction.trans small) rotated.sound p.completion
  unfold refined
  rw [noted, selection_noted]
  cases repaired : p.repaired with
  | true =>
    rw [repaired] at grows
    obtain ⟨_, tested⟩ := grows.tested_of_repaired
    exact .inl (verdict_eq decides tested).symm
  | false =>
    rw [repaired] at grows
    exact .inr (grows.full asks_isRepaired rotated.sound)

/-! ## Which solution is returned -/

theorem best_of_le (p : Passage scene config .minimize start)
    (smaller : p.refined.length ≤ p.greedy.length) : p.best = p.refined := by
  unfold best better
  exact if_pos (decide_eq_true (by omega))

theorem best_of_lt (p : Passage scene config .minimize start)
    (larger : p.greedy.length < p.refined.length) : p.best = p.greedy := by
  unfold best better
  exact if_neg (by simp only [Direction.isImprovement, decide_eq_true_eq]; omega)

theorem status_eq_infeasible_iff_rejected {direction : Direction}
    (p : Passage scene config direction start) (decides : scene.problem.Decides accepts) :
    p.status = .infeasible ↔ accepts (scene.problem.candidates.elementsAt p.best) = false := by
  rw [p.status_eq_infeasible_iff, verdict_eq decides p.check]
  rfl

/-- When the returned solution is rejected, the refined one was no larger and so was returned, and
no candidate was left. -/
theorem full_of_rejected (p : Passage scene config .minimize start)
    (decides : scene.problem.Decides accepts) (small : start.run.direction = .minimize)
    (sound : start.run.selection.Sound)
    (rejected : accepts (scene.problem.candidates.elementsAt p.best) = false) :
    p.refined.length ≤ p.greedy.length ∧ p.refined.Perm (List.finRange n) := by
  by_cases smaller : p.refined.length ≤ p.greedy.length
  · rw [p.best_of_le smaller] at rejected
    cases p.refined_accepted_or_full decides small sound with
    | inl accepted => exact absurd accepted (by simp [rejected])
    | inr full => exact ⟨smaller, full⟩
  · -- A rejected greedy solution has all candidates, and the refined one cannot have more.
    rw [p.best_of_lt (by omega)] at rejected
    cases p.greedy_accepted_or_full decides small sound with
    | inl accepted => exact absurd accepted (by simp [rejected])
    | inr full =>
      have whole := full.length_eq
      have bounded := p.length_refined_le small sound
      rw [List.length_finRange] at whole
      omega

/-- The warning of a small run tells the truth: all candidates were tried. -/
theorem warning_of_minimize (p : Passage scene config .minimize start)
    (decides : scene.problem.Decides accepts) (small : start.run.direction = .minimize)
    (sound : start.run.selection.Sound) :
    p.warning = if p.status = .infeasible then [.infeasible .minimize n] else [] := by
  by_cases infeasible : p.status = .infeasible
  · have rejected := (p.status_eq_infeasible_iff_rejected decides).1 infeasible
    obtain ⟨smaller, full⟩ := p.full_of_rejected decides small sound rejected
    have whole : p.best.length = n := by
      rw [p.best_of_le smaller, full.length_eq, List.length_finRange]
    rw [if_pos infeasible, warning, p.status_eq_infeasible_iff.1 infeasible, whole]
    rfl
  · rw [if_neg infeasible, warning]
    rw [p.status_eq_infeasible_iff, Bool.not_eq_false] at infeasible
    rw [infeasible]
    rfl

theorem greedy_perm_of_refined_perm {direction : Direction} (p : Passage scene config direction start)
    (headed : start.run.direction = direction) (sound : start.run.selection.Sound)
    (smaller : p.refined.length ≤ p.greedy.length) (full : p.refined.Perm (List.finRange n)) :
    p.greedy.Perm (List.finRange n) := by
  have constructed := (p.past_constructed headed sound).sound
  have bounded := constructed.size_le
  have whole := full.length_eq
  rw [List.length_finRange] at whole
  rw [← p.length_greedy] at bounded
  rw [p.greedy_eq]
  apply constructed.perm_of_size_eq
  rw [← p.length_greedy]
  omega

/-- For a predicate that does not depend on the order, the returned solution is rejected exactly
when both solutions have all candidates and the universe is rejected. -/
theorem rejected_iff (p : Passage scene config .minimize start)
    (decides : scene.problem.Decides accepts) (orderFree : OrderFree accepts)
    (small : start.run.direction = .minimize) (sound : start.run.selection.Sound) :
    accepts (scene.problem.candidates.elementsAt p.best) = false ↔
      p.greedy.Perm (List.finRange n) ∧ p.refined.Perm (List.finRange n) ∧
        accepts scene.problem.candidates.toList = false := by
  constructor
  · -- What is returned has all candidates, so it is the universe in another order.
    intro rejected
    obtain ⟨smaller, full⟩ := p.full_of_rejected decides small sound rejected
    refine ⟨p.greedy_perm_of_refined_perm small sound smaller full, full, ?_⟩
    rw [p.best_of_le smaller] at rejected
    rw [← rejected]
    exact orderFree (Universe.elementsAt_perm full).symm
  · rintro ⟨greedy, refined, rejected⟩
    have same : p.refined.length = p.greedy.length := refined.length_eq.trans greedy.length_eq.symm
    rw [p.best_of_le (Nat.le_of_eq same), ← rejected]
    exact orderFree (Universe.elementsAt_perm refined)

/-- For such a predicate, what is returned in place of a feasible greedy solution is feasible. -/
theorem feasible_of_greedy_accepted (p : Passage scene config .minimize start)
    (decides : scene.problem.Decides accepts) (orderFree : OrderFree accepts)
    (small : start.run.direction = .minimize) (sound : start.run.selection.Sound)
    (accepted : accepts (scene.problem.candidates.elementsAt p.greedy) = true) :
    p.status = .feasible := by
  rw [p.status_eq_feasible_iff]
  cases verdict : p.verdict with
  | true => rfl
  | false =>
    have infeasible := p.status_eq_infeasible_iff.2 verdict
    have rejected := (p.status_eq_infeasible_iff_rejected decides).1 infeasible
    obtain ⟨full, _, whole⟩ := (p.rejected_iff decides orderFree small sound).1 rejected
    rw [orderFree (Universe.elementsAt_perm full), whole] at accepted
    exact absurd accepted (by decide)

/-! ## Sizes -/

/-- The refined solution has at least the members that removal left: rotation keeps their number,
and completion lets candidates join. -/
theorem survivors_le_length_refined (p : Passage scene config .minimize start)
    (small : start.run.direction = .minimize) (sound : start.run.selection.Sound) :
    survivors config.beta p.greedy.length ≤ p.refined.length := by
  have trimmed := p.past_trimmed small sound
  have rotated := p.past_rotated small sound
  obtain ⟨_, joining, m, rotates, turned⟩ :=
    rotates_of_iterative scene.problem.candidates.nonempty trimmed.sound p.iterative
  obtain ⟨ended, grows, completed⟩ :=
    grows_of_completion_minimize (rotated.direction.trans small) rotated.sound p.completion
  -- Rotation keeps the size of what it starts from, and an empty selection can only gain.
  have kept := rotates.size_of_minimize (trimmed.direction.trans small) trimmed.sound
  have grown := (grows.grown asks_isRepaired asks_selectRemaining rotated.sound).size_le
  rw [turned, selection_noted] at grown
  have refined : p.refined.length = ended.run.selection.size := by
    unfold Passage.refined
    rw [completed, selection_noted]
    rfl
  rw [← p.length_trimmed small sound, refined]
  have : m.run.selection.size ≤ ended.run.selection.size := grown
  omega

theorem length_best (p : Passage scene config .minimize start) :
    p.best.length = min p.greedy.length p.refined.length := by
  by_cases smaller : p.refined.length ≤ p.greedy.length
  · rw [p.best_of_le smaller]
    omega
  · rw [p.best_of_lt (by omega)]
    omega

end Scene.Passage

/-! ## Main results -/

def Problem.threeOfTwo : Problem Unit Unit Nat 2 :=
  .ofTable 1 (fun selected => decide (3 ≤ selected.length)) []

/-- Four numbers of which the last two are needed.  A greedy run takes the other two first. -/
def Problem.twoOfFour : Problem Unit Unit Nat 4 :=
  .ofTable 3 (fun selected => selected.contains 2 && selected.contains 3)
    [[1, 0, 0, 0], [0, 3, 1, 2], [0, 0, 2, 1]]

theorem orderFree_le_length (least : Nat) :
    OrderFree fun selected : List α => decide (least ≤ selected.length) := by
  intro xs ys perm
  simp only [perm.length_eq]

namespace Solver

variable {solver : Solver σ δ n} {problem : Problem σ δ α n} {accepts : List α → Bool}
  {alpha beta : Value} {best : List (Fin n)}

/-- A completed small run that reports an infeasible solution returns the refined solution, which
has every candidate, and this is when it warns.  If the order of a list does not matter, it reports
so exactly when both solutions have every candidate and the universe is infeasible; in particular
never when the greedy solution was feasible. -/
theorem infeasible_iff_exhausted_of_minimize (decides : problem.Decides accepts)
    (completed : (solver.optimize problem .minimize alpha beta).answer = .ok best) :
    ∃ report, (solver.optimize problem .minimize alpha beta).after.Recalls report ∧
      report.best = best ∧
      (report.status = .infeasible ↔ accepts (problem.candidates.elementsAt best) = false) ∧
      (report.status = .infeasible → best = report.refined ∧ best.Perm (List.finRange n)) ∧
      (solver.optimize problem .minimize alpha beta).notices.filter Notice.isWarning =
        (if report.status = .infeasible then [.infeasible .minimize n] else []) ∧
      (OrderFree accepts →
        (report.status = .infeasible ↔
          report.greedy.Perm (List.finRange n) ∧ report.refined.Perm (List.finRange n) ∧
            accepts problem.candidates.toList = false) ∧
        (accepts (problem.candidates.elementsAt report.greedy) = true →
          report.status = .feasible)) := by
  obtain ⟨config, _, p, rfl, outcome⟩ := passage_of_optimize completed
  have sound : (solver.start .minimize config).run.selection.Sound := sound_start config
  have status := p.status_eq_infeasible_iff_rejected decides
  refine ⟨p.report, ?_, rfl, status, ?_, ?_, ?_⟩
  · rw [outcome]
    exact recalls_of_passage p
  · intro infeasible
    -- A rejected refinement has used up the candidates, and so has a rejected construction.
    obtain ⟨smaller, full⟩ := p.full_of_rejected decides rfl sound (status.1 infeasible)
    have returned := p.best_of_le smaller
    exact ⟨returned, returned ▸ full⟩
  · rw [outcome]
    show p.last.warnings = if p.status = .infeasible then [.infeasible .minimize n] else []
    rw [p.warnings_last rfl sound, p.warning_of_minimize decides rfl sound]
    rfl
  · intro orderFree
    have exhausted := status.trans (p.rejected_iff decides orderFree rfl sound)
    exact ⟨exhausted, p.feasible_of_greedy_accepted decides orderFree rfl sound⟩

/-- With two numbers where three are needed, both are returned with a warning. -/
theorem infeasible_iff_exhausted_of_two_numbers :
    let outcome := (plain 2).optimize .threeOfTwo .minimize .absent .absent
    outcome.answer = .ok [0, 1] ∧
      outcome.notices.filter Notice.isWarning = [.infeasible .minimize 2] ∧
      ∃ report, outcome.after.Recalls report ∧ report.status = .infeasible ∧
        report.refined = [0, 1] ∧ report.greedy.Perm (List.finRange 2) := by
  have completed : ((plain 2).optimize .threeOfTwo .minimize .absent .absent).answer =
      .ok [0, 1] := eq_ok_of_toOption (by decide +kernel)
  obtain ⟨report, recalls, _, status, returned, warned, exhausted⟩ :=
    infeasible_iff_exhausted_of_minimize (Problem.ofTable_decides 1 _ _) completed
  have infeasible : report.status = .infeasible := status.2 (by decide)
  rw [if_pos infeasible] at warned
  have greedy := ((exhausted (orderFree_le_length 3)).1.1 infeasible).1
  exact ⟨completed, warned, report, recalls, infeasible, (returned infeasible).1.symm, greedy⟩

/-- The sizes in a completed small run: the refined solution has at least what survives removal, and
the smaller of the two solutions is returned, the refined one on ties.  It can be strictly smaller
than the greedy one only if that has three members and the share takes one away. -/
theorem size_bounds_of_minimize
    (completed : (solver.optimize problem .minimize alpha beta).answer = .ok best) :
    ∃ config report, solver.callConfig alpha beta = .ok config ∧
      (solver.optimize problem .minimize alpha beta).after.Recalls report ∧
      report.best = best ∧
      survivors config.beta report.greedy.length ≤ report.refined.length ∧
      report.refined.length ≤ n ∧
      best = (if report.refined.length ≤ report.greedy.length then report.refined
        else report.greedy) ∧
      best.length = min report.greedy.length report.refined.length ∧
      survivors config.beta report.greedy.length ≤ best.length ∧
      best.length ≤ report.greedy.length ∧
      (report.improved = true →
        3 ≤ report.greedy.length ∧ 1 ≤ config.beta.countOf report.greedy.length ∧
          best = report.refined) := by
  obtain ⟨config, overridden, p, rfl, outcome⟩ := passage_of_optimize completed
  have sound : (solver.start .minimize config).run.selection.Sound := sound_start config
  have least : survivors config.beta p.greedy.length ≤ p.refined.length :=
    p.survivors_le_length_refined rfl sound
  have length := p.length_best
  have fewer := survivors_le config.beta p.greedy.length
  refine ⟨config, p.report, overridden, ?_, rfl, least, p.length_refined_le rfl sound, ?_, length,
    ?_, ?_, ?_⟩
  · rw [outcome]
    exact recalls_of_passage p
  · show p.best = if p.refined.length ≤ p.greedy.length then p.refined else p.greedy
    split
    · exact p.best_of_le ‹_›
    · exact p.best_of_lt (by omega)
  · show survivors config.beta p.greedy.length ≤ p.best.length
    omega
  · show p.best.length ≤ p.greedy.length
    omega
  · intro improved
    have smaller : p.refined.length < p.greedy.length := of_decide_eq_true improved
    -- A strictly smaller result takes a removal that dropped something.
    have dropped : survivors config.beta p.greedy.length < p.greedy.length := by omega
    obtain ⟨three, counted⟩ := of_survivors_lt dropped
    exact ⟨three, counted, p.best_of_le (by omega)⟩

/-- A share of one half lets a run improve on a greedy solution of four numbers. -/
theorem size_bounds_of_four_numbers :
    let half : Value := .real (.ofRatio false 1 2)
    let outcome := (plain 4).optimize .twoOfFour .minimize .absent half
    outcome.answer = .ok [3, 1, 2] ∧ outcome.after.memory.report.map (·.improved) = some true ∧
      ∃ config report, (plain 4).callConfig .absent half = .ok config ∧
        outcome.after.Recalls report ∧ report.refined = [3, 1, 2] ∧
        3 ≤ report.greedy.length ∧ 1 ≤ config.beta.countOf report.greedy.length := by
  have completed : ((plain 4).optimize .twoOfFour .minimize .absent
      (.real (.ofRatio false 1 2))).answer = .ok [3, 1, 2] := eq_ok_of_toOption (by decide +kernel)
  have improved : ((plain 4).optimize .twoOfFour .minimize .absent
      (.real (.ofRatio false 1 2))).after.memory.report.map (·.improved) = some true := by
    decide +kernel
  obtain ⟨config, report, overridden, recalls, _, _, _, _, _, _, _, needed⟩ :=
    size_bounds_of_minimize completed
  have better : report.improved = true := by simpa [recalls.report] using improved
  obtain ⟨three, counted, returned⟩ := needed better
  exact ⟨completed, improved, config, report, overridden, recalls, returned.symm, three, counted⟩

end Solver

end Carousel
