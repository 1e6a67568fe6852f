import Carousel.Proofs.Run.Partway
import Carousel.Proofs.Run.Preference
import Carousel.Proofs.Solver

/-!
# What completion leaves

With a predicate that is a fixed function of the selected elements, completion towards a small selection
adds candidates until the selection is accepted or everything is selected.  Towards a large one it adds
only candidates that fit until none does.  In the first case the answer tells whether the selection is
accepted.  In the second case the answer is always yes, and it is wrong where the phase starts from a
rejected selection to which nothing can be added.
-/

namespace Carousel

open Act (completes_bind fails_bind)

variable {σ δ α : Type} {n : Nat}

/-- Candidates have joined until the order was accepted or none was left. -/
structure Repaired (accepts : List α → Bool) (u : Universe α n) (start order : List (Fin n)) : Prop where
  initial : start <+: order
  rejected : ∀ before, start <+: before → before <+: order → before ≠ order →
    accepts (u.elementsAt before) = false
  settled : accepts (u.elementsAt order) = true ∨ order.Perm (List.finRange n)

/-- Candidates that fit have joined, each the best of them in its turn, until none did. -/
structure Saturated (scene : Scene σ δ α n) (accepts : List α → Bool) (s : Stage σ n)
    (order : List (Fin n)) : Prop where
  initial : s.run.selection.order <+: order
  accepted : ∀ before, s.run.selection.order <+: before → before ≠ s.run.selection.order →
    before <+: order → accepts (scene.problem.candidates.elementsAt before) = true
  preferred : ∀ before position, s.run.selection.order <+: before → before ++ [position] <+: order →
    ∃ m w x, Scene.Growing scene (pure false) scene.selectFitting s m ∧
      m.run.selection.order = before ∧
      scene.fitting.Completes m (Scene.fits accepts scene.problem.candidates before) w ∧
      scene.Prefers (Scene.fits accepts scene.problem.candidates before) w position x
  maximal : ∀ position ∉ order,
    accepts (scene.problem.candidates.elementsAt (order ++ [position])) = false

namespace Scene

inductive CompletionFault (scene : Scene σ δ α n) (accepts : List α → Bool) (s : Stage σ n)
    (fault : Fault) (t : Stage σ n) : Prop where
  | repairing {m w : Stage σ n} (small : s.run.direction = .minimize)
      (growing : Growing scene scene.isRepaired scene.selectRemaining s m)
      (unmet : scene.isRepaired.Completes m false w)
      (balks : Balks scene (unselected m.run.selection.order) w fault t)
  | saturating {m w : Stage σ n} (large : s.run.direction = .maximize)
      (growing : Growing scene (pure false) scene.selectFitting s m)
      (tried : scene.fitting.Completes m
        (fits accepts scene.problem.candidates m.run.selection.order) w)
      (balks : Balks scene (fits accepts scene.problem.candidates m.run.selection.order) w fault t)

variable {scene : Scene σ δ α n} {accepts : List α → Bool} {s t : Stage σ n} {flag : Bool} {fault : Fault}

/-! ## Towards a small selection -/

theorem Grows.flag_eq (decides : scene.problem.Decides accepts)
    (grows : Grows scene scene.isRepaired scene.selectRemaining s flag t) :
    flag = accepts (scene.problem.candidates.elementsAt t.run.selection.order) := by
  cases flag with
  | true =>
    obtain ⟨m, tested⟩ := grows.tested_of_repaired
    exact verdict_eq decides tested
  | false =>
    -- The last test said no, and the choice behind it found nobody.
    obtain ⟨m, w, unmet, nothing⟩ := grows.exhausted_at
    rw [(asks_selectRemaining nothing).selection, (asks_isRepaired unmet).selection]
    exact verdict_eq decides (completes_isRepaired.1 unmet)

theorem Grows.repaired (decides : scene.problem.Decides accepts)
    (grows : Grows scene scene.isRepaired scene.selectRemaining s flag t) (sound : s.run.selection.Sound) :
    Repaired accepts scene.problem.candidates s.run.selection.order t.run.selection.order where
  initial := (grows.grown asks_isRepaired asks_selectRemaining sound).order
  rejected before start initial proper := by
    obtain ⟨next, onward⟩ := exists_next_of_prefix initial proper
    obtain ⟨m, w, x, _, rfl, unmet, _⟩ :=
      grows.through asks_isRepaired asks_selectRemaining sound start onward
    exact (verdict_eq decides (completes_isRepaired.1 unmet)).symm
  settled := by
    have told := grows.flag_eq decides
    cases flag with
    | true => exact .inl told.symm
    | false => exact .inr (grows.full asks_isRepaired sound)

/-! ## Towards a large selection -/

theorem prefers_of_selectFitting {position : Fin n} (decides : scene.problem.Decides accepts)
    (sound : s.run.selection.Sound) (chosen : scene.selectFitting.Completes s (some position) t) :
    ∃ m, scene.fitting.Completes s (fits accepts scene.problem.candidates s.run.selection.order) m ∧
      Prefers scene (fits accepts scene.problem.candidates s.run.selection.order) m position t := by
  obtain ⟨fit, m, found, selected⟩ := completes_bind.1 chosen
  cases fit_eq_fits decides sound found
  exact ⟨m, found, prefers_of_select selected⟩

theorem Grows.saturated (decides : scene.problem.Decides accepts)
    (grows : Grows scene (pure false) scene.selectFitting s false t) (sound : s.run.selection.Sound) :
    Saturated scene accepts s t.run.selection.order := by
  have preferred (before : List (Fin n)) (position : Fin n) (start : s.run.selection.order <+: before)
      (onward : before ++ [position] <+: t.run.selection.order) :
      ∃ m w x, Growing scene (pure false) scene.selectFitting s m ∧ m.run.selection.order = before ∧
        scene.fitting.Completes m (fits accepts scene.problem.candidates before) w ∧
        Prefers scene (fits accepts scene.problem.candidates before) w position x := by
    obtain ⟨m, w, x, growing, rfl, unmet, chosen⟩ :=
      grows.through (asks_pure _) asks_selectFitting sound start onward
    obtain ⟨_, rfl⟩ := Act.completes_pure.1 unmet
    have between := (growing.grown (asks_pure _) asks_selectFitting sound).sound
    obtain ⟨v, found, prefers⟩ := prefers_of_selectFitting decides between chosen
    exact ⟨_, v, x, growing, rfl, found, prefers⟩
  refine ⟨(grows.grown (asks_pure _) asks_selectFitting sound).order, ?_, preferred, ?_⟩
  · intro before start proper initial
    -- A longer beginning ends with a candidate that was chosen because it fits.
    obtain ⟨rest, rfl⟩ := start
    obtain ⟨middle, position, rfl⟩ : ∃ middle position, rest = middle ++ [position] :=
      ⟨_, _, (List.dropLast_append_getLast (by rintro rfl; simp at proper)).symm⟩
    rw [← List.append_assoc] at initial ⊢
    obtain ⟨_, _, _, _, _, _, prefers⟩ := preferred _ position (List.prefix_append _ _) initial
    exact (mem_fits.1 prefers.mem).2
  · intro position absent
    obtain ⟨m, w, unmet, nothing⟩ := grows.exhausted_at
    obtain ⟨_, rfl⟩ := Act.completes_pure.1 unmet
    have asked := asks_selectFitting nothing
    obtain ⟨fit, v, found, selected⟩ := completes_bind.1 nothing
    have ended := (grows.grown (asks_pure _) asks_selectFitting sound).sound
    rw [asked.selection] at ended absent ⊢
    cases fit_eq_fits decides ended found
    have none := eq_nil_of_select_none selected
    have unfit : position ∉ fits accepts scene.problem.candidates w.run.selection.order := by
      simp [none]
    rw [mem_fits, not_and, Bool.not_eq_true] at unfit
    exact unfit absent

end Scene

namespace Saturated

variable {scene : Scene σ δ α n} {accepts : List α → Bool} {s : Stage σ n} {order : List (Fin n)}

theorem unchanged (saturated : Saturated scene accepts s order)
    (rejected : accepts (scene.problem.candidates.elementsAt order) = false) :
    order = s.run.selection.order := by
  by_contra changed
  have accepted := saturated.accepted order saturated.initial changed (List.prefix_refl _)
  exact absurd (accepted.symm.trans rejected) (by decide)

theorem rejected_iff (saturated : Saturated scene accepts s order) :
    accepts (scene.problem.candidates.elementsAt order) = false ↔
      accepts (scene.problem.candidates.elementsAt s.run.selection.order) = false ∧
        ∀ position ∉ s.run.selection.order, accepts (scene.problem.candidates.elementsAt
          (s.run.selection.order ++ [position])) = false := by
  constructor
  · intro rejected
    rw [← saturated.unchanged rejected]
    exact ⟨rejected, saturated.maximal⟩
  · rintro ⟨rejected, alone⟩
    by_cases changed : order = s.run.selection.order
    · rwa [changed]
    · -- The first one to join would have been one that fits the start.
      obtain ⟨first, onward⟩ := exists_next_of_prefix saturated.initial (Ne.symm changed)
      obtain ⟨_, _, _, _, _, _, prefers⟩ := saturated.preferred _ first (List.prefix_refl _) onward
      obtain ⟨absent, fit⟩ := Scene.mem_fits.1 prefers.mem
      exact absurd (fit.symm.trans (alone first absent)) (by decide)

end Saturated

namespace Scene

variable {scene : Scene σ δ α n} {accepts : List α → Bool} {s t : Stage σ n} {flag : Bool} {fault : Fault}

theorem repaired_of_completion (decides : scene.problem.Decides accepts) (sound : s.run.selection.Sound)
    (small : s.run.direction = .minimize) (completed : scene.completion.Completes s flag t) :
    flag = accepts (scene.problem.candidates.elementsAt t.run.selection.order) ∧
      Repaired accepts scene.problem.candidates s.run.selection.order t.run.selection.order := by
  obtain ⟨m, grows, rfl⟩ := grows_of_completion_minimize small sound completed
  rw [selection_noted]
  exact ⟨grows.flag_eq decides, grows.repaired decides sound⟩

theorem saturated_of_completion (decides : scene.problem.Decides accepts) (sound : s.run.selection.Sound)
    (large : s.run.direction = .maximize) (completed : scene.completion.Completes s flag t) :
    flag = true ∧ Saturated scene accepts s t.run.selection.order := by
  obtain ⟨told, m, grows, rfl⟩ := grows_of_completion_maximize large sound completed
  rw [selection_noted]
  exact ⟨told, grows.saturated decides sound⟩

theorem fault_of_completion (decides : scene.problem.Decides accepts) (sound : s.run.selection.Sound)
    (failed : scene.completion.Fails s fault t) : CompletionFault scene accepts s fault t := by
  have failed := Act.fails_get_bind.1 (fails_recorded.1 failed)
  -- A test is always answered, and a joining is never refused, so the fault comes from a choice.
  cases direction : s.run.direction with
  | minimize =>
    rw [direction] at failed
    obtain ⟨m, growing, testing | ⟨w, unmet, choosing⟩⟩ := stalls_of_repair sound failed
    · exact absurd (Act.fails_get_bind.1 testing) (not_fails_isFeasible decides)
    · have between := (growing.grown asks_isRepaired asks_selectRemaining sound).sound
      have balks := fails_selectRemaining.1 choosing
      rw [(asks_isRepaired unmet).selection, between.remaining_eq] at balks
      exact .repairing direction growing unmet balks
  | maximize =>
    rw [direction] at failed
    rcases fails_bind.1 failed with failed | ⟨_, _, _, impossible⟩
    · obtain ⟨m, growing, impossible | ⟨w, unmet, choosing⟩⟩ := stalls_of_saturate sound failed
      · exact absurd impossible Act.not_fails_pure
      · obtain ⟨_, rfl⟩ := Act.completes_pure.1 unmet
        have between := (growing.grown (asks_pure _) asks_selectFitting sound).sound
        rcases fails_bind.1 choosing with trying | ⟨fit, v, tried, choosing⟩
        · exact absurd trying (not_fails_fitting (not_fails_isFeasible decides))
        · cases fit_eq_fits decides between tried
          exact .saturating direction growing tried (fails_select.1 choosing)
    · exact absurd impossible Act.not_fails_pure

end Scene

/-! ## Main results -/

def Problem.pairOfFour : Problem Unit Unit Nat 4 :=
  .ofTable 3 (fun selected => decide (selected.length ≤ 2)) [[], [0, 2, 1, 0]]

namespace Scene

variable {scene : Scene σ δ α n} {accepts : List α → Bool} {s t : Stage σ n} {flag : Bool}

/-- Completion comes to its end unless a scoring call or the ranking of the scores is at fault, and it only
adds candidates.  Towards a small selection every order on the way is rejected, and the last one is
accepted or has every candidate.  Towards a large one every order after the start is accepted, everyone who
joins is best among those that fit then, and at the end nobody fits. -/
theorem completion_repairs_or_saturates (scene : Scene σ δ α n)
    (decides : scene.problem.Decides accepts) (sound : s.run.selection.Sound) :
    (∃ flag t, scene.completion.Completes s flag t ∧
      (s.run.direction = .minimize →
        Repaired accepts scene.problem.candidates s.run.selection.order t.run.selection.order) ∧
      (s.run.direction = .maximize → Saturated scene accepts s t.run.selection.order)) ∨
    ∃ fault t, scene.completion.Fails s fault t ∧ CompletionFault scene accepts s fault t := by
  rcases Act.completes_or_fails scene.completion s with ⟨flag, t, completed⟩ | ⟨fault, t, failed⟩
  · exact .inl ⟨flag, t, completed,
      fun small => (repaired_of_completion decides sound small completed).2,
      fun large => (saturated_of_completion decides sound large completed).2⟩
  · exact .inr ⟨fault, t, failed, fault_of_completion decides sound failed⟩

/-- Beside the number 3 any other one fits, and the best of them joins. -/
theorem completion_saturates_one_of_four :
    let scene := (Solver.plain 4).scene .pairOfFour .itself
    let s : Stage Unit 4 := .holding .maximize [3]
    ∃ t, scene.completion.Completes s true t ∧ t.run.selection.order = [3, 1] ∧
      Saturated scene (fun selected => decide (selected.length ≤ 2)) s [3, 1] := by
  intro scene s
  have completed : scene.completion.Completes s true (scene.completion.perform s).2 :=
    Act.completes_of_fst (eq_ok_of_toOption (by decide +kernel))
  have joined : (scene.completion.perform s).2.run.selection.order = [3, 1] := by decide +kernel
  refine ⟨_, completed, joined, ?_⟩
  have sound : s.run.selection.Sound := Selection.sound_holding (by decide)
  rcases completion_repairs_or_saturates scene (Problem.ofTable_decides 3 _ _) sound with
    ⟨flag, t, again, _, saturates⟩ | ⟨_, _, failed, _⟩
  · rw [← joined, ← (again.unique completed).2]
    exact saturates rfl
  · exact absurd completed failed.not_completes

/-- Towards a small selection the answer of completion tells whether it leaves an accepted selection.
Towards a large one the answer is yes, and that is right unless the phase starts from a rejected selection
which everyone who might join leaves rejected; then nobody joins. -/
theorem completion_answer (decides : scene.problem.Decides accepts) (sound : s.run.selection.Sound)
    (completed : scene.completion.Completes s flag t) :
    (s.run.direction = .minimize →
      flag = accepts (scene.problem.candidates.elementsAt t.run.selection.order)) ∧
    (s.run.direction = .maximize → flag = true ∧
      (accepts (scene.problem.candidates.elementsAt t.run.selection.order) = false ↔
        accepts (scene.problem.candidates.elementsAt s.run.selection.order) = false ∧
          ∀ position ∉ s.run.selection.order, accepts (scene.problem.candidates.elementsAt
            (s.run.selection.order ++ [position])) = false) ∧
      (accepts (scene.problem.candidates.elementsAt t.run.selection.order) = false →
        t.run.selection.order = s.run.selection.order)) := by
  refine ⟨fun small => (repaired_of_completion decides sound small completed).1, fun large => ?_⟩
  obtain ⟨told, saturated⟩ := saturated_of_completion decides sound large completed
  exact ⟨told, saturated.rejected_iff, saturated.unchanged⟩

/-- Two of four numbers are feasible, and the answer is yes with good reason. -/
theorem completion_answer_of_one_of_four :
    let scene := (Solver.plain 4).scene .pairOfFour .itself
    let s : Stage Unit 4 := .holding .maximize [3]
    ∃ t, scene.completion.Completes s true t ∧
      (scene.problem.candidates.elementsAt t.run.selection.order).length ≤ 2 := by
  intro scene s
  have completed : scene.completion.Completes s true (scene.completion.perform s).2 :=
    Act.completes_of_fst (eq_ok_of_toOption (by decide +kernel))
  obtain ⟨_, large⟩ := completion_answer (Problem.ofTable_decides 3 _ _)
    (Selection.sound_holding (by decide)) completed
  obtain ⟨_, rejected, _⟩ := large rfl
  refine ⟨_, completed, ?_⟩
  by_contra long
  have start := (rejected.1 (by simpa using long)).1
  exact absurd start (by decide +kernel)

/-- Three of four numbers are one too many, and the answer is yes nevertheless. -/
theorem completion_answers_yes_of_three_of_four :
    let scene := (Solver.plain 4).scene .pairOfFour .itself
    let accepts := fun selected : List Nat => decide (selected.length ≤ 2)
    let s : Stage Unit 4 := .holding .maximize [0, 1, 2]
    scene.problem.Decides accepts ∧ s.run.selection.Sound ∧
      ∃ t, scene.completion.Completes s true t ∧ t.run.selection.order = [0, 1, 2] ∧
        accepts (scene.problem.candidates.elementsAt t.run.selection.order) = false := by
  intro scene accepts s
  refine ⟨Problem.ofTable_decides 3 _ _, Selection.sound_holding (by decide), ?_⟩
  have completed : scene.completion.Completes s true (scene.completion.perform s).2 :=
    Act.completes_of_fst (eq_ok_of_toOption (by decide +kernel))
  exact ⟨_, completed, by decide +kernel, by decide +kernel⟩

end Scene

end Carousel
