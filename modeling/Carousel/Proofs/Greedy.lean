import Carousel.Proofs.Run.Partway
import Carousel.Proofs.Run.Preference
import Carousel.Proofs.Solver

/-!
# Construction is greedy

With callbacks that are fixed functions of the elements, the order that construction leaves can be told
without any run: everyone who joins has the best score against those before it, and towards a small
selection the first accepted order ends it.  Where ties are not drawn there is one such order.
-/

namespace Carousel

open Stage (Asked)

variable {σ δ α : Type} {n : Nat} {accepts : List α → Bool} {rates : List α → α → Score}

/-- Whenever the callbacks answer, they answer as fixed functions of the elements do. -/
structure Problem.GoesBy (problem : Problem σ δ α n) (accepts : List α → Bool)
    (rates : List α → α → Score) : Prop where
  verdict : ∀ {view selected caller verdict after},
    (problem.feasible view selected).perform caller = (.ok verdict, after) → verdict = accepts selected
  score : ∀ {view selected candidate caller score after},
    (problem.score view selected candidate).perform caller = (.ok score, after) →
      score = rates selected candidate

def scoresAgainst (u : Universe α n) (rates : List α → α → Score) (order : List (Fin n)) :
    List Score :=
  (unselected order).map fun position => rates (u.elementsAt order) (u.element position)

/-- The order extends the start by the best candidate again and again, a small one until it is accepted
and a large one as long as there is a candidate. -/
structure GreedyFrom (u : Universe α n) (accepts : List α → Bool) (rates : List α → α → Score)
    (direction : Direction) (random : Bool) (start order : List (Fin n)) : Prop where
  initial : start <+: order
  best : ∀ before position, start <+: before → before ++ [position] <+: order →
    Best random (unselected before) (scoresAgainst u rates before) position
  rejected : direction = .minimize → ∀ before, start <+: before → before <+: order → before ≠ order →
    accepts (u.elementsAt before) = false
  ended : (direction = .minimize ∧ accepts (u.elementsAt order) = true) ∨ order.Perm (List.finRange n)

namespace GreedyFrom

variable {u : Universe α n} {direction : Direction} {random : Bool} {start order other : List (Fin n)}
  {position : Fin n}

theorem onward (greedy : GreedyFrom u accepts rates direction random start order)
    (first : start ++ [position] <+: order) :
    GreedyFrom u accepts rates direction random (start ++ [position]) order where
  initial := first
  best before next begun := greedy.best before next ((List.prefix_append _ _).trans begun)
  rejected small before begun := greedy.rejected small before ((List.prefix_append _ _).trans begun)
  ended := greedy.ended

/-- What ends one greedy order ends every other one that comes to it. -/
theorem ended_at_start (greedy : GreedyFrom u accepts rates direction random start start)
    (again : GreedyFrom u accepts rates direction random start other) : start = other := by
  by_contra longer
  obtain ⟨first, further⟩ := exists_next_of_prefix again.initial longer
  rcases greedy.ended with ⟨small, accepted⟩ | full
  · have rejected := again.rejected small start (List.prefix_refl _) again.initial longer
    exact absurd (accepted.symm.trans rejected) (by decide)
  · have absent := mem_unselected.1 (again.best start first (List.prefix_refl _) further).mem
    exact absent (full.mem_iff.2 (List.mem_finRange first))

theorem unique (greedy : GreedyFrom u accepts rates direction false start order)
    (again : GreedyFrom u accepts rates direction false start other) : order = other := by
  -- The induction is on what has joined the start, and the start moves on with everyone who joins.
  obtain ⟨rest, rfl⟩ := greedy.initial
  induction rest generalizing start with
  | nil =>
    rw [List.append_nil] at greedy ⊢
    exact greedy.ended_at_start again
  | cons first rest ih =>
    have further : start ++ [first] <+: start ++ first :: rest := by simp
    by_cases same : start = other
    · -- The other order ends here, so this one does as well.
      subst same
      exact (again.ended_at_start greedy).symm
    · obtain ⟨next, beyond⟩ := exists_next_of_prefix again.initial same
      have best := greedy.best start first (List.prefix_refl _) further
      obtain rfl := best.unique (again.best start next (List.prefix_refl _) beyond)
      have split : start ++ first :: rest = start ++ [first] ++ rest := by simp
      have onward := greedy.onward further
      rw [split] at onward ⊢
      exact ih (again.onward beyond) onward

end GreedyFrom

namespace Scene

/-- A fault ends construction after some candidates have joined the start: in a test, which only a small
selection asks for, or in a choice. -/
inductive ConstructionFault (scene : Scene σ δ α n) (s : Stage σ n) (fault : Fault) (t : Stage σ n) :
    Prop where
  | untested {m : Stage σ n} (small : s.run.direction = .minimize)
      (growing : Growing scene scene.isConstructed scene.selectRemaining s m)
      (raised : (scene.isFeasible m.run.selection.order).Fails m fault t)
  | unchosen {m w : Stage σ n} (growing : Growing scene scene.isConstructed scene.selectRemaining s m)
      (unmet : scene.isConstructed.Completes m false w)
      (balks : Balks scene (unselected m.run.selection.order) w fault t)

variable {scene : Scene σ δ α n} {s t : Stage σ n} {flag : Bool} {fault : Fault}

theorem verdict_eq_of_goesBy (goesBy : scene.problem.GoesBy accepts rates) {positions : List (Fin n)}
    {verdict : Bool} (tested : (scene.isFeasible positions).Completes s verdict t) :
    verdict = accepts (scene.problem.candidates.elementsAt positions) := by
  obtain ⟨_, answered, _⟩ := completes_isFeasible.1 tested
  exact goesBy.verdict answered

theorem best_of_prefers {eligible : List (Fin n)} {chosen : Fin n}
    (goesBy : scene.problem.GoesBy accepts rates) (prefers : Prefers scene eligible s chosen t) :
    Best s.run.config.drawsTies eligible (eligible.map fun position =>
      rates (scene.problem.candidates.elementsAt s.run.selection.order)
        (scene.problem.candidates.element position)) chosen := by
  obtain ⟨scores, m, _, scored, best, _⟩ := prefers
  rwa [← scored.eq_map fun position _ _ _ rated => ?_]
  obtain ⟨_, answered, _⟩ := completes_rate.1 rated
  exact goesBy.score answered

theorem Grows.greedyFrom (goesBy : scene.problem.GoesBy accepts rates)
    (grows : Grows scene scene.isConstructed scene.selectRemaining s flag t)
    (sound : s.run.selection.Sound) :
    GreedyFrom scene.problem.candidates accepts rates s.run.direction s.run.config.drawsTies
      s.run.selection.order t.run.selection.order where
  initial := (grows.grown asks_isConstructed asks_selectRemaining sound).order
  best before position start further := by
    obtain ⟨m, w, x, growing, rfl, unmet, chosen⟩ :=
      grows.through asks_isConstructed asks_selectRemaining sound start further
    have grown := growing.grown asks_isConstructed asks_selectRemaining sound
    have asked := asks_isConstructed unmet
    have best := best_of_prefers goesBy (prefers_of_select (completes_selectRemaining.1 chosen))
    rw [asked.selection, asked.config, grown.config, grown.sound.remaining_eq] at best
    exact best
  rejected small before start initial proper := by
    obtain ⟨next, further⟩ := exists_next_of_prefix initial proper
    obtain ⟨m, w, x, growing, rfl, unmet, _⟩ :=
      grows.through asks_isConstructed asks_selectRemaining sound start further
    have direction := (growing.grown asks_isConstructed asks_selectRemaining sound).direction
    rw [small] at direction
    exact (verdict_eq_of_goesBy goesBy ((isConstructed_minimize direction).1 unmet)).symm
  ended := by
    cases flag with
    | false => exact .inr (grows.full asks_isConstructed sound)
    | true =>
      cases direction : s.run.direction with
      | minimize =>
        obtain ⟨m, tested⟩ := grows.tested_of_minimize direction sound
        exact .inl ⟨rfl, (verdict_eq_of_goesBy goesBy tested).symm⟩
      | maximize => exact absurd (grows.not_stopped_of_maximize direction sound) (by decide)

/-! ## The feasibility test -/

def testing (scene : Scene σ δ α n) (feasible : View δ → List α → Callback σ Bool) : Scene σ δ α n :=
  { scene with problem := { scene.problem with feasible } }

theorem perform_extend_testing (scene : Scene σ δ α n)
    (feasible : View δ → List α → Callback σ Bool) (passes : Nat)
    (large : s.run.direction = .maximize) :
    ((scene.testing feasible).extend passes).perform s = (scene.extend passes).perform s := by
  induction passes generalizing s with
  | zero => rfl
  | succ passes ih =>
    have constructed (any : Scene σ δ α n) : any.isConstructed.perform s = (.ok false, s) :=
      (isConstructed_maximize large).2 ⟨rfl, rfl⟩
    -- Neither the choice nor the joining looks at the test.
    have same : (scene.testing feasible).selectRemaining = scene.selectRemaining := rfl
    unfold extend
    simp only [Act.perform_bind, constructed, same]
    cases chosen : scene.selectRemaining.perform s with
    | mk answer m =>
      rcases answer with _ | _ | position
      · rfl
      · rfl
      · have asked : Asked s m := asks_selectRemaining chosen
        have same : (scene.testing feasible).add position = scene.add position := rfl
        simp only [Act.perform_bind, same]
        cases added : (scene.add position).perform m with
        | mk answer a =>
          cases answer with
          | error _ => rfl
          | ok _ =>
            obtain ⟨_, _, rfl⟩ := completes_add.1 added
            exact ih (asked.direction.trans large)

theorem perform_construction_testing (feasible : View δ → List α → Callback σ Bool)
    (large : s.run.direction = .maximize) :
    (scene.testing feasible).construction.perform s = scene.construction.perform s := by
  have same := perform_extend_testing scene feasible (n + 1) large
  unfold construction recorded
  simp only [Act.perform_bind, Act.perform_get, same]
  rfl

theorem fails_isConstructed (failed : scene.isConstructed.Fails s fault t) :
    s.run.direction = .minimize ∧ (scene.isFeasible s.run.selection.order).Fails s fault t := by
  have testing := Act.fails_get_bind.1 failed
  cases direction : s.run.direction with
  | minimize =>
    simp only [direction] at testing
    exact ⟨rfl, testing⟩
  | maximize =>
    simp only [direction] at testing
    exact absurd testing Act.not_fails_pure

theorem fault_of_construction (sound : s.run.selection.Sound)
    (failed : scene.construction.Fails s fault t) : ConstructionFault scene s fault t := by
  obtain ⟨m, growing, ended⟩ := stalls_of_extend sound (fails_recorded.1 failed)
  have grown := growing.grown asks_isConstructed asks_selectRemaining sound
  rcases ended with testing | ⟨w, unmet, choosing⟩
  · obtain ⟨small, raised⟩ := fails_isConstructed testing
    exact .untested (grown.direction.symm.trans small) growing raised
  · have balks := fails_selectRemaining.1 choosing
    rw [(asks_isConstructed unmet).selection, grown.sound.remaining_eq] at balks
    exact .unchosen growing unmet balks

/-! ## Main result -/

/-- Construction comes to its end unless a call or the ranking of the scores is at fault, and what it leaves
is greedy.  Where ties are not drawn nothing else is.  Towards a small selection an accepted start stays as
it is, and towards a large one the feasibility test plays no part. -/
theorem construction_is_greedy (scene : Scene σ δ α n) (goesBy : scene.problem.GoesBy accepts rates)
    (sound : s.run.selection.Sound) :
    ((∃ t, scene.construction.Completes s () t ∧
        GreedyFrom scene.problem.candidates accepts rates s.run.direction s.run.config.drawsTies
          s.run.selection.order t.run.selection.order ∧
        (s.run.config.drawsTies = false → ∀ order,
          GreedyFrom scene.problem.candidates accepts rates s.run.direction false
            s.run.selection.order order → order = t.run.selection.order) ∧
        (s.run.direction = .minimize →
          accepts (scene.problem.candidates.elementsAt s.run.selection.order) = true →
            t.run.selection.order = s.run.selection.order)) ∨
      ∃ fault t, scene.construction.Fails s fault t ∧ ConstructionFault scene s fault t) ∧
    (s.run.direction = .maximize → ∀ feasible,
      (scene.testing feasible).construction.perform s = scene.construction.perform s) := by
  refine ⟨?_, fun large feasible => perform_construction_testing feasible large⟩
  rcases Act.completes_or_fails scene.construction s with ⟨_, t, completed⟩ | ⟨fault, t, failed⟩
  · refine .inl ⟨t, completed, ?_⟩
    obtain ⟨flag, m, grows, rfl⟩ := grows_of_construction sound completed
    rw [selection_noted]
    have greedy := grows.greedyFrom goesBy sound
    refine ⟨greedy, fun first order again => ?_, fun small accepted => ?_⟩
    · rw [first] at greedy
      exact again.unique greedy
    · by_contra changed
      have rejected := greedy.rejected small _ (List.prefix_refl _) greedy.initial (Ne.symm changed)
      exact absurd (accepted.symm.trans rejected) (by decide)
  · exact .inr ⟨fault, t, failed, fault_of_construction sound failed⟩

end Scene

/-! ## A greedy pair -/

theorem Problem.ofTable_goesBy (n : Nat) (accepts : List Nat → Bool) (rows : List (List Int)) :
    (ofTable n accepts rows).GoesBy accepts fun selected number =>
      .int ((rows.getD selected.length []).getD number 0) where
  verdict answered := (Except.ok.inj (congrArg Prod.fst answered)).symm
  score answered := (Except.ok.inj (congrArg Prod.fst answered)).symm

def Problem.pairOfThree : Problem Unit Unit Nat 3 :=
  .ofTable 2 (fun selected => decide (2 ≤ selected.length)) [[0, 2, 1], [5, 0, 7]]

/-- The number 1 is best alone, and 2 is best beside it; then the selection is accepted. -/
theorem Scene.construction_is_greedy_of_pair :
    let scene := (Solver.plain 3).scene .pairOfThree .itself
    let s : Stage Unit 3 := .holding .minimize []
    ∃ t, scene.construction.Completes s () t ∧ t.run.selection.order = [1, 2] ∧
      ∀ order, GreedyFrom scene.problem.candidates (fun selected => decide (2 ≤ selected.length))
        (fun selected number => .int (([[0, 2, 1], [5, 0, 7]].getD selected.length []).getD number 0))
        .minimize false [] order → order = [1, 2] := by
  intro scene s
  have completed : scene.construction.Completes s () (scene.construction.perform s).2 :=
    Act.completes_of_fst (eq_ok_of_toOption (by decide +kernel))
  have joined : (scene.construction.perform s).2.run.selection.order = [1, 2] := by decide +kernel
  have sound : s.run.selection.Sound := Selection.sound_holding List.nodup_nil
  obtain ⟨⟨t, again, _, unique, _⟩ | ⟨_, _, failed, _⟩, _⟩ :=
    construction_is_greedy scene (Problem.ofTable_goesBy 2 _ _) sound
  · rw [← joined, ← (again.unique completed).2]
    exact ⟨t, again, rfl, unique rfl⟩
  · exact absurd completed failed.not_completes

end Carousel
