import Carousel.Proofs.Best
import Carousel.Proofs.Run.Script

/-!
# Preferences

What is chosen among eligible candidates has the best of the scores that one sweep has just asked for, and
a choice can only be at fault by a candidate that cannot be scored or by scores that cannot be ranked.
With a fixed predicate no test is ever at fault, and the candidates that fit are those whose addition the
predicate accepts.
-/

namespace Carousel

open Act (fails_bind)
open Stage (Asked)

variable {σ δ α : Type} {n : Nat}

namespace Scene

variable {scene : Scene σ δ α n} {s t : Stage σ n} {eligible : List (Fin n)} {position chosen : Fin n}
  {fault : Fault} {accepts : List α → Bool}

/-! ## Choices -/

abbrev Scored (scene : Scene σ δ α n) (candidates : List (Fin n)) (s : Stage σ n) (scores : List Score)
    (t : Stage σ n) : Prop :=
  Act.Sweeps (scene.rate (scene.problem.candidates.elementsAt s.run.selection.order)) candidates s
    scores t

/-- All eligible candidates are scored for the working selection, and the chosen one is best. -/
def Prefers (scene : Scene σ δ α n) (eligible : List (Fin n)) (s : Stage σ n) (chosen : Fin n)
    (t : Stage σ n) : Prop :=
  ∃ scores m generator, Scored scene eligible s scores m ∧
    Best s.run.config.drawsTies eligible scores chosen ∧ t = { m with generator }

/-- A fault ends a choice: one of the eligible candidates cannot be scored, or their scores cannot be
ranked. -/
inductive Balks (scene : Scene σ δ α n) (eligible : List (Fin n)) (s : Stage σ n) :
    Fault → Stage σ n → Prop where
  | unscored {before after : List (Fin n)} {position : Fin n} {scores : List Score} {m t : Stage σ n}
      {fault : Fault} (split : eligible = before ++ position :: after)
      (scored : Scored scene before s scores m)
      (raised : (scene.rate (scene.problem.candidates.elementsAt s.run.selection.order) position).Fails m
        fault t) :
      Balks scene eligible s fault t
  | unranked {scores : List Score} {m : Stage σ n} {fault : Fault}
      (scored : Scored scene eligible s scores m)
      (refused : chooseBest m.run.config.drawsTies eligible scores m.generator = .error fault) :
      Balks scene eligible s fault m

theorem asked_of_scored {scores : List Score} (scored : Scored scene eligible s scores t) :
    Asked s t :=
  scored.chain Asked.refl Asked.trans fun position _ _ _ rated => asks_rate _ position rated

theorem prefers_of_select (selected : (scene.select eligible).Completes s (some chosen) t) :
    Prefers scene eligible s chosen t := by
  obtain ⟨scores, m, generator, sweep, choice, rfl⟩ := completes_select.1 selected
  refine ⟨scores, m, generator, sweep, ?_, rfl⟩
  rw [← (asked_of_scored sweep).config]
  exact best_of_chooseBest choice

theorem Prefers.mem (prefers : Prefers scene eligible s chosen t) : chosen ∈ eligible := by
  obtain ⟨_, _, _, _, best, _⟩ := prefers
  exact best.mem

theorem fails_select : (scene.select eligible).Fails s fault t ↔ Balks scene eligible s fault t := by
  unfold select
  rw [Act.fails_get_bind, fails_bind, Act.fails_mapM]
  constructor
  · rintro (⟨before, position, after, scores, m, split, scored, raised⟩ | ⟨scores, m, swept, failed⟩)
    · exact .unscored split scored raised
    · -- Once the scores are there, only their ranking can be at fault.
      rw [Act.fails_get_bind, fails_bind, Act.fails_lift] at failed
      rcases failed with ⟨refused, rfl⟩ | ⟨⟨choice, generator⟩, w, _, failed⟩
      · exact .unranked (Act.completes_mapM.1 swept) refused
      · rcases fails_bind.1 failed with impossible | ⟨_, _, _, impossible⟩
        · exact absurd impossible Act.not_fails_set
        · exact absurd impossible Act.not_fails_pure
  · intro balks
    cases balks with
    | unscored split scored raised => exact .inl ⟨_, _, _, _, _, split, scored, raised⟩
    | unranked swept refused =>
      refine .inr ⟨_, _, Act.completes_mapM.2 swept, ?_⟩
      rw [Act.fails_get_bind, fails_bind, Act.fails_lift]
      exact .inl ⟨refused, rfl⟩

theorem fails_selectRemaining :
    scene.selectRemaining.Fails s fault t ↔ Balks scene s.run.selection.remaining s fault t := by
  unfold selectRemaining
  rw [Act.fails_get_bind, fails_select]

/-! ## Fixed predicates -/

def fits (accepts : List α → Bool) (u : Universe α n) (order : List (Fin n)) : List (Fin n) :=
  (unselected order).filter fun position => accepts (u.elementsAt (order ++ [position]))

theorem mem_fits {u : Universe α n} {order : List (Fin n)} :
    position ∈ fits accepts u order ↔
      position ∉ order ∧ accepts (u.elementsAt (order ++ [position])) = true := by
  rw [fits, List.mem_filter, mem_unselected]

theorem fit_eq_fits {fit : List (Fin n)} (decides : scene.problem.Decides accepts)
    (sound : s.run.selection.Sound) (found : scene.fitting.Completes s fit t) :
    fit = fits accepts scene.problem.candidates s.run.selection.order := by
  obtain ⟨verdicts, sweep, rfl⟩ := completes_fitting.1 found
  rw [sweep.eq_map fun position _ _ _ tested => verdict_eq decides tested, Act.accepted_map,
    sound.remaining_eq]
  rfl

theorem not_fails_isFeasible (decides : scene.problem.Decides accepts) {positions : List (Fin n)} :
    ¬ (scene.isFeasible positions).Fails s fault t := by
  intro failed
  unfold isFeasible update at failed
  rcases fails_bind.1 failed with impossible | ⟨_, m, _, failed⟩
  · exact Act.not_fails_modify impossible
  · obtain ⟨after, decided⟩ :=
      decides (scene.view m) (scene.problem.candidates.elementsAt positions) m.caller
    unfold Act.Fails Act.perform call at failed
    simp only [decided] at failed
    cases failed

theorem not_fails_fitting
    (answered : ∀ {positions s fault t}, ¬ (scene.isFeasible positions).Fails s fault t) :
    ¬ scene.fitting.Fails s fault t := by
  intro failed
  have failed := Act.fails_get_bind.1 failed
  -- Every trial is answered, so none of them ends the sweep.
  have ends : (s.run.selection.remaining.filterM fun position =>
      scene.isFeasible (s.run.selection.extended position)).Ends s (fun _ _ => True) fun _ _ => False := by
    refine (Act.ends_filterM (I := fun _ => True) (fun position _ m _ => ?_) trivial).imp
      (fun _ _ _ => trivial) fun _ _ => id
    exact Act.ends_iff.2 ⟨fun _ _ _ => trivial, fun _ _ => answered⟩
  exact ends.of_fails failed

end Scene

end Carousel
