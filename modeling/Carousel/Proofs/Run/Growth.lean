import Carousel.Proofs.Run.Question

/-!
# Growing selections

Construction and both kinds of completion are one loop: a candidate is chosen and joins, again and
again, until a test stops the loop or there is nothing to choose.  The module relates the loops to
an inductive relation that knows no bound on their passes, and derives what every growth keeps.
-/

namespace Carousel

open Act (Completes Sweeps completes_bind completes_get_bind)
open Stage (Asked Asks Still)

variable {σ δ α : Type} {n : Nat}

namespace Stage

variable {s m t : Stage σ n} {position : Fin n}

/-- One candidate that was not selected has joined as the newest one. -/
structure Joined (s : Stage σ n) (position : Fin n) (t : Stage σ n) : Prop extends Still s t where
  fresh : position ∉ s.run.selection.order
  order : t.run.selection.order = s.run.selection.order ++ [position]
  sound : t.run.selection.Sound

/-- Candidates have joined, and nothing else has happened but questions. -/
structure Grown (s t : Stage σ n) : Prop extends Still s t where
  order : s.run.selection.order <+: t.run.selection.order
  sound : t.run.selection.Sound

theorem Asked.sound (asked : Asked s t) (sound : s.run.selection.Sound) : t.run.selection.Sound :=
  asked.selection ▸ sound

theorem Asked.joined {scene : Scene σ δ α n} {answer : Unit} (asked : Asked s m)
    (sound : s.run.selection.Sound) (added : (scene.add position).Completes m answer t) :
    Joined s position t := by
  obtain ⟨selection, joined, rfl⟩ := Scene.completes_add.1 added
  rw [asked.selection] at joined
  obtain ⟨fresh, same⟩ := (Selection.add_eq_ok_iff sound).1 joined
  have still : Still s { m with run := { m.run with selection } } :=
    asked.toStill.trans ⟨⟨rfl, rfl, rfl, rfl⟩, rfl, rfl⟩
  exact ⟨still, fresh, by rw [same], sound.add joined⟩

theorem Asked.grown (asked : Asked s t) (sound : s.run.selection.Sound) : Grown s t :=
  ⟨asked.toStill, asked.selection ▸ List.prefix_refl _, asked.sound sound⟩

theorem Joined.size_eq (joined : Joined s position t) :
    t.run.selection.size = s.run.selection.size + 1 := by
  simp [Selection.size, joined.order]

theorem Joined.grown (joined : Joined s position m) (rest : Grown m t) : Grown s t := by
  refine ⟨joined.toStill.trans rest.toStill, ?_, rest.sound⟩
  exact (joined.order ▸ List.prefix_append _ _ : _ <+: m.run.selection.order).trans rest.order

theorem Grown.size_le (grown : Grown s t) : s.run.selection.size ≤ t.run.selection.size :=
  grown.order.length_le

end Stage

open Stage (Joined Grown)

namespace Scene

variable {scene : Scene σ δ α n} {stop : Act (Stage σ n) Bool}
  {choose : Act (Stage σ n) (Option (Fin n))} {s t : Stage σ n} {flag : Bool}

/-- One after the other, candidates that `choose` answers join the selection, until `stop` answers
yes or there is none to choose.  The flag tells which of the two it was. -/
inductive Grows (scene : Scene σ δ α n) (stop : Act (Stage σ n) Bool)
    (choose : Act (Stage σ n) (Option (Fin n))) : Stage σ n → Bool → Stage σ n → Prop where
  | stopped {s t : Stage σ n} (met : stop.Completes s true t) : Grows scene stop choose s true t
  | exhausted {s m t : Stage σ n} (unmet : stop.Completes s false m)
      (nothing : choose.Completes m none t) : Grows scene stop choose s false t
  | joined {s m w a t : Stage σ n} {position : Fin n} {flag : Bool}
      (unmet : stop.Completes s false m) (chosen : choose.Completes m (some position) w)
      (added : (scene.add position).Completes w () a)
      (rest : Grows scene stop choose a flag t) : Grows scene stop choose s flag t

namespace Grows

theorem grown (stopAsks : Asks stop) (chooseAsks : Asks choose)
    (grows : Grows scene stop choose s flag t) (sound : s.run.selection.Sound) : Grown s t := by
  induction grows with
  | stopped met => exact (stopAsks met).grown sound
  | exhausted unmet nothing => exact ((stopAsks unmet).trans (chooseAsks nothing)).grown sound
  | joined unmet chosen added _ ih =>
    have joined := ((stopAsks unmet).trans (chooseAsks chosen)).joined sound added
    exact joined.grown (ih joined.sound)

theorem stopped_at (grows : Grows scene stop choose s true t) : ∃ m, stop.Completes m true t := by
  generalize yes : true = flag at grows
  induction grows with
  | stopped met => exact ⟨_, met⟩
  | exhausted => cases yes
  | joined _ _ _ _ ih => exact ih yes

theorem exhausted_at (grows : Grows scene stop choose s false t) :
    ∃ m w, stop.Completes m false w ∧ choose.Completes w none t := by
  generalize no : false = flag at grows
  induction grows with
  | stopped => cases no
  | exhausted unmet nothing => exact ⟨_, _, unmet, nothing⟩
  | joined _ _ _ _ ih => exact ih no

end Grows

theorem Grows.full (stopAsks : Asks stop)
    (grows : Grows scene stop scene.selectRemaining s false t) (sound : s.run.selection.Sound) :
    t.run.selection.order.Perm (List.finRange n) := by
  obtain ⟨_, m, _, nothing⟩ := grows.exhausted_at
  have grown := grows.grown stopAsks asks_selectRemaining sound
  have selected := completes_selectRemaining.1 nothing
  have asked := asks_select _ selected
  have empty : t.run.selection.remaining = [] := by
    rw [asked.selection]
    exact eq_nil_of_select_none selected
  exact grown.sound.perm_of_remaining_eq_nil empty

/-! ## The loops are growths

A sound selection has room for at most `n` candidates, so a loop with more passes than room never
runs out of them. -/

theorem isConstructed_minimize (small : s.run.direction = .minimize) :
    scene.isConstructed.Completes s flag t ↔
      (scene.isFeasible s.run.selection.order).Completes s flag t := by
  unfold isConstructed
  simp only [completes_get_bind, small]

theorem isConstructed_maximize (large : s.run.direction = .maximize) :
    scene.isConstructed.Completes s flag t ↔ flag = false ∧ t = s := by
  unfold isConstructed
  simp only [completes_get_bind, large, Act.completes_pure]

theorem asks_isConstructed : Asks scene.isConstructed := by
  intro s flag t tested
  cases direction : s.run.direction with
  | minimize => exact asks_isFeasible _ ((isConstructed_minimize direction).1 tested)
  | maximize =>
    obtain ⟨_, rfl⟩ := (isConstructed_maximize direction).1 tested
    exact .refl _

/-- A construction towards a small selection stops at a test that answered yes. -/
theorem Grows.tested_of_minimize (small : s.run.direction = .minimize)
    (grows : Grows scene scene.isConstructed scene.selectRemaining s true t)
    (sound : s.run.selection.Sound) :
    ∃ m, (scene.isFeasible t.run.selection.order).Completes m true t := by
  obtain ⟨m, met⟩ := grows.stopped_at
  have grown := grows.grown asks_isConstructed asks_selectRemaining sound
  have asked := asks_isConstructed met
  have direction : m.run.direction = .minimize := by
    rw [← asked.direction, grown.direction, small]
  rw [isConstructed_minimize direction, ← asked.selection] at met
  exact ⟨m, met⟩

/-- A construction towards a large selection never stops before the candidates run out. -/
theorem Grows.not_stopped_of_maximize (large : s.run.direction = .maximize)
    (grows : Grows scene scene.isConstructed scene.selectRemaining s flag t)
    (sound : s.run.selection.Sound) : flag = false := by
  cases flag with
  | false => rfl
  | true =>
    obtain ⟨m, met⟩ := grows.stopped_at
    have grown := grows.grown asks_isConstructed asks_selectRemaining sound
    have direction : m.run.direction = .maximize := by
      rw [← (asks_isConstructed met).direction, grown.direction, large]
    exact absurd ((isConstructed_maximize direction).1 met).1 (by decide)

theorem grows_of_extend {passes : Nat} {answer : Unit} (sound : s.run.selection.Sound)
    (enough : n < passes + s.run.selection.size)
    (completed : (scene.extend passes).Completes s answer t) :
    ∃ flag, Grows scene scene.isConstructed scene.selectRemaining s flag t := by
  induction passes generalizing s with
  | zero =>
    -- Every joining used up one pass and one place, so there are no passes without a place.
    have := sound.size_le
    omega
  | succ passes ih =>
    obtain ⟨done, m, tested, completed⟩ := completes_bind.1 completed
    cases done with
    | true =>
      obtain ⟨_, rfl⟩ := Act.completes_pure.1 completed
      exact ⟨true, .stopped tested⟩
    | false =>
      obtain ⟨choice, w, selected, completed⟩ := completes_bind.1 completed
      cases choice with
      | none =>
        obtain ⟨_, rfl⟩ := Act.completes_pure.1 completed
        exact ⟨false, .exhausted tested selected⟩
      | some position =>
        obtain ⟨_, a, added, completed⟩ := completes_bind.1 completed
        have joined := ((asks_isConstructed tested).trans
          (asks_selectRemaining selected)).joined sound added
        have room := joined.size_eq
        obtain ⟨flag, rest⟩ := ih joined.sound (by omega) completed
        exact ⟨flag, .joined tested selected added rest⟩

/-- The test of a repair: whether the selection is feasible as it is. -/
def isRepaired (scene : Scene σ δ α n) : Act (Stage σ n) Bool := do
  scene.isFeasible (← get).run.selection.order

theorem completes_isRepaired :
    scene.isRepaired.Completes s flag t ↔
      (scene.isFeasible s.run.selection.order).Completes s flag t := by
  unfold isRepaired
  exact completes_get_bind

theorem asks_isRepaired : Asks scene.isRepaired := by
  intro s flag t tested
  exact asks_isFeasible _ (completes_isRepaired.1 tested)

theorem Grows.tested_of_repaired (grows : Grows scene scene.isRepaired choose s true t) :
    ∃ m, (scene.isFeasible t.run.selection.order).Completes m true t := by
  obtain ⟨m, met⟩ := grows.stopped_at
  have asked := asks_isRepaired met
  rw [completes_isRepaired, ← asked.selection] at met
  exact ⟨m, met⟩

theorem grows_of_repair {passes : Nat} (sound : s.run.selection.Sound)
    (enough : n < passes + s.run.selection.size)
    (completed : (scene.repair passes).Completes s flag t) :
    Grows scene scene.isRepaired scene.selectRemaining s flag t := by
  -- Every pass but the last adds a member, so the passes outlast the candidates.
  induction passes generalizing s with
  | zero =>
    have := sound.size_le
    omega
  | succ passes ih =>
    obtain ⟨done, m, tested, completed⟩ := completes_bind.1 (completes_get_bind.1 completed)
    have tested := completes_isRepaired.2 tested
    cases done with
    | true =>
      obtain ⟨rfl, rfl⟩ := Act.completes_pure.1 completed
      exact .stopped tested
    | false =>
      obtain ⟨choice, w, selected, completed⟩ := completes_bind.1 completed
      cases choice with
      | none =>
        obtain ⟨rfl, rfl⟩ := Act.completes_pure.1 completed
        exact .exhausted tested selected
      | some position =>
        obtain ⟨_, a, added, completed⟩ := completes_bind.1 completed
        have joined := ((asks_isRepaired tested).trans
          (asks_selectRemaining selected)).joined sound added
        have room := joined.size_eq
        exact .joined tested selected added (ih joined.sound (by omega) completed)

def selectFitting (scene : Scene σ δ α n) : Act (Stage σ n) (Option (Fin n)) := do
  scene.select (← scene.fitting)

theorem asks_selectFitting : Asks scene.selectFitting := by
  intro s choice t selected
  obtain ⟨fit, m, found, selected⟩ := completes_bind.1 selected
  exact (asks_fitting found).trans (asks_select _ selected)

theorem tested_of_selectFitting {position : Fin n}
    (chosen : scene.selectFitting.Completes s (some position) t) :
    position ∈ s.run.selection.remaining ∧
      ∃ before after,
        (scene.isFeasible (s.run.selection.extended position)).Completes before true after := by
  obtain ⟨fit, m, found, selected⟩ := completes_bind.1 chosen
  obtain ⟨verdicts, sweep, rfl⟩ := completes_fitting.1 found
  exact sweep.asked_of_mem_accepted (mem_of_select_some selected)

theorem Grows.accepted_of_saturated {accepts : List α → Bool}
    (decides : scene.problem.Decides accepts)
    (grows : Grows scene (pure false) scene.selectFitting s flag t)
    (sound : s.run.selection.Sound)
    (start : accepts (scene.problem.candidates.elementsAt s.run.selection.order) = true) :
    accepts (scene.problem.candidates.elementsAt t.run.selection.order) = true := by
  induction grows with
  | stopped met => rwa [(asks_pure _ met).selection]
  | exhausted unmet nothing =>
    rwa [((asks_pure _ unmet).trans (asks_selectFitting nothing)).selection]
  | joined unmet chosen added _ ih =>
    -- The test that let the candidate join is the test of the selection it has joined.
    have joined := ((asks_pure _ unmet).trans (asks_selectFitting chosen)).joined sound added
    obtain ⟨_, before, after, tested⟩ := tested_of_selectFitting chosen
    refine ih joined.sound ?_
    rw [joined.order, ← (asks_pure _ unmet).selection]
    exact (verdict_eq decides tested).symm

/-- A pass of saturation lets the best of the candidates that fit join; if any fits, there is one to
choose. -/
theorem saturate_succ (passes : Nat) :
    scene.saturate (passes + 1) = scene.selectFitting >>= fun
      | none => pure ()
      | some position => scene.add position >>= fun _ => scene.saturate passes := by
  funext s
  show Act.perform (scene.fitting >>= _) s = Act.perform (scene.selectFitting >>= _) s
  unfold selectFitting
  simp only [Act.perform_bind]
  rcases scene.fitting.perform s with ⟨_ | fit, m⟩
  · rfl
  cases fit with
  | nil => rfl
  | cons first others =>
    cases chosen : (scene.select (first :: others)).perform m with
    | mk found t =>
      rcases found with _ | _ | position
      · simp only [Act.perform_bind, chosen]
      · cases eq_nil_of_select_none chosen
      · simp only [Act.perform_bind, chosen]

theorem grows_of_saturate {passes : Nat} {answer : Unit} (sound : s.run.selection.Sound)
    (enough : n < passes + s.run.selection.size)
    (completed : (scene.saturate passes).Completes s answer t) :
    Grows scene (pure false) scene.selectFitting s false t := by
  induction passes generalizing s with
  | zero =>
    have := sound.size_le
    omega
  | succ passes ih =>
    have unmet : (pure false : Act (Stage σ n) Bool).Completes s false s :=
      Act.completes_pure.2 ⟨rfl, rfl⟩
    rw [saturate_succ] at completed
    obtain ⟨choice, w, chosen, completed⟩ := completes_bind.1 completed
    cases choice with
    | none =>
      obtain ⟨_, rfl⟩ := Act.completes_pure.1 completed
      exact .exhausted unmet chosen
    | some position =>
      obtain ⟨_, a, added, completed⟩ := completes_bind.1 completed
      have joined := (asks_selectFitting chosen).joined sound added
      have room := joined.size_eq
      exact .joined unmet chosen added (ih joined.sound (by omega) completed)

end Scene

end Carousel
