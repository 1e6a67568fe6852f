import Carousel.Proofs.Run.Growth

/-!
# Growths on their way

A growth passes through every order between the one that it starts from and the one that it leaves, and at
each of them it has tested and chosen.  A fault that ends a growth arises in such a test or in such a choice.
-/

namespace Carousel

open Act (fails_bind)
open Stage (Asked Asks Grown Joined)

variable {σ δ α β : Type} {n : Nat}

/-- Behind a proper beginning of a list comes one more member. -/
theorem exists_next_of_prefix {γ : Type} {before whole : List γ} (initial : before <+: whole)
    (proper : before ≠ whole) : ∃ next, before ++ [next] <+: whole := by
  obtain ⟨rest, rfl⟩ := initial
  cases rest with
  | nil => simp at proper
  | cons next rest => exact ⟨next, rest, by simp⟩

namespace Scene

variable {scene : Scene σ δ α n} {stop : Act (Stage σ n) Bool}
  {choose : Act (Stage σ n) (Option (Fin n))} {s t : Stage σ n} {flag : Bool} {position : Fin n}
  {fault : Fault}

/-- A growth that has not come to its end: some candidates have joined, each after a test and a choice. -/
inductive Growing (scene : Scene σ δ α n) (stop : Act (Stage σ n) Bool)
    (choose : Act (Stage σ n) (Option (Fin n))) : Stage σ n → Stage σ n → Prop where
  | begun {s : Stage σ n} : Growing scene stop choose s s
  | joined {s m w a t : Stage σ n} {position : Fin n} (unmet : stop.Completes s false m)
      (chosen : choose.Completes m (some position) w) (added : (scene.add position).Completes w () a)
      (rest : Growing scene stop choose a t) : Growing scene stop choose s t

theorem Growing.grown (stopAsks : Asks stop) (chooseAsks : Asks choose)
    (growing : Growing scene stop choose s t) (sound : s.run.selection.Sound) : Grown s t := by
  induction growing with
  | begun => exact (Asked.refl _).grown sound
  | joined unmet chosen added _ ih =>
    have joined := ((stopAsks unmet).trans (chooseAsks chosen)).joined sound added
    exact joined.grown (ih joined.sound)

/-- A growth that adds a candidate behind some order has had that order, and chosen the candidate then. -/
theorem Grows.through (stopAsks : Asks stop) (chooseAsks : Asks choose)
    (grows : Grows scene stop choose s flag t) (sound : s.run.selection.Sound)
    {before : List (Fin n)} (start : s.run.selection.order <+: before)
    (reached : before ++ [position] <+: t.run.selection.order) :
    ∃ m w x, Growing scene stop choose s m ∧ m.run.selection.order = before ∧
      stop.Completes m false w ∧ choose.Completes w (some position) x := by
  -- Who only asks leaves an order that is too short to have reached the candidate.
  have untouched {s t : Stage σ n} (asked : Asked s t) (start : s.run.selection.order <+: before) :
      ¬ before ++ [position] <+: t.run.selection.order := by
    intro reached
    rw [asked.selection] at reached
    have short := reached.length_le
    have long := start.length_le
    simp at short
    omega
  induction grows with
  | stopped met => exact absurd reached (untouched (stopAsks met) start)
  | exhausted unmet nothing =>
    exact absurd reached (untouched ((stopAsks unmet).trans (chooseAsks nothing)) start)
  | @joined s m w a t first flag unmet chosen added rest ih =>
    have joined := ((stopAsks unmet).trans (chooseAsks chosen)).joined sound added
    have later := (rest.grown stopAsks chooseAsks joined.sound).order
    rw [joined.order] at later
    by_cases here : s.run.selection.order = before
    · -- Two candidates that come next behind the same order are the same.
      subst here
      have same := List.prefix_of_prefix_length_le later reached (by simp)
      obtain rfl : first = position := by simpa using same.eq_of_length (by simp)
      exact ⟨s, m, w, .begun, rfl, unmet, chosen⟩
    · obtain ⟨next, onward⟩ := exists_next_of_prefix start here
      have both := onward.trans ((List.prefix_append _ _).trans reached)
      have same := List.prefix_of_prefix_length_le later both (by simp)
      obtain rfl : first = next := by simpa using same.eq_of_length (by simp)
      obtain ⟨m', w', x, growing, found⟩ := ih joined.sound (joined.order ▸ onward) reached
      exact ⟨m', w', x, .joined unmet chosen added growing, found⟩

/-! ## Faults -/

/-- A fault ends a growth: it arises in a test, or in the choice that follows one. -/
def Stalls (scene : Scene σ δ α n) (stop : Act (Stage σ n) Bool)
    (choose : Act (Stage σ n) (Option (Fin n))) (s : Stage σ n) (fault : Fault) (t : Stage σ n) :
    Prop :=
  ∃ m, Growing scene stop choose s m ∧
    (stop.Fails m fault t ∨ ∃ w, stop.Completes m false w ∧ choose.Fails w fault t)

theorem fresh_of_selectRemaining (sound : s.run.selection.Sound)
    (chosen : scene.selectRemaining.Completes s (some position) t) :
    position ∉ s.run.selection.order :=
  sound.mem_remaining_iff.1 (mem_of_select_some (completes_selectRemaining.1 chosen))

theorem fresh_of_selectFitting (sound : s.run.selection.Sound)
    (chosen : scene.selectFitting.Completes s (some position) t) :
    position ∉ s.run.selection.order :=
  sound.mem_remaining_iff.1 (tested_of_selectFitting chosen).1

theorem not_fails_add (sound : s.run.selection.Sound) (fresh : position ∉ s.run.selection.order) :
    ¬ (scene.add position).Fails s fault t := by
  have joined := (Selection.add_eq_ok_iff sound).2 ⟨fresh, rfl⟩
  unfold add
  rw [Act.fails_get_bind, joined]
  exact Act.not_fails_modify

/-- One pass of a growing loop, in which neither the end of the loop nor the joining is ever at fault. -/
theorem stalls_of_pass {next : Bool → Act (Stage σ n) β} {after : Option (Fin n) → Act (Stage σ n) β}
    {rest : Act (Stage σ n) β} (sound : s.run.selection.Sound)
    (failed : (stop >>= next).Fails s fault t) (stopAsks : Asks stop) (chooseAsks : Asks choose)
    (fresh : ∀ {s position t}, s.run.selection.Sound → choose.Completes s (some position) t →
      position ∉ s.run.selection.order)
    (stops : ∀ {s m}, stop.Completes s true m → ¬ (next true).Fails m fault t)
    (goes : next false = choose >>= after)
    (ends : ∀ {m}, ¬ (after none).Fails m fault t)
    (joins : ∀ position, after (some position) = scene.add position >>= fun _ => rest)
    (later : ∀ {position a}, Joined s position a → rest.Fails a fault t →
      Stalls scene stop choose a fault t) :
    Stalls scene stop choose s fault t := by
  rcases fails_bind.1 failed with testing | ⟨done, m, tested, failed⟩
  · exact ⟨s, .begun, .inl testing⟩
  cases done with
  | true => exact absurd failed (stops tested)
  | false =>
    rw [goes] at failed
    rcases fails_bind.1 failed with choosing | ⟨choice, w, chosen, failed⟩
    · exact ⟨s, .begun, .inr ⟨m, tested, choosing⟩⟩
    cases choice with
    | none => exact absurd failed ends
    | some position =>
      rw [joins] at failed
      have asked := (stopAsks tested).trans (chooseAsks chosen)
      -- What was chosen is not selected yet, so adding it cannot be what failed.
      have absent : position ∉ w.run.selection.order := by
        rw [(chooseAsks chosen).selection]
        exact fresh ((stopAsks tested).sound sound) chosen
      rcases fails_bind.1 failed with adding | ⟨_, a, added, failed⟩
      · exact absurd adding (not_fails_add (asked.sound sound) absent)
      · obtain ⟨u, growing, ended⟩ := later (asked.joined sound added) failed
        exact ⟨u, .joined tested chosen added growing, ended⟩

theorem stalls_of_extend {passes : Nat} (sound : s.run.selection.Sound)
    (failed : (scene.extend passes).Fails s fault t) :
    Stalls scene scene.isConstructed scene.selectRemaining s fault t := by
  induction passes generalizing s with
  | zero => exact absurd failed Act.not_fails_pure
  | succ passes ih =>
    exact stalls_of_pass sound failed asks_isConstructed asks_selectRemaining
      fresh_of_selectRemaining (fun _ => Act.not_fails_pure) rfl Act.not_fails_pure (fun _ => rfl)
      fun joined => ih joined.sound

theorem stalls_of_repair {passes : Nat} (sound : s.run.selection.Sound)
    (failed : (scene.repair passes).Fails s fault t) :
    Stalls scene scene.isRepaired scene.selectRemaining s fault t := by
  induction passes generalizing s with
  | zero => exact absurd failed Act.not_fails_pure
  | succ passes ih =>
    have failed : (scene.isRepaired >>= _).Fails s fault t := failed
    exact stalls_of_pass sound failed asks_isRepaired asks_selectRemaining
      fresh_of_selectRemaining (fun _ => Act.not_fails_pure) rfl Act.not_fails_pure (fun _ => rfl)
      fun joined => ih joined.sound

theorem stalls_of_saturate {passes : Nat} (sound : s.run.selection.Sound)
    (failed : (scene.saturate passes).Fails s fault t) :
    Stalls scene (pure false) scene.selectFitting s fault t := by
  induction passes generalizing s with
  | zero => exact absurd failed Act.not_fails_pure
  | succ passes ih =>
    -- The loop has no test, as if it were never met.
    have failed : ((pure false : Act (Stage σ n) Bool) >>= fun _ =>
        scene.saturate (passes + 1)).Fails s fault t := failed
    exact stalls_of_pass sound failed (asks_pure _) asks_selectFitting fresh_of_selectFitting
      (fun met => absurd (Act.completes_pure.1 met).1 (by decide)) (saturate_succ passes)
      Act.not_fails_pure (fun _ => rfl) fun joined => ih joined.sound

end Scene

end Carousel
