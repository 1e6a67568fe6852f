import Mathlib.Algebra.BigOperators.Intervals
import Carousel.Proofs.Run.Phase

/-!
# How many questions are asked

A sweep asks for one score or makes one test for each candidate that remains, so what a loop asks
depends on the sizes that it passes and on nothing else.  That a growth is stopped by its test or by
the end of the candidates makes no difference, since the last sweep of an exhausted one is empty.
-/

namespace Carousel

open Act (Completes Sweeps completes_bind)
open Stage (Asks)

variable {σ δ α ι β : Type} {n : Nat}

namespace Stage

/-- Between the stages so many scores and so many tests were asked for. -/
structure Tallied (scores tests : Nat) (s t : Stage σ n) : Prop where
  scoreCalls : t.run.scoreCalls = s.run.scoreCalls + scores
  feasibilityCalls : t.run.feasibilityCalls = s.run.feasibilityCalls + tests

variable {s m t : Stage σ n} {scores tests moreScores moreTests : Nat}

theorem Tallied.refl (s : Stage σ n) : Tallied 0 0 s s := ⟨rfl, rfl⟩

theorem Tallied.trans (first : Tallied scores tests s m)
    (second : Tallied moreScores moreTests m t) :
    Tallied (scores + moreScores) (tests + moreTests) s t := by
  constructor
  · rw [second.scoreCalls, first.scoreCalls, Nat.add_assoc]
  · rw [second.feasibilityCalls, first.feasibilityCalls, Nat.add_assoc]

end Stage

open Stage (Tallied)

namespace Scene

variable {scene : Scene σ δ α n} {s m t : Stage σ n} {position : Fin n}

/-! ## One question -/

theorem tallied_pure {found answer : β}
    (completed : (pure found : Act (Stage σ n) β).Completes s answer t) : Tallied 0 0 s t := by
  obtain ⟨_, rfl⟩ := Act.completes_pure.1 completed
  exact .refl _

theorem tallied_isFeasible {positions : List (Fin n)} {verdict : Bool}
    (tested : (scene.isFeasible positions).Completes s verdict t) : Tallied 0 1 s t := by
  obtain ⟨caller, _, rfl⟩ := completes_isFeasible.1 tested
  exact ⟨rfl, rfl⟩

theorem tallied_rate {selected : List α} {score : Score}
    (rated : (scene.rate selected position).Completes s score t) : Tallied 1 0 s t := by
  obtain ⟨caller, _, rfl⟩ := completes_rate.1 rated
  exact ⟨rfl, rfl⟩

theorem tallied_add {answer : Unit} (added : (scene.add position).Completes s answer t) :
    Tallied 0 0 s t := by
  obtain ⟨selection, _, rfl⟩ := completes_add.1 added
  exact ⟨rfl, rfl⟩

/-- A sweep asks for each of its members what one of them costs. -/
theorem tallied_sweep {ask : ι → Act (Stage σ n) β} {scores tests : Nat} {members : List ι}
    {answers : List β} (single : ∀ x {s b t}, (ask x).Completes s b t → Tallied scores tests s t)
    (sweep : Sweeps ask members s answers t) :
    Tallied (members.length * scores) (members.length * tests) s t := by
  induction sweep with
  | nil => simpa using Tallied.refl _
  | cons first _ ih =>
    have whole := (single _ first).trans ih
    rw [List.length_cons, Nat.succ_mul, Nat.succ_mul]
    rwa [Nat.add_comm scores, Nat.add_comm tests] at whole

theorem tallied_select {eligible : List (Fin n)} {choice : Option (Fin n)}
    (selected : (scene.select eligible).Completes s choice t) :
    Tallied eligible.length 0 s t := by
  obtain ⟨scores, m, generator, sweep, _, rfl⟩ := completes_select.1 selected
  have swept := tallied_sweep (fun _ _ _ _ rated => tallied_rate rated) sweep
  rw [Nat.mul_one, Nat.mul_zero] at swept
  exact ⟨swept.scoreCalls, swept.feasibilityCalls⟩

/-! ## A sweep over what remains -/

theorem tallied_selectRemaining {choice : Option (Fin n)} (sound : s.run.selection.Sound)
    (selected : scene.selectRemaining.Completes s choice t) :
    Tallied (n - s.run.selection.size) 0 s t := by
  have room := sound.size_add_length_remaining
  rw [show n - s.run.selection.size = s.run.selection.remaining.length by omega]
  exact tallied_select (completes_selectRemaining.1 selected)

theorem tallied_fitting {fit : List (Fin n)} (sound : s.run.selection.Sound)
    (found : scene.fitting.Completes s fit t) : Tallied 0 (n - s.run.selection.size) s t := by
  have room := sound.size_add_length_remaining
  obtain ⟨verdicts, sweep, _⟩ := completes_fitting.1 found
  have swept := tallied_sweep (fun _ _ _ _ tested => tallied_isFeasible tested) sweep
  rwa [Nat.mul_zero, Nat.mul_one,
    show s.run.selection.remaining.length = n - s.run.selection.size by omega] at swept

/-- The candidates that fit are scored as well, but how many they are is up to the caller. -/
theorem tests_of_selectFitting {choice : Option (Fin n)} (sound : s.run.selection.Sound)
    (chosen : scene.selectFitting.Completes s choice t) :
    t.run.feasibilityCalls = s.run.feasibilityCalls + (n - s.run.selection.size) := by
  obtain ⟨fit, m, found, selected⟩ := completes_bind.1 chosen
  exact ((tallied_fitting sound found).trans (tallied_select selected)).feasibilityCalls

/-! ## Growths -/

/-- What a growth adds to a count: `each` for every test of its end, and `charge size` for every
look for a candidate.  A growth that is stopped has not looked at its last size. -/
theorem Grows.count {stop : Act (Stage σ n) Bool} {choose : Act (Stage σ n) (Option (Fin n))}
    {direction : Direction} {flag : Bool} (count : Stage σ n → Nat) (each : Nat)
    (charge : Nat → Nat)
    (stopAsks : Asks stop) (chooseAsks : Asks choose)
    (stopCount : ∀ {s flag t}, s.run.direction = direction → stop.Completes s flag t →
      count t = count s + each)
    (chooseCount : ∀ {s choice t}, s.run.selection.Sound → choose.Completes s choice t →
      count t = count s + charge s.run.selection.size)
    (addCount : ∀ {s position answer t}, (scene.add position).Completes s answer t →
      count t = count s)
    (grows : Grows scene stop choose s flag t) (headed : s.run.direction = direction)
    (sound : s.run.selection.Sound) :
    count t = count s + (t.run.selection.size - s.run.selection.size + 1) * each +
      ∑ size ∈ Finset.Ico s.run.selection.size
        (t.run.selection.size + if flag then 0 else 1), charge size := by
  induction grows with
  | @stopped s t met =>
    rw [stopCount headed met, (stopAsks met).selection]
    simp
  | @exhausted s m t unmet nothing =>
    have asked := (stopAsks unmet).trans (chooseAsks nothing)
    rw [chooseCount ((stopAsks unmet).sound sound) nothing, stopCount headed unmet,
      asked.selection, (stopAsks unmet).selection]
    simp
  | @joined s m w a t position flag unmet chosen added rest ih =>
    have joined := ((stopAsks unmet).trans (chooseAsks chosen)).joined sound added
    have size := joined.size_eq
    have later := (rest.grown stopAsks chooseAsks joined.sound).size_le
    -- The size at which the candidate was chosen comes before all that follow.
    have split := Finset.sum_eq_sum_Ico_succ_bot
      (show s.run.selection.size < t.run.selection.size + if flag then 0 else 1 by omega) charge
    rw [ih (joined.direction.trans headed) joined.sound, addCount added,
      chooseCount ((stopAsks unmet).sound sound) chosen, stopCount headed unmet,
      (stopAsks unmet).selection, split, size,
      show t.run.selection.size - s.run.selection.size + 1 =
        t.run.selection.size - (s.run.selection.size + 1) + 1 + 1 by omega]
    simp only [Nat.succ_mul]
    omega

/-- What a growth asks that takes any candidate: as many tests as its end takes at each size, and
one score at each size for every candidate that remains. -/
theorem Grows.tallied {stop : Act (Stage σ n) Bool} {direction : Direction} {flag : Bool}
    (each : Nat) (stopAsks : Asks stop)
    (stopTallied : ∀ {s flag t}, s.run.direction = direction → stop.Completes s flag t →
      Tallied 0 each s t)
    (grows : Grows scene stop scene.selectRemaining s flag t)
    (headed : s.run.direction = direction) (sound : s.run.selection.Sound) :
    Tallied (∑ size ∈ Finset.Ico s.run.selection.size t.run.selection.size, (n - size))
      ((t.run.selection.size - s.run.selection.size + 1) * each) s t := by
  have scores := grows.count (fun s => s.run.scoreCalls) 0 (n - ·) stopAsks asks_selectRemaining
    (fun headed met => (stopTallied headed met).scoreCalls)
    (fun sound chosen => (tallied_selectRemaining sound chosen).scoreCalls)
    (fun added => (tallied_add added).scoreCalls) headed sound
  have tests := grows.count (fun s => s.run.feasibilityCalls) each (fun _ => 0) stopAsks
    asks_selectRemaining (fun headed met => (stopTallied headed met).feasibilityCalls)
    (fun sound chosen => (tallied_selectRemaining sound chosen).feasibilityCalls)
    (fun added => (tallied_add added).feasibilityCalls) headed sound
  refine ⟨?_, by simpa using tests⟩
  cases flag with
  | true => simpa using scores
  | false =>
    -- Whoever runs out of candidates has all of them, and has looked for more in vain.
    have full : t.run.selection.size = n :=
      (grows.full stopAsks sound).length_eq.trans List.length_finRange
    have room := (grows.grown stopAsks asks_selectRemaining sound).size_le
    simpa [Finset.sum_Ico_succ_top (full ▸ room), full] using scores

/-- A construction towards a small selection makes one test more than candidates join. -/
theorem tallied_of_construction_minimize {flag : Bool}
    (grows : Grows scene scene.isConstructed scene.selectRemaining s flag t)
    (small : s.run.direction = .minimize) (sound : s.run.selection.Sound) :
    Tallied (∑ size ∈ Finset.Ico s.run.selection.size t.run.selection.size, (n - size))
      (t.run.selection.size - s.run.selection.size + 1) s t := by
  have tallied := grows.tallied 1 asks_isConstructed
    (fun small tested => tallied_isFeasible ((isConstructed_minimize small).1 tested)) small sound
  rwa [Nat.mul_one] at tallied

/-- A construction towards a large selection makes no test, and takes all that remains. -/
theorem tallied_of_construction_maximize {flag : Bool}
    (grows : Grows scene scene.isConstructed scene.selectRemaining s flag t)
    (large : s.run.direction = .maximize) (sound : s.run.selection.Sound) :
    Tallied (∑ size ∈ Finset.Ico s.run.selection.size t.run.selection.size, (n - size)) 0 s t := by
  exact grows.tallied 0 asks_isConstructed
    (fun large tested => tallied_pure (Act.completes_pure.2 ((isConstructed_maximize large).1 tested)))
    large sound

theorem tallied_of_repair {flag : Bool}
    (grows : Grows scene scene.isRepaired scene.selectRemaining s flag t)
    (sound : s.run.selection.Sound) :
    Tallied (∑ size ∈ Finset.Ico s.run.selection.size t.run.selection.size, (n - size))
      (t.run.selection.size - s.run.selection.size + 1) s t := by
  have tallied := grows.tallied 1 asks_isRepaired
    (fun _ tested => tallied_isFeasible (completes_isRepaired.1 tested)) rfl sound
  rwa [Nat.mul_one] at tallied

/-- Saturation tests every candidate that remains, also at the size at which none fits. -/
theorem tests_of_saturation (grows : Grows scene (pure false) scene.selectFitting s false t)
    (sound : s.run.selection.Sound) :
    t.run.feasibilityCalls = s.run.feasibilityCalls +
      ∑ size ∈ Finset.Ico s.run.selection.size (t.run.selection.size + 1), (n - size) := by
  have tests := grows.count (fun s => s.run.feasibilityCalls) 0 (n - ·) (asks_pure _)
    asks_selectFitting (fun _ met => (tallied_pure met).feasibilityCalls)
    tests_of_selectFitting (fun added => (tallied_add added).feasibilityCalls) rfl sound
  simpa using tests

/-! ## Rounds -/

/-- Towards a small selection every round scores what remains besides the member that has just left,
and the size stays the same. -/
theorem Rotates.tallied_of_minimize {rounds : Nat} {joining : List (Fin n)}
    (rotates : Rotates scene rounds s joining t) (small : s.run.direction = .minimize)
    (sound : s.run.selection.Sound) :
    Tallied (rounds * (n - (s.run.selection.size - 1))) 0 s t := by
  -- Every round leaves as many as it found, or one where it found none, so all rounds cost the same.
  induction rotates with
  | rest => simpa using Tallied.refl _
  | @taken s m w a t position rounds joining chosen allowed added _ ih =>
    have joined := joined_of_taken sound chosen allowed added
    have direction := (asks_selectRemaining chosen).direction.trans small
    obtain ⟨_, rfl⟩ := (mayJoin_minimize direction).1 allowed
    have size := joined.size_eq
    have first := (tallied_selectRemaining (Stage.sound_turned sound) chosen).trans
      (tallied_add added)
    have later := ih (joined.direction.trans small) joined.sound
    rw [size, Nat.add_sub_cancel, Stage.size_turned] at later
    rw [Stage.size_turned] at first
    have whole := first.trans later
    rw [Nat.add_comm rounds, Nat.add_mul, Nat.one_mul]
    exact ⟨whole.scoreCalls, whole.feasibilityCalls⟩
  | refused chosen denied _ _ =>
    have direction := (asks_selectRemaining chosen).direction.trans small
    exact absurd ((mayJoin_minimize direction).1 denied).1 (by decide)

/-- Towards a large selection every round makes one test. -/
theorem tests_of_round {m a : Stage σ n} {yes : Bool} (large : s.run.direction = .maximize)
    (sound : s.run.selection.Sound)
    (chosen : scene.selectRemaining.Completes s.turned (some position) m)
    (asked : (scene.mayJoin position).Completes m yes a) :
    a.run.feasibilityCalls = s.run.feasibilityCalls + 1 := by
  have direction := (asks_selectRemaining chosen).direction.trans large
  have tested := (mayJoin_maximize direction).1 asked
  exact ((tallied_selectRemaining (Stage.sound_turned sound) chosen).trans
    (tallied_isFeasible tested)).feasibilityCalls

theorem Rotates.tests_of_maximize {rounds : Nat} {joining : List (Fin n)}
    (rotates : Rotates scene rounds s joining t) (large : s.run.direction = .maximize)
    (sound : s.run.selection.Sound) :
    t.run.feasibilityCalls = s.run.feasibilityCalls + rounds := by
  induction rotates with
  | rest => rfl
  | taken chosen allowed added _ ih =>
    have joined := joined_of_taken sound chosen allowed added
    rw [ih (joined.direction.trans large) joined.sound, (tallied_add added).feasibilityCalls,
      tests_of_round large sound chosen allowed]
    omega
  | refused chosen denied _ ih =>
    have asked := asked_of_refused chosen denied
    rw [ih (asked.direction.trans large) (asked.sound (Stage.sound_turned sound)),
      tests_of_round large sound chosen denied]
    omega

end Scene

end Carousel
