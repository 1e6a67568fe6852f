import Mathlib.Algebra.BigOperators.Intervals
import Carousel.Proofs.History
import Carousel.Proofs.Maximize
import Carousel.Proofs.Minimize
import Carousel.Proofs.Run.Tally

/-!
# The counts of full runs

The sizes at which its phases begin and end say how many questions a full run has asked.  For either
direction there is one history with these sizes as parameters, and every completed run has left it.
-/

namespace Carousel

open Stage (Tallied)
open Scene (Grows Rotates Passage recordOf noted)

variable {σ δ α : Type} {n : Nat}

/-! ## Histories -/

namespace PhaseRecord

/-- What a full run over `n` candidates towards a small solution leaves, with the sizes of its greedy
solution, of what survives removal and of its refined solution. -/
def small (n alpha greedy kept refined : Nat) : List PhaseRecord :=
  [{ phase := .construction, sizeBefore := 0, sizeAfter := greedy
     scoreCalls := ∑ size ∈ Finset.range greedy, (n - size)
     feasibilityCalls := greedy + 1 },
   { phase := .removal, sizeBefore := greedy, sizeAfter := kept },
   { phase := .iterative, sizeBefore := kept, sizeAfter := kept
     rounds := alpha * greedy
     scoreCalls := alpha * greedy * (n - kept + 1) },
   { phase := .completion, sizeBefore := kept, sizeAfter := refined
     scoreCalls := ∑ size ∈ Finset.Ico kept refined, (n - size)
     feasibilityCalls := refined - kept + 1 }]

/-- What a full run over `n` candidates towards a large solution leaves, with the sizes at which its
first construction stops, at which its rounds begin and end, and of its refined solution.  The scores
of its rounds and of its completion depend on what the caller finds feasible. -/
def large (n alpha stopped kept rotated refined rotating saturating : Nat) : List PhaseRecord :=
  [{ phase := .construction, sizeBefore := 0, sizeAfter := stopped
     scoreCalls := ∑ size ∈ Finset.range stopped, (n - size)
     feasibilityCalls := stopped + 1 },
   { phase := .construction, sizeBefore := stopped, sizeAfter := n
     scoreCalls := ∑ size ∈ Finset.Ico stopped n, (n - size) },
   { phase := .removal, sizeBefore := n, sizeAfter := kept },
   { phase := .iterative, sizeBefore := kept, sizeAfter := rotated
     rounds := alpha * n
     scoreCalls := rotating
     feasibilityCalls := alpha * n },
   { phase := .completion, sizeBefore := rotated, sizeAfter := refined
     scoreCalls := saturating
     feasibilityCalls := ∑ size ∈ Finset.Icc rotated refined, (n - size) }]

end PhaseRecord

/-! ## The records of the phases -/

namespace Scene

variable {scene : Scene σ δ α n} {s m t : Stage σ n}

theorem recordOf_of_tallied {phase : Phase} {rounds scores tests : Nat}
    (tallied : Tallied scores tests s m) :
    recordOf phase s.run m.run rounds =
      { phase, sizeBefore := s.run.selection.size, sizeAfter := m.run.selection.size, rounds
        scoreCalls := scores, feasibilityCalls := tests } := by
  simp [recordOf, tallied.scoreCalls, tallied.feasibilityCalls]

/-- A phase leaves one record, with what was asked between its ends. -/
theorem history_noted {phase : Phase} {rounds scores tests : Nat}
    (unrecorded : m.run.history = s.run.history) (tallied : Tallied scores tests s m) :
    (scene.noted (recordOf phase s.run m.run rounds) m).run.history = s.run.history ++
      [{ phase, sizeBefore := s.run.selection.size, sizeAfter := m.run.selection.size, rounds
         scoreCalls := scores, feasibilityCalls := tests }] := by
  rw [noted, recordOf_of_tallied tallied]
  exact congrArg (· ++ _) unrecorded

theorem history_of_construction_minimize {answer : Unit} (small : s.run.direction = .minimize)
    (sound : s.run.selection.Sound) (completed : scene.construction.Completes s answer t) :
    t.run.history = s.run.history ++
      [{ phase := .construction
         sizeBefore := s.run.selection.size
         sizeAfter := t.run.selection.size
         scoreCalls := ∑ size ∈ Finset.Ico s.run.selection.size t.run.selection.size, (n - size)
         feasibilityCalls := t.run.selection.size - s.run.selection.size + 1 }] := by
  obtain ⟨flag, m, grows, rfl⟩ := grows_of_construction sound completed
  have grown := grows.grown asks_isConstructed asks_selectRemaining sound
  exact history_noted grown.history (tallied_of_construction_minimize grows small sound)

theorem history_of_construction_maximize {answer : Unit} (large : s.run.direction = .maximize)
    (sound : s.run.selection.Sound) (completed : scene.construction.Completes s answer t) :
    t.run.history = s.run.history ++
      [{ phase := .construction
         sizeBefore := s.run.selection.size
         sizeAfter := t.run.selection.size
         scoreCalls :=
          ∑ size ∈ Finset.Ico s.run.selection.size t.run.selection.size, (n - size) }] := by
  obtain ⟨flag, m, grows, rfl⟩ := grows_of_construction sound completed
  have grown := grows.grown asks_isConstructed asks_selectRemaining sound
  exact history_noted grown.history (tallied_of_construction_maximize grows large sound)

theorem history_of_removal {removed : List (Fin n)}
    (completed : scene.removal.Completes s removed t) :
    t.run.history = s.run.history ++
      [{ phase := .removal, sizeBefore := s.run.selection.size
         sizeAfter := t.run.selection.size }] := by
  obtain ⟨share, _, _, rfl⟩ := completes_removal.1 completed
  have silent : Tallied 0 0 s (trimmed share s) := ⟨rfl, rfl⟩
  exact history_noted rfl silent

theorem history_of_iterative_minimize {rounds count : Nat} (small : s.run.direction = .minimize)
    (sound : s.run.selection.Sound) (completed : (scene.iterative rounds).Completes s count t) :
    t.run.selection.size = max s.run.selection.size (min rounds 1) ∧
      t.run.history = s.run.history ++
        [{ phase := .iterative
           sizeBefore := s.run.selection.size
           sizeAfter := t.run.selection.size
           rounds
           scoreCalls := rounds * (n - (s.run.selection.size - 1)) }] := by
  obtain ⟨_, joining, m, rotates, rfl⟩ :=
    rotates_of_iterative scene.problem.candidates.nonempty sound completed
  refine ⟨rotates.size_of_minimize small sound, ?_⟩
  have tallied := rotates.tallied_of_minimize small sound
  exact history_noted (rotates.rotated sound).history ⟨tallied.scoreCalls, tallied.feasibilityCalls⟩

theorem history_of_iterative_maximize {rounds count : Nat} (large : s.run.direction = .maximize)
    (sound : s.run.selection.Sound) (completed : (scene.iterative rounds).Completes s count t) :
    ∃ scores, t.run.history = s.run.history ++
      [{ phase := .iterative
         sizeBefore := s.run.selection.size
         sizeAfter := t.run.selection.size
         rounds
         scoreCalls := scores
         feasibilityCalls := rounds }] := by
  obtain ⟨_, joining, m, rotates, rfl⟩ :=
    rotates_of_iterative scene.problem.candidates.nonempty sound completed
  refine ⟨m.run.scoreCalls - s.run.scoreCalls, ?_⟩
  rw [noted, recordOf, rotates.tests_of_maximize large sound, Nat.add_sub_cancel_left]
  exact congrArg (· ++ _) (rotates.rotated sound).history

theorem history_of_completion_minimize {flag : Bool} (small : s.run.direction = .minimize)
    (sound : s.run.selection.Sound) (completed : scene.completion.Completes s flag t) :
    s.run.selection.size ≤ t.run.selection.size ∧ t.run.history = s.run.history ++
      [{ phase := .completion
         sizeBefore := s.run.selection.size
         sizeAfter := t.run.selection.size
         scoreCalls := ∑ size ∈ Finset.Ico s.run.selection.size t.run.selection.size, (n - size)
         feasibilityCalls := t.run.selection.size - s.run.selection.size + 1 }] := by
  obtain ⟨m, grows, rfl⟩ := grows_of_completion_minimize small sound completed
  have grown := grows.grown asks_isRepaired asks_selectRemaining sound
  refine ⟨grown.size_le, ?_⟩
  exact history_noted grown.history (tallied_of_repair grows sound)

theorem history_of_completion_maximize {flag : Bool} (large : s.run.direction = .maximize)
    (sound : s.run.selection.Sound) (completed : scene.completion.Completes s flag t) :
    s.run.selection.size ≤ t.run.selection.size ∧ ∃ scores, t.run.history = s.run.history ++
      [{ phase := .completion
         sizeBefore := s.run.selection.size
         sizeAfter := t.run.selection.size
         scoreCalls := scores
         feasibilityCalls :=
          ∑ size ∈ Finset.Icc s.run.selection.size t.run.selection.size, (n - size) }] := by
  obtain ⟨_, m, grows, rfl⟩ := grows_of_completion_maximize large sound completed
  have grown := grows.grown (asks_pure _) asks_selectFitting sound
  refine ⟨grown.size_le, m.run.scoreCalls - s.run.scoreCalls, ?_⟩
  rw [noted, recordOf, tests_of_saturation grows sound, Nat.add_sub_cancel_left,
    Finset.Ico_add_one_right_eq_Icc]
  exact congrArg (· ++ _) grown.history

/-! ## The history of a passage -/

namespace Passage

variable {config : Config} {start : Stage σ n}

/-- What is rotated towards a small solution has a member, or else there are no rounds. -/
theorem rotating_or_empty (p : Passage scene config .minimize start)
    (small : start.run.direction = .minimize) (sound : start.run.selection.Sound) :
    1 ≤ p.trimmed.run.selection.size ∨ p.greedy.length = 0 ∧ p.trimmed.run.selection.size = 0 := by
  have kept := p.length_trimmed small sound
  have least : (min (p.greedy.length : Int) 2) ≤ survivors config.beta p.greedy.length :=
    le_max_left _ _
  have most := survivors_le config.beta p.greedy.length
  omega

/-- The rounds keep the size, and if there is no member to take away there are no rounds either. -/
theorem size_rotated (p : Passage scene config .minimize start) (small : start.run.direction = .minimize)
    (sound : start.run.selection.Sound) :
    p.rotated.run.selection.size = p.trimmed.run.selection.size := by
  have trimmed := p.past_trimmed small sound
  have size := (history_of_iterative_minimize (trimmed.direction.trans small) trimmed.sound
    p.iterative).1
  rcases p.rotating_or_empty small sound with one | ⟨nothing, none⟩
  · omega
  · rw [size, nothing, none]
    simp

theorem history_of_minimize (p : Passage scene config .minimize start)
    (small : start.run.direction = .minimize) (sound : start.run.selection.Sound)
    (empty : start.run.selection.size = 0) (fresh : start.run.history = []) :
    p.trimmed.run.selection.size ≤ p.refined.length ∧
      p.completed.run.history = PhaseRecord.small n config.alpha p.greedy.length
        p.trimmed.run.selection.size p.refined.length := by
  have constructed := p.past_constructed small sound
  have trimmed := p.past_trimmed small sound
  have rotated := p.past_rotated small sound
  have room := trimmed.sound.size_le
  have construction := history_of_construction_minimize small sound
    (completes_greedy_minimize.1 p.construction).1
  have removal := history_of_removal p.removal
  have iterative := (history_of_iterative_minimize (trimmed.direction.trans small) trimmed.sound
    p.iterative).2
  obtain ⟨joined, completion⟩ := history_of_completion_minimize
    (rotated.direction.trans small) rotated.sound p.completion
  rw [empty, fresh, ← p.length_greedy] at construction
  rw [← p.length_greedy] at removal
  -- A round scores one more than remain before it, for it evicts first; an empty selection has no rounds.
  have scores : config.alpha * p.greedy.length * (n - (p.trimmed.run.selection.size - 1)) =
      config.alpha * p.greedy.length * (n - p.trimmed.run.selection.size + 1) := by
    rcases p.rotating_or_empty small sound with one | ⟨nothing, _⟩
    · refine congrArg _ ?_
      omega
    · rw [nothing]
      simp
  rw [p.size_rotated small sound] at joined iterative completion
  rw [scores] at iterative
  refine ⟨joined, ?_⟩
  rw [completion, iterative, removal, construction, ← Finset.range_eq_Ico]
  rfl

theorem history_of_maximize (p : Passage scene config .maximize start)
    (large : start.run.direction = .maximize) (sound : start.run.selection.Sound)
    (empty : start.run.selection.size = 0) (fresh : start.run.history = []) :
    p.rotated.run.selection.size ≤ p.refined.length ∧
      ∃ stopped rotating saturating, stopped ≤ n ∧
        p.completed.run.history = PhaseRecord.large n config.alpha stopped
          p.trimmed.run.selection.size p.rotated.run.selection.size p.refined.length
          rotating saturating := by
  have constructed := p.past_constructed large sound
  have trimmed := p.past_trimmed large sound
  have rotated := p.past_rotated large sound
  have whole := p.length_greedy_of_maximize sound
  -- The first construction of a large run is one towards a small solution.
  obtain ⟨m, first, second, _⟩ := completes_greedy_maximize.1 p.construction
  have between := (past_of_construction (by exact sound) first).sound
  have firstly := history_of_construction_minimize rfl (by exact sound) first
  have secondly := history_of_construction_maximize rfl (by exact between) second
  have removal := history_of_removal p.removal
  obtain ⟨rotating, iterative⟩ := history_of_iterative_maximize (trimmed.direction.trans large)
    trimmed.sound p.iterative
  obtain ⟨joined, saturating, completion⟩ := history_of_completion_maximize
    (rotated.direction.trans large) rotated.sound p.completion
  have full : p.constructed.run.selection.size = n := p.length_greedy.symm.trans whole
  rw [full] at secondly removal
  rw [whole] at iterative
  refine ⟨joined, m.run.selection.size, rotating, saturating, between.size_le, ?_⟩
  rw [completion, iterative, removal, secondly, firstly]
  show start.run.history ++ _ ++ _ ++ _ ++ _ ++ _ = _
  rw [fresh, PhaseRecord.large, Finset.range_eq_Ico]
  simp only [empty]
  rfl

end Passage

end Scene

/-! ## Totals -/

/-- All scores of a construction that takes every candidate. -/
theorem sum_remaining (n : Nat) : ∑ size ∈ Finset.range n, (n - size) = n * (n + 1) / 2 := by
  have reflected := Finset.sum_range_reflect (fun size => size) (n + 1)
  rw [Finset.sum_range_id, Finset.sum_range_succ, Nat.add_sub_cancel, Nat.sub_self] at reflected
  rw [Nat.mul_comm, ← reflected, Nat.add_zero]

theorem sum_remaining_split {stopped : Nat} (within : stopped ≤ n) :
    (∑ size ∈ Finset.range stopped, (n - size)) + ∑ size ∈ Finset.Ico stopped n, (n - size) =
      n * (n + 1) / 2 := by
  rw [Finset.range_eq_Ico, Finset.sum_Ico_consecutive _ (Nat.zero_le _) within,
    ← Finset.range_eq_Ico, sum_remaining]

namespace PhaseRecord

variable {alpha greedy stopped kept rotated refined rotating saturating : Nat}

theorem sum_scoreCalls_small :
    ((small n alpha greedy kept refined).map scoreCalls).sum =
      (∑ size ∈ Finset.range greedy, (n - size)) + alpha * greedy * (n - kept + 1) +
        ∑ size ∈ Finset.Ico kept refined, (n - size) := by
  simp only [small, List.map_cons, List.map_nil, List.sum_cons, List.sum_nil]
  omega

theorem sum_feasibilityCalls_small (joined : kept ≤ refined) :
    ((small n alpha greedy kept refined).map feasibilityCalls).sum + 1 =
      greedy + refined - kept + 3 := by
  simp only [small, List.map_cons, List.map_nil, List.sum_cons, List.sum_nil]
  omega

theorem sum_scoreCalls_large (within : stopped ≤ n) :
    ((large n alpha stopped kept rotated refined rotating saturating).map scoreCalls).sum =
      n * (n + 1) / 2 + rotating + saturating := by
  rw [← sum_remaining_split within]
  simp only [large, List.map_cons, List.map_nil, List.sum_cons, List.sum_nil]
  omega

theorem sum_constructions_large (within : stopped ≤ n) :
    (((large n alpha stopped kept rotated refined rotating saturating).filter
      (·.phase = .construction)).map scoreCalls).sum = n * (n + 1) / 2 := by
  rw [← sum_remaining_split within]
  rfl

theorem sum_feasibilityCalls_large :
    ((large n alpha stopped kept rotated refined rotating saturating).map feasibilityCalls).sum =
      (stopped + 1) + alpha * n + ∑ size ∈ Finset.Icc rotated refined, (n - size) := by
  simp only [large, List.map_cons, List.map_nil, List.sum_cons, List.sum_nil]
  omega

end PhaseRecord

namespace Report

/-- The counts in the report of a full run over `n` candidates towards a small solution, of whose
greedy solution `kept` members survive removal. -/
structure SmallCounts (report : Report (Fin n)) (kept : Nat) : Prop where
  survivors : kept = survivors report.beta report.greedy.length
  kept_le : kept ≤ report.refined.length
  history : report.history =
    PhaseRecord.small n report.alpha report.greedy.length kept report.refined.length
  scoreCalls : report.scoreCalls =
    (∑ size ∈ Finset.range report.greedy.length, (n - size)) +
      report.alpha * report.greedy.length * (n - kept + 1) +
      ∑ size ∈ Finset.Ico kept report.refined.length, (n - size)
  feasibilityCalls : report.feasibilityCalls =
    report.greedy.length + report.refined.length - kept + 3

/-- The counts in the report of a full run over `n` candidates towards a large solution, whose first
construction stops at the size `stopped`, and whose rounds lead from the size `kept` to the size
`rotated`. -/
structure LargeCounts (report : Report (Fin n)) (stopped kept rotated : Nat) : Prop where
  greedy : report.greedy.length = n
  survivors : kept = survivors report.beta n
  stopped_le : stopped ≤ n
  rotated_le : rotated ≤ report.refined.length
  history : ∃ rotating saturating,
    report.history = PhaseRecord.large n report.alpha stopped kept rotated
      report.refined.length rotating saturating ∧
    report.scoreCalls = n * (n + 1) / 2 + rotating + saturating
  constructions :
    ((report.history.filter (·.phase = .construction)).map PhaseRecord.scoreCalls).sum =
      n * (n + 1) / 2
  feasibilityCalls : report.feasibilityCalls =
    (stopped + 1) + report.alpha * n +
      (∑ size ∈ Finset.Icc rotated report.refined.length, (n - size)) + 1

def Counts (report : Report (Fin n)) : Prop :=
  match report.direction with
  | .minimize => ∃ kept, report.SmallCounts kept
  | .maximize => ∃ stopped kept rotated, report.LargeCounts stopped kept rotated

variable {report : Report (Fin n)} {kept stopped rotated rotating saturating : Nat}

/-- The totals of a report are the sums of its records, and one test more. -/
structure Summed (report : Report (Fin n)) : Prop where
  scoreCalls : (report.history.map PhaseRecord.scoreCalls).sum = report.scoreCalls
  feasibilityCalls :
    (report.history.map PhaseRecord.feasibilityCalls).sum + 1 = report.feasibilityCalls

theorem Summed.smallCounts (summed : report.Summed)
    (survivors : kept = survivors report.beta report.greedy.length)
    (joined : kept ≤ report.refined.length)
    (history : report.history =
      PhaseRecord.small n report.alpha report.greedy.length kept report.refined.length) :
    report.SmallCounts kept := by
  refine ⟨survivors, joined, history, ?_, ?_⟩
  · rw [← summed.scoreCalls, history, PhaseRecord.sum_scoreCalls_small]
  · rw [← summed.feasibilityCalls, history, PhaseRecord.sum_feasibilityCalls_small joined]

theorem Summed.largeCounts (summed : report.Summed) (greedy : report.greedy.length = n)
    (survivors : kept = survivors report.beta n) (within : stopped ≤ n)
    (joined : rotated ≤ report.refined.length)
    (history : report.history = PhaseRecord.large n report.alpha stopped kept rotated
      report.refined.length rotating saturating) :
    report.LargeCounts stopped kept rotated := by
  refine ⟨greedy, survivors, within, joined, ⟨rotating, saturating, history, ?_⟩, ?_, ?_⟩
  · rw [← summed.scoreCalls, history, PhaseRecord.sum_scoreCalls_large within]
  · rw [history, PhaseRecord.sum_constructions_large within]
  · rw [← summed.feasibilityCalls, history, PhaseRecord.sum_feasibilityCalls_large]

end Report

/-! ## Main result -/

theorem Scene.Passage.counts {scene : Scene σ δ α n} {config : Config} {direction : Direction}
    {start : Stage σ n} (p : Passage scene config direction start)
    (headed : start.run.direction = direction) (sound : start.run.selection.Sound)
    (empty : start.run.selection.size = 0) (fresh : start.run.history = []) (summed : p.report.Summed) : p.report.Counts := by
  have still := (asks_isFeasible _ p.check).toStill
  have kept := p.length_trimmed headed sound
  cases direction with
  | minimize =>
    obtain ⟨joined, history⟩ := p.history_of_minimize headed sound empty fresh
    exact ⟨_, summed.smallCounts kept joined (still.history.trans history)⟩
  | maximize =>
    obtain ⟨joined, stopped, rotating, saturating, within, history⟩ :=
      p.history_of_maximize headed sound empty fresh
    have whole := p.length_greedy_of_maximize sound
    rw [whole] at kept
    exact ⟨_, _, _, summed.largeCounts whole kept within joined (still.history.trans history)⟩

namespace Session

theorem counts_of_perform {s : Session (Transcript σ α) δ n} {problem : Problem σ δ α n}
    {direction : Direction} {alpha beta : Value} {best : List (Fin n)}
    (empty : s.solver.caller.exchanges = [])
    (completed : (s.perform problem.transcribed (.optimize direction alpha beta)).answer =
      .ok (.positions best)) :
    let after := (s.perform problem.transcribed (.optimize direction alpha beta)).after
    ∃ config report, s.solver.callConfig alpha beta = .ok config ∧ after.solver.Recalls report ∧
      report.direction = direction ∧ report.best = best ∧ report.alpha = config.alpha ∧
      report.beta = config.beta ∧ report.Counts ∧
      report.Accounted problem.candidates after.solver.caller.exchanges := by
  intro after
  obtain ⟨same, ended, _⟩ := s.perform_optimize
  rw [same] at completed
  obtain ⟨found, optimized, replied⟩ := map_eq_ok.1 completed
  cases replied
  obtain ⟨config, overridden, p, rfl, outcome⟩ := Solver.passage_of_optimize optimized
  have accounted := Solver.accounted_of_passage p empty
  have summed : p.report.Summed := ⟨accounted.scoreCalls, accounted.feasibilityCalls⟩
  have sound : (s.solver.start direction config).run.selection.Sound := Solver.sound_start config
  have left : after.solver = _ := ended.trans (congrArg Outcome.after outcome)
  rw [left]
  exact ⟨config, p.report, overridden, Solver.recalls_of_passage p, rfl, rfl,
    rfl, rfl, p.counts rfl sound rfl rfl summed, accounted⟩

/-- Whatever the callbacks do, the sizes in the report of a full run that completes tell how often
they were called: in each phase as its record says, and in all as the totals say. -/
theorem counts_of_run {s : Session σ δ n} {problem : Problem σ δ α n}
    {direction : Direction} {alpha beta : Value} {best : List (Fin n)}
    (completed : (s.perform problem (.optimize direction alpha beta)).answer =
      .ok (.positions best)) :
    ∃ config report, s.solver.callConfig alpha beta = .ok config ∧
      (s.perform problem (.optimize direction alpha beta)).after.solver.Recalls report ∧
      report.direction = direction ∧ report.best = best ∧ report.alpha = config.alpha ∧
      report.beta = config.beta ∧ report.Counts ∧
      report.Accounted problem.candidates
        (s.transcript problem (.optimize direction alpha beta)) := by
  obtain ⟨answer, after, _⟩ := perform_transcribed problem s (.optimize direction alpha beta)
  obtain ⟨config, report, overridden, recalls, rest⟩ :=
    counts_of_perform rfl (answer.trans completed)
  refine ⟨config, report, overridden, ?_, rest⟩
  rw [← after]
  exact ⟨recalls.greedy, recalls.refined, recalls.report⟩

def ofFour : Session Unit Unit 4 := { solver := .plain 4 }

/-- A small run over four numbers, two of which survive removal, and a large run over three numbers,
whose rounds lead from three to two. -/
theorem counts_of_two_runs :
    let half : Value := .real (.ofRatio false 1 2)
    let small := ofFour.perform .twoOfFour (.optimize .minimize .absent half)
    let large := ofThree.perform .anyTwo (.optimize .maximize .absent .absent)
    small.answer = .ok (.positions [3, 1, 2]) ∧ large.answer = .ok (.positions [0, 1, 2]) ∧
      (∃ report, small.after.solver.Recalls report ∧ report.direction = .minimize ∧
        report.Counts ∧ report.scoreCalls = 24 ∧ report.feasibilityCalls = 8) ∧
      ∃ report, large.after.solver.Recalls report ∧ report.direction = .maximize ∧
        report.Counts ∧ report.scoreCalls = 11 ∧ report.feasibilityCalls = 6 := by
  have small : ((Solver.plain 4).optimize .twoOfFour .minimize .absent
      (.real (.ofRatio false 1 2))).answer = .ok [3, 1, 2] := eq_ok_of_toOption (by decide +kernel)
  have large : ((Solver.plain 3).optimize .anyTwo .maximize .absent .absent).answer =
      .ok [0, 1, 2] := eq_ok_of_toOption (by decide +kernel)
  have four : (ofFour.perform .twoOfFour (.optimize .minimize .absent
      (.real (.ofRatio false 1 2)))).answer = .ok (.positions [3, 1, 2]) :=
    perform_optimize.1.trans (congrArg _ small)
  have three : (ofThree.perform .anyTwo (.optimize .maximize .absent .absent)).answer =
      .ok (.positions [0, 1, 2]) := perform_optimize.1.trans (congrArg _ large)
  have sums : (ofFour.perform .twoOfFour (.optimize .minimize .absent
      (.real (.ofRatio false 1 2)))).after.solver.memory.report.map (fun report =>
        (report.scoreCalls, report.feasibilityCalls)) = some (24, 8) := by decide +kernel
  have totals : (ofThree.perform .anyTwo
      (.optimize .maximize .absent .absent)).after.solver.memory.report.map (fun report =>
        (report.scoreCalls, report.feasibilityCalls)) = some (11, 6) := by decide +kernel
  obtain ⟨_, report, _, recalls, minimize, _, _, _, counts, _⟩ := counts_of_run four
  obtain ⟨_, other, _, recalled, maximize, _, _, _, counted, _⟩ := counts_of_run three
  rw [recalls.report] at sums
  rw [recalled.report] at totals
  obtain ⟨scores, tests⟩ := Prod.mk.inj (Option.some.inj sums)
  obtain ⟨scored, tested⟩ := Prod.mk.inj (Option.some.inj totals)
  exact ⟨four, three, ⟨report, recalls, minimize, counts, scores, tests⟩,
    other, recalled, maximize, counted, scored, tested⟩

end Session

end Carousel
