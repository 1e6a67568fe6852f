import Mathlib
import Carousel.Proofs.Rounds
import Carousel.Proofs.Run.Enactment

/-!
# What the history of a run accounts for

A phase leaves one record, which counts what was asked during the phase.  The records of a completed
full run follow one another without a gap, so their sums are the counts of the whole run, and only
the test of the returned solution is in none of them.
-/

namespace Carousel

open Stage (Kept Counted Follows Heard)
open Scene (Passage)

variable {σ δ α : Type} {n : Nat}

/-! ## Records in a row -/

/-- The records lead from one size to another: each begins with the size at which the one before it
ends.  What was asked meanwhile falls into one part for each record, and the record counts its part. -/
inductive PhaseRecord.Account : List PhaseRecord → Nat → List (Exchange α) → Nat → Prop where
  | done {size} : Account [] size [] size
  | more {record : PhaseRecord} {records heard later after}
      (scoreCalls : record.scoreCalls = heard.countP Exchange.isScored)
      (feasibilityCalls : record.feasibilityCalls = heard.countP Exchange.isTested)
      (rest : Account records record.sizeAfter later after) :
      Account (record :: records) record.sizeBefore (heard ++ later) after

namespace PhaseRecord.Account

variable {records further : List PhaseRecord} {before middle after : Nat}
  {heard later : List (Exchange α)}

theorem append (first : Account records before heard middle)
    (second : Account further middle later after) :
    Account (records ++ further) before (heard ++ later) after := by
  induction first with
  | done => exact second
  | more scoreCalls feasibilityCalls _ ih =>
    rw [List.append_assoc]
    exact .more scoreCalls feasibilityCalls (ih second)

theorem sum_scoreCalls (account : Account records before heard after) :
    (records.map PhaseRecord.scoreCalls).sum = heard.countP Exchange.isScored := by
  induction account with
  | done => rfl
  | more scoreCalls _ _ ih =>
    rw [List.map_cons, List.sum_cons, ih, scoreCalls, List.countP_append]

theorem sum_feasibilityCalls (account : Account records before heard after) :
    (records.map PhaseRecord.feasibilityCalls).sum = heard.countP Exchange.isTested := by
  induction account with
  | done => rfl
  | more _ feasibilityCalls _ ih =>
    rw [List.map_cons, List.sum_cons, ih, feasibilityCalls, List.countP_append]

end PhaseRecord.Account

open PhaseRecord (Account)

/-! ## Stages between which phases were recorded -/

namespace Stage

structure Recorded (plan : List Phase) (records : List PhaseRecord) (heard : List (Exchange α))
    (s t : Stage (Transcript σ α) n) : Prop where
  phases : records.map PhaseRecord.phase = plan
  history : t.run.history = s.run.history ++ records
  rounds : t.run.rounds = s.run.rounds + (records.map PhaseRecord.rounds).sum
  told : Heard heard s t
  account : Account records s.run.selection.size heard t.run.selection.size

variable {s m t : Stage (Transcript σ α) n} {plan others : List Phase}
  {records further : List PhaseRecord} {heard later : List (Exchange α)}

theorem Recorded.trans (first : Recorded plan records heard s m)
    (second : Recorded others further later m t) :
    Recorded (plan ++ others) (records ++ further) (heard ++ later) s t where
  phases := by rw [List.map_append, first.phases, second.phases]
  history := by rw [second.history, first.history, List.append_assoc]
  rounds := by rw [second.rounds, first.rounds, List.map_append, List.sum_append, Nat.add_assoc]
  told := first.told.trans second.told
  account := first.account.append second.account

/-- Records do not depend on the direction in which a run begins. -/
theorem Recorded.of_turn {direction : Direction}
    (recorded : Recorded plan records heard { s with run := { s.run with direction } } t) :
    Recorded plan records heard s t :=
  ⟨recorded.phases, recorded.history, recorded.rounds,
    ⟨recorded.told.exchanges, recorded.told.scoreCalls, recorded.told.feasibilityCalls⟩,
    recorded.account⟩

end Stage

open Stage (Recorded)

namespace Scene

variable {scene : Scene (Transcript σ α) δ α n} {s m t : Stage (Transcript σ α) n}
  {direction : Direction}

/-! ## The phases -/

/-- A phase leaves one record, which counts what was asked from its beginning to its end. -/
theorem recorded_of_noted {phase : Phase} {count : Nat}
    {law : List (Exchange α) → List (Fin n) → Prop} (kept : Kept s m)
    (counted : Counted count s (scene.noted (recordOf phase s.run m.run count) m))
    (follows : Follows law s (scene.noted (recordOf phase s.run m.run count) m)) :
    ∃ records heard,
      Recorded [phase] records heard s (scene.noted (recordOf phase s.run m.run count) m) := by
  obtain ⟨_, heard, told, _⟩ := follows
  have scoreCalls : m.run.scoreCalls = s.run.scoreCalls + heard.countP Exchange.isScored :=
    told.scoreCalls
  have feasibilityCalls :
      m.run.feasibilityCalls = s.run.feasibilityCalls + heard.countP Exchange.isTested :=
    told.feasibilityCalls
  refine ⟨_, heard, rfl, congrArg (· ++ _) kept.history, counted.rounds, told, ?_⟩
  rw [← List.append_nil heard]
  refine .more ?_ ?_ .done
  · exact Nat.sub_eq_of_eq_add' scoreCalls
  · exact Nat.sub_eq_of_eq_add' feasibilityCalls

theorem recorded_of_construction {answer : Unit} (transcribes : scene.Transcribes)
    (sound : s.run.selection.Sound) (completed : scene.construction.Completes s answer t) :
    ∃ records heard, Recorded [.construction] records heard s t := by
  have follows := ((enacts_construction transcribes sound rfl).of_completes completed).1
  have counted := counted_of_construction sound completed
  obtain ⟨flag, m, grows, rfl⟩ := grows_of_construction sound completed
  have grown := grows.grown asks_isConstructed asks_selectRemaining sound
  exact recorded_of_noted grown.toKept counted follows

theorem recorded_of_removal {removed : List (Fin n)} (sound : s.run.selection.Sound)
    (completed : scene.removal.Completes s removed t) :
    ∃ records heard, Recorded [.removal] records heard s t := by
  have follows := ((enacts_removal sound rfl).of_completes completed).1
  have counted := counted_of_removal completed
  obtain ⟨_, _, _, rfl⟩ := completes_removal.1 completed
  exact recorded_of_noted ⟨rfl, rfl, rfl, rfl⟩ counted follows

theorem recorded_of_iterative {rounds count : Nat} (transcribes : scene.Transcribes)
    (sound : s.run.selection.Sound) (completed : (scene.iterative rounds).Completes s count t) :
    ∃ records heard, Recorded [.iterative] records heard s t := by
  have follows := ((enacts_iterative transcribes rounds sound rfl).of_completes completed).1
  have counted := counted_of_iterative sound completed
  obtain ⟨_, joining, m, rotates, rfl⟩ :=
    rotates_of_iterative scene.problem.candidates.nonempty sound completed
  have rotated := rotates.rotated sound
  exact recorded_of_noted (m := { m with run := { m.run with rounds := m.run.rounds + rounds } })
    ⟨rotated.direction, rotated.config, rotated.history, rotated.notices⟩ counted follows

theorem recorded_of_completion {flag : Bool} (transcribes : scene.Transcribes)
    (sound : s.run.selection.Sound) (completed : scene.completion.Completes s flag t) :
    ∃ records heard, Recorded [.completion] records heard s t := by
  have follows := ((enacts_completion transcribes sound rfl).of_completes completed).1
  have counted := counted_of_completion sound completed
  cases direction : s.run.direction with
  | minimize =>
    obtain ⟨m, grows, rfl⟩ := grows_of_completion_minimize direction sound completed
    have grown := grows.grown asks_isRepaired asks_selectRemaining sound
    exact recorded_of_noted grown.toKept counted follows
  | maximize =>
    obtain ⟨_, m, grows, rfl⟩ := grows_of_completion_maximize direction sound completed
    have grown := grows.grown (asks_pure _) asks_selectFitting sound
    exact recorded_of_noted grown.toKept counted follows

/-! ## Full runs -/

theorem recorded_of_greedy {found : List (Fin n)} (transcribes : scene.Transcribes)
    (sound : s.run.selection.Sound) (completed : (scene.greedy direction).Completes s found t) :
    ∃ records heard, Recorded (direction.constructions.map Prod.fst) records heard s t := by
  cases direction with
  | minimize =>
    exact recorded_of_construction transcribes sound (completes_greedy_minimize.1 completed).1
  | maximize =>
    obtain ⟨m, first, second, _⟩ := completes_greedy_maximize.1 completed
    have between := (past_of_construction (by exact sound) first).sound
    obtain ⟨_, _, small⟩ := recorded_of_construction transcribes (by exact sound) first
    obtain ⟨_, _, large⟩ := recorded_of_construction transcribes (by exact between) second
    exact ⟨_, _, small.of_turn.trans large.of_turn⟩

/-- A completed test is one exchange. -/
theorem heard_isFeasible {positions : List (Fin n)} {verdict : Bool}
    (transcribes : scene.Transcribes)
    (completed : (scene.isFeasible positions).Completes s verdict t) :
    Heard [.tested (scene.problem.candidates.elementsAt positions) (.ok verdict)] s t := by
  obtain ⟨caller, performed, rfl⟩ := completes_isFeasible.1 completed
  obtain ⟨answer, _, transcribed⟩ := transcribes.feasible (scene.view s)
    (scene.problem.candidates.elementsAt positions) s.caller
  rw [transcribed] at performed
  cases performed
  exact ⟨rfl, rfl, rfl⟩

namespace Passage

variable {config : Config} {start : Stage (Transcript σ α) n}

theorem recorded_refinements (p : Passage scene config direction start) (transcribes : scene.Transcribes)
    (headed : start.run.direction = direction) (sound : start.run.selection.Sound) :
    ∃ records heard,
      Recorded [.removal, .iterative, .completion] records heard p.constructed p.completed := by
  have constructed := (p.past_constructed headed sound).sound
  have trimmed := (p.past_trimmed headed sound).sound
  have rotated := (p.past_rotated headed sound).sound
  obtain ⟨_, _, removal⟩ := recorded_of_removal constructed p.removal
  obtain ⟨_, _, iterative⟩ := recorded_of_iterative transcribes trimmed p.iterative
  obtain ⟨_, _, completion⟩ := recorded_of_completion transcribes rotated p.completion
  exact ⟨_, _, (removal.trans iterative).trans completion⟩

theorem isFeasible_report (p : Passage scene config direction start) :
    p.report.isFeasible = p.verdict := by
  show decide (p.status = .feasible) = p.verdict
  unfold status
  cases p.verdict with
  | true => rfl
  | false => rfl

end Passage

end Scene

/-! ## Main result -/

/-- A report and what was asked during the run account for each other.  The history has a record for
each phase, in the order of the phases.  The records lead from no candidate to the greedy solution and
from there to the refined one, and what they do not count is the test of the returned solution, which
comes last. -/
structure Report.Accounted (report : Report (Fin n)) (u : Universe α n)
    (heard : List (Exchange α)) : Prop where
  history : ∃ constructions refinements constructing refining,
    report.history = constructions ++ refinements ∧
    heard = constructing ++ refining ++
      [.tested (u.elementsAt report.best) (.ok report.isFeasible)] ∧
    constructions.map PhaseRecord.phase = report.direction.constructions.map Prod.fst ∧
    refinements.map PhaseRecord.phase = [.removal, .iterative, .completion] ∧
    Account constructions 0 constructing report.greedy.length ∧
    Account refinements report.greedy.length refining report.refined.length
  rounds : (report.history.map PhaseRecord.rounds).sum = report.rounds
  scoreCalls : (report.history.map PhaseRecord.scoreCalls).sum = report.scoreCalls
  scored : report.scoreCalls = heard.countP Exchange.isScored
  feasibilityCalls :
    (report.history.map PhaseRecord.feasibilityCalls).sum + 1 = report.feasibilityCalls
  tested : report.feasibilityCalls = heard.countP Exchange.isTested

/-- The report of a run accounts for everything that was asked. -/
theorem Solver.accounted_of_passage {solver : Solver (Transcript σ α) δ n}
    {problem : Problem σ δ α n} {direction : Direction} {config : Config}
    (p : Passage (solver.scene problem.transcribed .itself) config direction
      (solver.start direction config))
    (empty : solver.caller.exchanges = []) :
    p.report.Accounted problem.candidates p.checked.caller.exchanges := by
  have transcribes := Scene.transcribes_transcribed problem solver.data solver.config .itself
  have sound : (solver.start direction config).run.selection.Sound := sound_start config
  obtain ⟨constructions, constructing, first⟩ :=
    Scene.recorded_of_greedy transcribes sound p.construction
  obtain ⟨refinements, refining, second⟩ := p.recorded_refinements transcribes rfl sound
  have whole := first.trans second
  -- The test at the end is heard and counted, but leaves no record.
  have told : Heard (constructing ++ refining ++
      [.tested (problem.candidates.elementsAt p.best) (.ok p.verdict)])
      (solver.start direction config) p.checked :=
    whole.told.trans (Scene.heard_isFeasible transcribes p.check)
  have still := (Scene.asks_isFeasible _ p.check).toStill
  have history : p.report.history = constructions ++ refinements :=
    still.history.trans whole.history
  have heard := told.exchanges.trans (congrArg (· ++ _) empty)
  rw [List.nil_append] at heard
  have rounds : p.report.rounds = _ := still.rounds.trans (whole.rounds.trans (Nat.zero_add _))
  have scored : p.report.scoreCalls = _ := told.scoreCalls.trans (Nat.zero_add _)
  have tested : p.report.feasibilityCalls = _ := told.feasibilityCalls.trans (Nat.zero_add _)
  refine ⟨⟨constructions, refinements, constructing, refining, history, ?_, first.phases,
    second.phases, ?_, ?_⟩, ?_, ?_, ?_, ?_, ?_⟩
  · rw [p.isFeasible_report]
    exact heard
  · exact p.length_greedy ▸ first.account
  · exact p.length_greedy ▸ second.account
  · rw [history, rounds]
  · rw [scored, List.countP_append, history, whole.account.sum_scoreCalls]
    rfl
  · rw [heard, scored]
  · rw [tested, List.countP_append, history, whole.account.sum_feasibilityCalls]
    rfl
  · rw [heard, tested]

namespace Session

theorem accounted_of_perform {s : Session (Transcript σ α) δ n} {problem : Problem σ δ α n}
    {direction : Direction} {alpha beta : Value} {best : List (Fin n)}
    (empty : s.solver.caller.exchanges = [])
    (completed : (s.perform problem.transcribed (.optimize direction alpha beta)).answer =
      .ok (.positions best)) :
    let after := (s.perform problem.transcribed (.optimize direction alpha beta)).after
    ∃ report, after.solver.Recalls report ∧ report.direction = direction ∧ report.best = best ∧
      report.Accounted problem.candidates after.solver.caller.exchanges := by
  intro after
  obtain ⟨same, ended, _⟩ := s.perform_optimize
  rw [same] at completed
  obtain ⟨found, optimized, replied⟩ := map_eq_ok.1 completed
  cases replied
  obtain ⟨config, _, p, rfl, outcome⟩ := Solver.passage_of_optimize optimized
  have left : after.solver = _ := ended.trans (congrArg Outcome.after outcome)
  rw [left]
  exact ⟨p.report, Solver.recalls_of_passage p, rfl, rfl, Solver.accounted_of_passage p empty⟩

/-- Whatever was done on a session before, and whatever the callbacks do, the report of a full run
that completes accounts for everything that was asked during the run: for its phases and the sizes
between them, for every score and every test, and for the rounds. -/
theorem history_accounts_for_run {s : Session σ δ n} {problem : Problem σ δ α n}
    {direction : Direction} {alpha beta : Value} {best : List (Fin n)}
    (completed : (s.perform problem (.optimize direction alpha beta)).answer =
      .ok (.positions best)) :
    ∃ report, (s.perform problem (.optimize direction alpha beta)).after.solver.Recalls report ∧
      report.direction = direction ∧ report.best = best ∧
      report.Accounted problem.candidates
        (s.transcript problem (.optimize direction alpha beta)) := by
  obtain ⟨answer, after, _⟩ := perform_transcribed problem s (.optimize direction alpha beta)
  obtain ⟨report, recalls, turned, found, accounted⟩ :=
    accounted_of_perform rfl (answer.trans completed)
  refine ⟨report, ?_, turned, found, accounted⟩
  -- The transcript leaves what the solver remembers alone.
  rw [← after]
  exact ⟨recalls.greedy, recalls.refined, recalls.report⟩

def ofThree : Session Unit Unit 3 := { solver := .plain 3 }

/-- A large run over three numbers of which any two are feasible: both constructions and the
iterative phase change the size, and eleven scores and six tests pass. -/
theorem history_of_three_numbers :
    (ofThree.perform .anyTwo (.optimize .maximize .absent .absent)).answer =
        .ok (.positions [0, 1, 2]) ∧
      (ofThree.transcript .anyTwo (.optimize .maximize .absent .absent)).length = 17 ∧
      ∃ report, (ofThree.perform .anyTwo
          (.optimize .maximize .absent .absent)).after.solver.Recalls report ∧
        report.history.map PhaseRecord.sizeAfter = [0, 3, 3, 2, 2] ∧
        report.Accounted Problem.anyTwo.candidates
          (ofThree.transcript .anyTwo (.optimize .maximize .absent .absent)) := by
  have optimized : ((Solver.plain 3).optimize .anyTwo .maximize .absent .absent).answer =
      .ok [0, 1, 2] := eq_ok_of_toOption (by decide +kernel)
  have completed : (ofThree.perform .anyTwo (.optimize .maximize .absent .absent)).answer =
      .ok (.positions [0, 1, 2]) := perform_optimize.1.trans (congrArg _ optimized)
  obtain ⟨report, recalls, _, _, accounted⟩ := history_accounts_for_run completed
  have sizes : (ofThree.perform .anyTwo
      (.optimize .maximize .absent .absent)).after.solver.memory.report.map
        (·.history.map PhaseRecord.sizeAfter) = some [0, 3, 3, 2, 2] := by decide +kernel
  rw [recalls.report] at sizes
  exact ⟨completed, by decide +kernel, report, recalls, Option.some.inj sizes, accounted⟩

end Session

end Carousel
