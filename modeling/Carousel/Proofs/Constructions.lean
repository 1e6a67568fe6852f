import Carousel.Proofs.Session
import Carousel.Proofs.Solver

/-!
# One greedy construction

Greedy runs and full runs build their greedy solution by the same choices, whatever multiplier and
share a full run goes by.  A large construction begins with the small one and goes on until nothing
is left.
-/

namespace Carousel

open Act (Completes Lockstep)

variable {σ δ α : Type} {n : Nat} {K : σ → σ → Prop}

/-- The callbacks are functions of what they are shown and of what they are asked. -/
structure Problem.Functional (problem : Problem σ δ α n) : Prop where
  feasible : ∀ (view : View δ) selected c d,
    ((problem.feasible view selected).perform c).1 = ((problem.feasible view selected).perform d).1
  score : ∀ (view : View δ) selected candidate c d,
    ((problem.score view selected candidate).perform c).1 =
      ((problem.score view selected candidate).perform d).1

theorem Problem.Functional.agrees {problem : Problem σ δ α n} (functional : problem.Functional) :
    problem.Agrees 0 (fun _ _ => True) problem := by
  constructor
  · rfl
  · rfl
  · intro c d view selected _
    rw [Nat.zero_add]
    exact ⟨functional.feasible view selected c d, trivial⟩
  · intro c d view selected candidate _
    rw [Nat.zero_add]
    exact ⟨functional.score view selected candidate c d, trivial⟩

namespace Scene

variable {scene : Scene σ δ α n} {s t : Stage σ n} {small large : List (Fin n)}

theorem prefix_of_construction (sound : s.run.selection.Sound)
    (completed : scene.construction.Completes s () t) :
    s.run.selection.order <+: t.run.selection.order := by
  obtain ⟨flag, m, grows, rfl⟩ := grows_of_construction sound completed
  exact (grows.grown asks_isConstructed asks_selectRemaining sound).order

theorem perm_of_construction_maximize (headed : s.run.direction = .maximize)
    (sound : s.run.selection.Sound) (completed : scene.construction.Completes s () t) :
    t.run.selection.order.Perm (List.finRange n) := by
  obtain ⟨flag, m, grows, rfl⟩ := grows_of_construction sound completed
  cases grows.not_stopped_of_maximize headed sound
  rw [selection_noted]
  exact grows.full asks_isConstructed sound

/-- A large construction contains the small one from the same stage, and takes every candidate. -/
theorem greedy_minimize_of_maximize (sound : s.run.selection.Sound)
    (completed : (scene.greedy .maximize).Completes s large t) :
    ∃ small m,
      (scene.greedy .minimize).Completes { s with run := { s.run with direction := .minimize } }
        small m ∧
      small <+: large ∧ large.Perm (List.finRange n) := by
  obtain ⟨m, first, second, rfl⟩ := completes_greedy_maximize.1 completed
  have between : m.run.selection.Sound := (past_of_construction (by exact sound) first).sound
  refine ⟨m.run.selection.order, m, completes_greedy_minimize.2 ⟨first, rfl⟩, ?_, ?_⟩
  · exact prefix_of_construction (s := { m with run := { m.run with direction := .maximize } })
      between second
  · exact perm_of_construction_maximize rfl (by exact between) second

end Scene

namespace Solver

variable {s t : Solver σ δ n} {problem : Problem σ δ α n} {direction : Direction}
  {found : List (Fin n)}

/-- The solvers go by the same configuration and data and draw the same numbers; their callers are
related, and what they remember may differ. -/
structure StartsLike (K : σ → σ → Prop) (s t : Solver σ δ n) : Prop where
  config : s.config = t.config
  data : s.data = t.data
  generator : s.generator = t.generator
  iteration : s.iteration = t.iteration
  caller : K s.caller t.caller

/-- A construction that comes to its end is the answer of a greedy run, and what it remembers. -/
theorem construct_of_completes {m : Stage σ n}
    (completed : ((s.scene problem .itself).greedy direction).Completes (s.start direction s.config)
      found m) :
    (s.construct problem direction).answer = .ok found ∧
      (s.construct problem direction).after.memory.greedy = some found := by
  let course : Course σ n := { stage := s.start direction s.config, memory := s.memory }
  have ran : ((s.scene problem .itself).greedyRun direction).Completes course found _ :=
    Scene.completes_greedyRun.2 ⟨m, completed, rfl⟩
  have ended : s.construct problem direction = _ := onNewRun_of_completes ran
  rw [ended]
  exact ⟨rfl, rfl⟩

/-- The answer of a greedy run is that of its construction. -/
theorem answer_construct :
    (s.construct problem direction).answer =
      (((s.scene problem .itself).greedy direction).perform (s.start direction s.config)).1 := by
  obtain ⟨found, m, completed⟩ | ⟨fault, m, failed⟩ := Act.completes_or_fails
    ((s.scene problem .itself).greedy direction) (s.start direction s.config)
  · rw [completed]
    exact (construct_of_completes completed).1
  · let course : Course σ n := { stage := s.start direction s.config, memory := s.memory }
    have ran : ((s.scene problem .itself).greedyRun direction).Fails course fault _ :=
      Act.fails_bind.2 (.inl (Scene.fails_onStage.2 ⟨m, failed, rfl⟩))
    rw [failed]
    exact congrArg Prod.fst ran

theorem construct_eq_ok_iff :
    (s.construct problem direction).answer = .ok found ↔
      ∃ m, ((s.scene problem .itself).greedy direction).Completes (s.start direction s.config)
        found m := by
  rw [answer_construct]
  constructor
  · intro answered
    exact ⟨_, Act.completes_of_fst answered⟩
  · intro ⟨m, constructed⟩
    exact congrArg Prod.fst constructed

theorem greedy_of_construct (answered : (s.construct problem direction).answer = .ok found) :
    (s.construct problem direction).after.memory.greedy = some found := by
  obtain ⟨m, constructed⟩ := construct_eq_ok_iff.1 answered
  exact (construct_of_completes constructed).2

theorem StartsLike.answer_construct_eq (alike : StartsLike K s t)
    (agrees : problem.Agrees 0 K problem) (direction : Direction) :
    (s.construct problem direction).answer = (t.construct problem direction).answer := by
  have stages : Stage.Alike 0 K (s.start direction s.config) (t.start direction t.config) := by
    refine ⟨?_, ?_, alike.generator, rfl, alike.caller⟩
    · rw [alike.config]
      rfl
    · rw [Nat.zero_add]
      exact alike.iteration
  have scenes : Scene.Matched Eq (Stage.Alike 0 K) (s.scene problem .itself)
      (t.scene problem .itself) := by
    unfold scene
    rw [alike.data, alike.config]
    exact agrees.unison _ _ _
  rw [answer_construct, answer_construct]
  exact (scenes.lockstep_greedy direction stages).1.eq

theorem construct_of_optimize {alpha beta : Value} {best : List (Fin n)}
    (completed : (s.optimize problem direction alpha beta).answer = .ok best) :
    ∃ report, (s.optimize problem direction alpha beta).after.Recalls report ∧
      (s.construct problem direction).answer = .ok report.greedy := by
  obtain ⟨config, overridden, p, _, outcome⟩ := passage_of_optimize completed
  refine ⟨p.report, ?_, construct_of_passage overridden p⟩
  rw [outcome]
  exact recalls_of_passage p

theorem construct_minimize_of_maximize {large : List (Fin n)}
    (completed : (s.construct problem .maximize).answer = .ok large) :
    ∃ small, (s.construct problem .minimize).answer = .ok small ∧ small <+: large ∧
      large.Perm (List.finRange n) := by
  obtain ⟨t, constructed⟩ := construct_eq_ok_iff.1 completed
  obtain ⟨small, m, first, initial, full⟩ :=
    Scene.greedy_minimize_of_maximize (sound_start s.config) constructed
  exact ⟨small, construct_eq_ok_iff.2 ⟨m, first⟩, initial, full⟩

end Solver

namespace Session

variable {s t : Session σ δ n} {problem : Problem σ δ α n}

theorem construct_eq_ok_iff {direction : Direction} {found : List (Fin n)} :
    (s.perform problem (.construct direction)).answer = .ok (.positions found) ↔
      (s.solver.construct problem direction).answer = .ok found := by
  show (s.solver.construct problem direction).answer.map Reply.positions = _ ↔ _
  rw [map_eq_ok]
  constructor
  · intro ⟨_, answered, same⟩
    cases same
    exact answered
  · intro answered
    exact ⟨found, answered, rfl⟩

/-- From the same start, with callbacks that answer alike, every way to a greedy solution leads to the
same one: what a full run records is what a greedy run in its direction returns and records, for
every multiplier and share.  The small greedy solution is where the large one begins, and that has
all candidates. -/
theorem one_greedy_construction (agrees : problem.Agrees 0 K problem)
    (alike : s.solver.StartsLike K t.solver) :
    (∀ direction alpha beta best,
      (t.perform problem (.optimize direction alpha beta)).answer = .ok (.positions best) →
        ∃ report, (t.perform problem (.optimize direction alpha beta)).after.solver.Recalls report ∧
          (s.perform problem (.construct direction)).answer = .ok (.positions report.greedy) ∧
          (s.perform problem (.construct direction)).after.solver.memory.greedy =
            some report.greedy) ∧
    ∀ large, (t.perform problem (.construct .maximize)).answer = .ok (.positions large) →
      large.Perm (List.finRange n) ∧
      (problem.candidates.elementsAt large).Perm problem.candidates.toList ∧
      ∃ small, (s.perform problem (.construct .minimize)).answer = .ok (.positions small) ∧
        small <+: large := by
  constructor
  · intro direction alpha beta best completed
    have same : (t.perform problem (.optimize direction alpha beta)).answer = _ :=
      perform_optimize.1
    have ended : (t.perform problem (.optimize direction alpha beta)).after.solver = _ :=
      perform_optimize.2.1
    rw [same] at completed
    obtain ⟨_, optimized, _⟩ := map_eq_ok.1 completed
    obtain ⟨report, recalls, constructed⟩ := Solver.construct_of_optimize optimized
    have answered := (alike.answer_construct_eq agrees direction).trans constructed
    refine ⟨report, ?_, construct_eq_ok_iff.2 answered, Solver.greedy_of_construct answered⟩
    rw [ended]
    exact recalls
  · intro large completed
    obtain ⟨small, constructed, initial, full⟩ :=
      Solver.construct_minimize_of_maximize (construct_eq_ok_iff.1 completed)
    have answered := (alike.answer_construct_eq agrees .minimize).trans constructed
    exact ⟨full, Universe.elementsAt_perm full, small, construct_eq_ok_iff.2 answered, initial⟩

end Session

/-- Four numbers of which two are enough.  The scores tie towards a small selection and count the
calls towards both, without going by the count. -/
def Problem.counted : Problem Nat Unit Nat 4 :=
  { candidates := ⟨Vector.range 4, by decide⟩
    feasible := fun _ selected => pure (decide (2 ≤ selected.length))
    score := fun view _ number => do
      modify (· + 1)
      return .int (if view.direction = some .minimize then 0 else number)
    label := toString }

theorem Problem.functional_counted : Problem.counted.Functional :=
  ⟨fun _ _ _ _ => rfl, fun _ _ _ _ _ => rfl⟩

/-- Ties are broken by the same draws, although one of the callers has been called before. -/
theorem Session.one_greedy_construction_of_four_numbers :
    let solver : Solver Nat Unit 4 := .fresh { (default : Config) with randomTieBreak := true } () 0
    let s : Session Nat Unit 4 := { solver }
    let t : Session Nat Unit 4 := { solver := { solver with caller := 7 } }
    (s.perform .counted (.construct .minimize)).answer = .ok (.positions [3, 1]) ∧
      (s.perform .counted (.construct .minimize)).after.solver.generator ≠ solver.generator ∧
      (t.perform .counted (.optimize .minimize (.int 2) .absent)).answer =
        .ok (.positions [1, 0]) ∧
      (∃ report, report.greedy = [3, 1] ∧
        (t.perform .counted (.optimize .minimize (.int 2) .absent)).after.solver.Recalls report) ∧
      (t.perform .counted (.construct .maximize)).answer = .ok (.positions [3, 1, 2, 0]) ∧
      ([3, 1] : List (Fin 4)) <+: [3, 1, 2, 0] := by
  intro solver s t
  have alike : s.solver.StartsLike (fun _ _ => True) t.solver := ⟨rfl, rfl, rfl, rfl, trivial⟩
  obtain ⟨full, large⟩ := one_greedy_construction Problem.functional_counted.agrees alike
  have constructed : (s.perform .counted (.construct .minimize)).answer = .ok (.positions [3, 1]) :=
    construct_eq_ok_iff.2 (eq_ok_of_toOption (by decide +kernel))
  have optimized : (t.perform .counted (.optimize .minimize (.int 2) .absent)).answer =
      .ok (.positions [1, 0]) := by
    have found : (t.solver.optimize .counted .minimize (.int 2) .absent).answer = .ok [1, 0] :=
      eq_ok_of_toOption (by decide +kernel)
    rw [t.perform_optimize.1, found]
    rfl
  have extended : (t.perform .counted (.construct .maximize)).answer =
      .ok (.positions [3, 1, 2, 0]) :=
    construct_eq_ok_iff.2 (eq_ok_of_toOption (by decide +kernel))
  obtain ⟨report, recalls, recorded, _⟩ := full _ _ _ _ optimized
  obtain ⟨_, _, small, begun, initial⟩ := large _ extended
  have same : [3, 1] = report.greedy :=
    Reply.positions.inj (Except.ok.inj (constructed.symm.trans recorded))
  have first : [3, 1] = small := Reply.positions.inj (Except.ok.inj (constructed.symm.trans begun))
  exact ⟨constructed, by decide +kernel, optimized, ⟨report, same.symm, recalls⟩, extended,
    first ▸ initial⟩

end Carousel
