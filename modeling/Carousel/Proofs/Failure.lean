import Carousel.Proofs.Run.Breakage
import Carousel.Proofs.Run.Course
import Carousel.Proofs.Session
import Carousel.Proofs.Solver

/-!
# What a failing call leaves

A refused override leaves everything as it was, and no callback is called.  A fault that a callback
raises travels to the caller unchanged; the stored configuration and the report stay, and the solutions
are replaced by what the run had found before the fault.
-/

namespace Carousel

open Act (Ends Completes Fails)
open Scene (Broken)
open Settings (AlphaFits BetaFits)

variable {σ δ α β : Type} {n : Nat}

/-! ## Watching the callbacks -/

/-- A state of the caller, how often its callbacks were called, and the faults that they raised, the
latest first. -/
structure Watched (σ : Type) where
  caller : σ
  calls : Nat := 0
  raised : List Raised := []

def Watched.watch (callback : Callback σ β) : Callback (Watched σ) β := fun watched =>
  let (answer, caller) := callback.perform watched.caller
  let raised := match answer with
    | .ok _ => watched.raised
    | .error raised => raised :: watched.raised
  (answer, { caller, calls := watched.calls + 1, raised })

def Problem.watched (problem : Problem σ δ α n) : Problem (Watched σ) δ α n :=
  { problem with
    feasible := fun view selected => Watched.watch (problem.feasible view selected)
    score := fun view selected candidate => Watched.watch (problem.score view selected candidate) }

def Fault.raises : Fault → List Raised
  | .raised cause => [cause]
  | _ => []

theorem Fault.raises_of_isRanking {fault : Fault} (ranking : fault.isRanking = true) :
    fault.raises = [] := by
  cases fault with
  | raised _ => cases ranking
  | _ => rfl

theorem Watched.ends_watch {callback : Callback σ β} {watched : Watched σ}
    (quiet : watched.raised = []) :
    (watch callback).Ends watched (fun after => after.raised = [])
      fun fault after => after.raised = fault.raises := by
  unfold Callback.Ends Callback.perform watch
  rcases callback.perform watched.caller with ⟨cause | answer, after⟩
  · exact congrArg (cause :: ·) quiet
  · exact quiet

namespace Problem

/-- A callback that raises a fault is the last one that is called. -/
theorem upholds_watched (problem : Problem σ δ α n) :
    problem.watched.Upholds (fun watched => watched.raised = [])
      fun fault watched => watched.raised = fault.raises where
  feasible _ _ _ _ quiet := Watched.ends_watch quiet
  score _ _ _ _ _ _ quiet := Watched.ends_watch quiet
  ranking _ _ ranking quiet := quiet.trans (Fault.raises_of_isRanking ranking).symm

theorem agrees_watched (problem : Problem σ δ α n) :
    problem.Agrees 0 (fun caller (watched : Watched σ) => watched.caller = caller)
      problem.watched :=
  agrees_of_read rfl rfl (fun _ _ _ => ⟨rfl, rfl⟩) fun _ _ _ _ => ⟨rfl, rfl⟩

end Problem

namespace Solver

variable {run : Run n}

theorem fails_of_onNewRun {solver : Solver σ δ n} {act : Act (Course σ n) β} {fault : Fault}
    (failed : (solver.onNewRun run act).answer = .error fault) :
    ∃ course, act.Fails { stage := solver.stage run, memory := solver.memory } fault course ∧
      (solver.onNewRun run act).after = { solver.absorb course.stage with memory := course.memory } :=
  ⟨_, Prod.ext failed rfl, rfl⟩

/-- A run of its own answers with the fault that was raised in it. -/
theorem answer_of_raised {solver : Solver (Watched σ) δ n}
    {act : Act (Course (Watched σ) n) (List (Fin n))} {old : Memory n}
    (ends : act.Ends { stage := solver.stage run, memory := solver.memory }
      (fun found after => after.Fit old (fun watched => watched.raised = []) ∧ found.Nodup)
      fun fault => Course.Fit old fun watched => watched.raised = fault.raises)
    {raised : Raised} (member : raised ∈ (solver.onNewRun run act).after.caller.raised) :
    (solver.onNewRun run act).answer = .error (.raised raised) := by
  cases answered : (solver.onNewRun run act).answer with
  | ok found =>
    -- A run that completes has seen no callback raise anything.
    obtain ⟨course, completed⟩ := completes_of_onNewRun answered
    rw [onNewRun_of_completes completed] at member
    have quiet : course.stage.caller.raised = [] := (ends.of_completes completed).1.stage.caller
    exact absurd (quiet ▸ member) List.not_mem_nil
  | error fault =>
    obtain ⟨course, failed, left⟩ := fails_of_onNewRun answered
    rw [left] at member
    have kept : course.stage.caller.raised = fault.raises := (ends.of_fails failed).stage.caller
    -- Of all faults only one that was raised by a callback stands for something raised.
    have raises : raised ∈ fault.raises := kept ▸ member
    cases fault with
    | raised other => rw [List.mem_singleton.1 raises]
    | _ => exact absurd raises List.not_mem_nil

end Solver

namespace Session

variable {s : Session σ δ n} {problem : Problem σ δ α n} {direction : Direction}
  {alpha beta : Value}

def watched (s : Session σ δ n) : Session (Watched σ) δ n := s.through fun caller => { caller }

def callbacks (problem : Problem σ δ α n) (s : Session σ δ n) (call : Call δ) : Nat :=
  (s.watched.perform problem.watched call).after.solver.caller.calls

def raised (problem : Problem σ δ α n) (s : Session σ δ n) (call : Call δ) : List Raised :=
  (s.watched.perform problem.watched call).after.solver.caller.raised

/-- Watching the callbacks changes nothing else. -/
theorem perform_watched (problem : Problem σ δ α n) (s : Session σ δ n) (call : Call δ) :
    (s.watched.perform problem.watched call).answer = (s.perform problem call).answer ∧
      (s.watched.perform problem.watched call).after.through Watched.caller =
        (s.perform problem call).after := by
  obtain ⟨answer, after, _⟩ := perform_through problem.agrees_watched.unison s.watched call
  exact ⟨answer, after⟩

/-- What a failing call leaves: no run is active, and configuration and report are as before. -/
structure Frame (before after : Session σ δ n) : Prop where
  direction : after.direction? = none
  config : after.solver.config = before.solver.config
  report : after.solver.memory.report = before.solver.memory.report

def start (s : Session σ δ n) (direction : Direction) (config : Config) : Course σ n :=
  { stage := s.solver.start direction config, memory := s.solver.memory }

/-- No callback has raised anything at the start of a run. -/
theorem fit_start (s : Session σ δ n) (direction : Direction) (config : Config) :
    (s.watched.start direction config).Fit s.solver.memory fun watched => watched.raised = [] :=
  ⟨⟨Selection.sound_empty, rfl⟩, id⟩

/-! ## Greedy runs -/

theorem answer_of_raised_construct {fault : Raised}
    (member : fault ∈ s.raised problem (.construct direction)) :
    (s.perform problem (.construct direction)).answer = .error (.raised fault) := by
  rw [← (perform_watched problem s _).1]
  have start := s.fit_start direction s.solver.config
  have answered := Solver.answer_of_raised (Scene.ends_greedyRun problem.upholds_watched start) member
  exact congrArg (Except.map Reply.positions) answered

/-- A greedy run that fails leaves everything that was remembered. -/
theorem frame_of_construct {fault : Fault}
    (failed : (s.perform problem (.construct direction)).answer = .error fault) :
    Frame s (s.perform problem (.construct direction)).after ∧
      (s.perform problem (.construct direction)).after.solver.memory = s.solver.memory := by
  obtain ⟨course, failed, left⟩ := Solver.fails_of_onNewRun (map_eq_error.1 failed)
  obtain ⟨stage, _, rfl⟩ := Scene.fails_greedyRun.1 failed
  have remembered := congrArg Solver.memory left
  exact ⟨⟨rfl, rfl, congrArg Memory.report remembered⟩, remembered⟩

/-! ## Full runs -/

theorem perform_of_callConfig {config : Config}
    (overridden : s.solver.callConfig alpha beta = .ok config) :
    s.perform problem (.optimize direction alpha beta) =
      s.ofOutcome (s.solver.optimizeWith problem direction config) .positions none := by
  simp only [perform, overridden]

theorem answer_of_raised_optimize {config : Config} {fault : Raised}
    (overridden : s.solver.callConfig alpha beta = .ok config)
    (member : fault ∈ s.raised problem (.optimize direction alpha beta)) :
    (s.perform problem (.optimize direction alpha beta)).answer = .error (.raised fault) := by
  rw [← (perform_watched problem s _).1]
  unfold raised at member
  rw [perform_of_callConfig (s := s.watched) overridden] at member ⊢
  have start := s.fit_start direction config
  have answered :=
    Solver.answer_of_raised (Scene.ends_fullRun problem.upholds_watched rfl start) member
  exact congrArg (Except.map Reply.positions) answered

/-- A full run that fails leaves the report, and of the solutions what it has not found itself. -/
theorem frame_of_optimize {config : Config} {fault : Fault}
    (overridden : s.solver.callConfig alpha beta = .ok config)
    (failed : (s.perform problem (.optimize direction alpha beta)).answer = .error fault) :
    ∃ course, Broken (s.solver.scene problem .itself) config direction (s.start direction config)
        fault course ∧
      Frame s (s.perform problem (.optimize direction alpha beta)).after ∧
      (s.perform problem (.optimize direction alpha beta)).after.solver.memory = course.memory := by
  rw [perform_of_callConfig overridden] at failed ⊢
  obtain ⟨course, failed, left⟩ := Solver.fails_of_onNewRun (map_eq_error.1 failed)
  have broken := Scene.broken_of_fullRun failed
  have remembered := congrArg Solver.memory left
  exact ⟨course, broken, ⟨rfl, rfl, (congrArg Memory.report remembered).trans broken.report⟩,
    remembered⟩

/-- A refused override leaves everything as it was. -/
theorem refused_of_misfit (s : Session σ δ n) (problem : Problem σ δ α n) (direction : Direction)
    (misfit : ¬ (AlphaFits alpha ∧ BetaFits beta)) :
    ∃ fault, fault.kind = .configuration ∧
      s.perform problem (.optimize direction alpha beta) = { answer := .error fault, after := s } := by
  cases overridden : s.solver.callConfig alpha beta with
  | ok config => exact absurd (Config.fits_of_override overridden) misfit
  | error fault =>
    refine ⟨fault, (Config.misfit_of_override overridden).1, ?_⟩
    simp only [perform, overridden]

/-! ## Main result -/

/-- For every session and every override of a full run.  If a value does not fit, the call is refused
as a faulty configuration before any callback is called, and nothing has changed.  Otherwise a fault
that a callback raises is the answer; no run is active, and the stored configuration and the report are
as before; the greedy solution is replaced exactly if the whole construction came to its end, and the
refined one exactly if the fault was raised in the check at the end.  In a greedy run such a fault
leaves everything that was remembered. -/
theorem frame_of_failure (problem : Problem σ δ α n) (s : Session σ δ n) (direction : Direction)
    (alpha beta : Value) :
    (¬ (AlphaFits alpha ∧ BetaFits beta) →
      s.callbacks problem (.optimize direction alpha beta) = 0 ∧
      ∃ fault, fault.kind = .configuration ∧
        s.perform problem (.optimize direction alpha beta) =
          { answer := .error fault, after := s }) ∧
    (AlphaFits alpha ∧ BetaFits beta →
      ∃ config, s.solver.callConfig alpha beta = .ok config ∧
        ∀ fault ∈ s.raised problem (.optimize direction alpha beta),
          let outcome := s.perform problem (.optimize direction alpha beta)
          let scene := s.solver.scene problem .itself
          outcome.answer = .error (.raised fault) ∧ Frame s outcome.after ∧
            Memory.Replaces (scene.Constructs direction (s.start direction config).stage)
              s.solver.memory.greedy outcome.after.solver.memory.greedy ∧
            Memory.Replaces
              (scene.BreaksCheck config direction (s.start direction config) (.raised fault))
              s.solver.memory.refined outcome.after.solver.memory.refined) ∧
    ∀ fault ∈ s.raised problem (.construct direction),
      let outcome := s.perform problem (.construct direction)
      outcome.answer = .error (.raised fault) ∧ Frame s outcome.after ∧
        outcome.after.solver.memory = s.solver.memory := by
  refine ⟨fun misfit => ?_, fun fits => ?_, fun fault member => ?_⟩
  · -- The watched session is refused as well, and so its count is still zero.
    obtain ⟨_, _, refused⟩ := s.watched.refused_of_misfit problem.watched direction misfit
    exact ⟨congrArg (fun outcome => outcome.after.solver.caller.calls) refused,
      s.refused_of_misfit problem direction misfit⟩
  · cases overridden : s.solver.callConfig alpha beta with
    | error fault => exact absurd fits (Config.misfit_of_override overridden).2
    | ok config =>
      refine ⟨config, rfl, fun fault member => ?_⟩
      have answered := answer_of_raised_optimize overridden member
      obtain ⟨course, broken, frame, remembered⟩ := frame_of_optimize overridden answered
      refine ⟨answered, frame, ?_, ?_⟩
      · rw [remembered]
        exact broken.greedy
      · rw [remembered]
        exact broken.refined
  · have answered := answer_of_raised_construct member
    exact ⟨answered, frame_of_construct answered⟩

end Session

/-! ## A late failure -/

def Raised.late : Raised := ⟨.runtime, "late failure"⟩

def Callback.failingAt (number : Nat) (answer : β) : Callback Nat β := do
  modify (· + 1)
  if (← get) = number then throw .late
  return answer

/-- Two numbers of which either one is feasible, until a callback fails. -/
def Problem.fragile (number : Nat) : Problem Nat Unit Nat 2 where
  candidates := ⟨Vector.range 2, by decide⟩
  feasible _ selected := .failingAt number (selected != [])
  score _ _ _ := .failingAt number (.int 0)
  label := toString

namespace Session

def untouched : Session Nat Unit 2 := { solver := .fresh default () 0 }

/-- The eighth call of a callback is the check at the end, and the second one is part of the
construction. -/
theorem frame_of_late_failure :
    untouched.callbacks (.fragile 8) (.optimize .minimize (.int 0) .absent) = 0 ∧
      untouched.raised (.fragile 8) (.optimize .minimize .absent .absent) = [.late] ∧
      (untouched.perform (.fragile 8) (.optimize .minimize .absent .absent)).answer =
        .error (.raised .late) ∧
      (untouched.perform (.fragile 8)
        (.optimize .minimize .absent .absent)).after.solver.memory.refined = some [0] ∧
      untouched.raised (.fragile 2) (.construct .minimize) = [.late] ∧
      (untouched.perform (.fragile 2) (.construct .minimize)).after.solver.memory =
        untouched.solver.memory := by
  have zero : ¬ (AlphaFits (.int 0) ∧ BetaFits .absent) := by
    rintro ⟨absent | ⟨i, positive, same⟩, _⟩
    · simp at absent
    · simp only [Value.scalar.injEq, Scalar.int.injEq] at same
      omega
  have eighth : untouched.raised (.fragile 8) (.optimize .minimize .absent .absent) = [.late] := by
    decide +kernel
  have second : untouched.raised (.fragile 2) (.construct .minimize) = [.late] := by
    decide +kernel
  obtain ⟨refused, _, _⟩ := frame_of_failure (.fragile 8) untouched .minimize (.int 0) .absent
  obtain ⟨_, run, _⟩ := frame_of_failure (.fragile 8) untouched .minimize .absent .absent
  obtain ⟨_, _, greedy⟩ := frame_of_failure (.fragile 2) untouched .minimize .absent .absent
  obtain ⟨_, _, caught⟩ := run ⟨.inl rfl, .inl rfl⟩
  have member : Raised.late ∈ [Raised.late] := .head _
  exact ⟨(refused zero).1, eighth, (caught .late (eighth ▸ member)).1, by decide +kernel, second,
    (greedy .late (second ▸ member)).2.2⟩

end Session

end Carousel
