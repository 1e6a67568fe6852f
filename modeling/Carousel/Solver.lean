import Carousel.Report.Sheet
import Carousel.Run.Full

/-!
# Solvers

A solver keeps a valid configuration, a generator, and what it remembers, and carries out greedy
and full runs.  Overrides of a single call never touch the stored configuration.
-/

namespace Carousel

open Draw (Generator)

structure Solver (σ δ : Type) (n : Nat) where
  config : Config
  data : δ
  generator : Generator
  caller : σ
  iteration : Nat := 0
  memory : Memory n := {}

/-- What a call leaves: its answer, the solver afterwards, and the notices given meanwhile. -/
structure Outcome (S β : Type) where
  answer : Except Fault β
  after : S
  notices : List Notice := []

namespace Solver

variable {σ δ α : Type} {n : Nat}

def fresh (config : Config) (data : δ) (caller : σ) : Solver σ δ n :=
  { config, data, caller, generator := .ofSeed config.seed }

def scene (solver : Solver σ δ n) (problem : Problem σ δ α n) (front : Front) : Scene σ δ α n :=
  { problem, data := solver.data, config := solver.config, front }

def stage (solver : Solver σ δ n) (run : Run n) : Stage σ n :=
  { run, iteration := solver.iteration, generator := solver.generator, caller := solver.caller }

def absorb (solver : Solver σ δ n) (stage : Stage σ n) : Solver σ δ n :=
  { solver with
    iteration := stage.iteration
    generator := stage.generator
    caller := stage.caller }

def onNewRun (solver : Solver σ δ n) (run : Run n) {β : Type} (act : Act (Course σ n) β) :
    Outcome (Solver σ δ n) β :=
  let (answer, course) := act.perform { stage := solver.stage run, memory := solver.memory }
  { answer
    after := { solver.absorb course.stage with memory := course.memory }
    notices := course.stage.notices }

def construct (solver : Solver σ δ n) (problem : Problem σ δ α n) (direction : Direction) :
    Outcome (Solver σ δ n) (List (Fin n)) :=
  solver.onNewRun (.fresh direction solver.config.toSettings)
    ((solver.scene problem .itself).greedyRun direction)

/-- The configuration of a call with its own multiplier and share; absent ones stay as stored. -/
def callConfig (solver : Solver σ δ n) (alpha beta : Value) : Except Fault Config :=
  solver.config.override [("alpha", alpha), ("beta", beta)]

def optimizeWith (solver : Solver σ δ n) (problem : Problem σ δ α n) (direction : Direction)
    (config : Config) : Outcome (Solver σ δ n) (List (Fin n)) :=
  solver.onNewRun (.fresh direction config.toSettings)
    ((solver.scene problem .itself).fullRun config direction)

/-- A full run in a direction, with overrides for this call only. -/
def optimize (solver : Solver σ δ n) (problem : Problem σ δ α n) (direction : Direction)
    (alpha beta : Value) : Outcome (Solver σ δ n) (List (Fin n)) :=
  match solver.callConfig alpha beta with
  | .error fault => { answer := .error fault, after := solver }
  | .ok config => solver.optimizeWith problem direction config

/-- A new generator: from the given seed, which is stored, or from the stored one. -/
def reseed (solver : Solver σ δ n) (seed : Value) : Outcome (Solver σ δ n) Config :=
  match solver.config.override [("seed", seed)] with
  | .error fault => { answer := .error fault, after := solver }
  | .ok config =>
    { answer := .ok config
      after := { solver with config, generator := .ofSeed config.seed } }

def draw (solver : Solver σ δ n) (bound : Int) : Outcome (Solver σ δ n) Nat :=
  match solver.generator.draw bound with
  | .error fault => { answer := .error fault, after := solver }
  | .ok (number, generator) => { answer := .ok number, after := { solver with generator } }

def summary (solver : Solver σ δ n) : Except Fault String := do
  let settings := solver.config.toSettings
  let last ← match solver.memory.report with
    | some report => do
      let found ← (report.sheet fun position => .int position.val).summary
      pure ("\n" ++ found)
    | none => pure "\n  Status: Not yet solved"
  return "\n".intercalate [
    "CarouselGreedy: " ++ toString n ++ " candidates",
    "  Config:",
    "    Alpha: " ++ settings.alpha.plain,
    "    Beta: " ++ settings.beta.plain,
    "    Seed: " ++ settings.seed.plain,
    "    Random tie-break: " ++ settings.randomTieBreak.plain,
    last]

def written (solver : Solver σ δ n) : String :=
  let status := if solver.memory.report.isSome then "solved" else "not solved"
  "CarouselGreedy(candidates=" ++ toString n ++ ", " ++ status ++ ")"

end Solver

/-- What a setup starts from: the defaults of the library, settings of its own, or a value that is
no settings at all. -/
inductive Basis where
  | defaults
  | settings (settings : Settings)
  | other (value : Value)

structure Setup (σ δ α : Type) where
  feasible : Option (View δ → List α → Callback σ Bool)
  score : Option (View δ → List α → α → Callback σ Score)
  candidates : Value
  element : Nat → Value → α
  label : α → String
  data : δ
  caller : σ
  basis : Basis
  fields : Fields

structure Prepared (σ δ α : Type) where
  size : Nat
  problem : Problem σ δ α size
  solver : Solver σ δ size

/-- The configuration that a setup asks for: its own settings, or else the defaults of the library,
with its fields replaced. -/
def Setup.resolve {σ δ α : Type} (setup : Setup σ δ α) (defaults : Settings) :
    Except Fault Config :=
  match setup.basis with
  | .defaults => defaults.resolve setup.fields
  | .settings settings => do (← settings.validate).override setup.fields
  | .other value => .error (.noMember value.typeName "validate")

/-- Sets up a solver: the fields must not give the data again and must be known, both callbacks must
be there, the configuration must be in order, and the candidates must form a universe.  The first of
these that fails is the fault. -/
def Setup.prepare {σ δ α : Type} (setup : Setup σ δ α) (defaults : Settings) :
    Except Fault (Prepared σ δ α) := do
  Settings.requireSingle .setup setup.fields
  let _ ← Settings.builtin.assign .setup setup.fields
  let some feasible := setup.feasible | throw .noFeasibilityTest
  let some score := setup.score | throw .noScore
  let config ← setup.resolve defaults
  let ⟨size, found⟩ ← Universe.ofValue setup.candidates
  return {
    size
    problem := {
      candidates := found.relabel fun position value => setup.element position value
      feasible, score, label := setup.label }
    solver := .fresh config setup.data setup.caller }

/-! ## Traces

Every question that a solver asks its caller can be put on record.  The recorded callbacks answer
as before and keep a log beside the state of the caller, the latest question first. -/

inductive Query (α : Type) where
  | feasible (selected : List α)
  | score (selected : List α) (candidate : α)
deriving DecidableEq

structure Logged (σ α : Type) where
  caller : σ
  log : List (Query α) := []

namespace Logged

variable {σ δ α β : Type}

def ask (query : Query α) (callback : Callback σ β) : Callback (Logged σ α) β := fun logged =>
  let (answer, caller) := callback.perform logged.caller
  (answer, { caller, log := query :: logged.log })

def test (feasible : View δ → List α → Callback σ Bool) (view : View δ) (selected : List α) :
    Callback (Logged σ α) Bool :=
  ask (.feasible selected) (feasible view selected)

def rating (score : View δ → List α → α → Callback σ Score) (view : View δ) (selected : List α)
    (candidate : α) : Callback (Logged σ α) Score :=
  ask (.score selected candidate) (score view selected candidate)

end Logged

def Problem.logged {σ δ α : Type} {n : Nat} (problem : Problem σ δ α n) :
    Problem (Logged σ α) δ α n :=
  { problem with
    feasible := Logged.test problem.feasible
    score := Logged.rating problem.score }

def Setup.logged {σ δ α : Type} (setup : Setup σ δ α) : Setup (Logged σ α) δ α :=
  { setup with
    feasible := setup.feasible.map Logged.test
    score := setup.score.map Logged.rating
    caller := { caller := setup.caller } }

end Carousel
