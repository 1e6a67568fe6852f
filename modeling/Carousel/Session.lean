import Carousel.Solver

/-!
# Sessions

A session is a solver with the runs that its caller starts and drives by hand.  The run started
last is the active one, which callbacks can see, until a whole run takes its place and ends.
-/

namespace Carousel

inductive PhaseCall where
  | construction
  | removal
  | iterative (rounds : Nat)
  | completion

/-- A call of the public interface.  A run by hand is given by its number, a negative one counting
from the newest, and its settings are taken as they are; without any it goes by the solver's. -/
inductive Call (δ : Type) where
  | construct (direction : Direction)
  | optimize (direction : Direction) (alpha beta : Value)
  | reseed (seed : Value)
  | draw (bound : Int)
  | setData (data : δ)
  | newRun (direction : Direction) (settings : Option Settings)
  | append (run : Int) (positions : List Int)
  | setDirection (run : Int) (direction : Direction)
  | phase (run : Int) (phase : PhaseCall)

inductive Reply (n : Nat) where
  | nothing
  | positions (found : List (Fin n))
  | config (config : Config)
  | number (number : Nat)
  | flag (flag : Bool)

/-- A solver, its runs by hand, and which of them is active. -/
structure Session (σ δ : Type) (n : Nat) where
  solver : Solver σ δ n
  runs : List (Run n) := []
  active : Option Nat := none

namespace Session

variable {σ δ α : Type} {n : Nat}

def activeRun? (s : Session σ δ n) : Option (Run n) := s.active.bind (s.runs[·]?)

def direction? (s : Session σ δ n) : Option Direction := s.activeRun?.map (·.direction)

def greedy? (s : Session σ δ n) (u : Universe α n) : Option (List α) :=
  s.solver.memory.greedy.map u.elementsAt

def refined? (s : Session σ δ n) (u : Universe α n) : Option (List α) :=
  s.solver.memory.refined.map u.elementsAt

def report? (s : Session σ δ n) (u : Universe α n) : Option (Report α) :=
  s.solver.memory.report.map (Report.map u.element)

/-- What a phase of a run by hand sees as active. -/
def front (s : Session σ δ n) (number : Nat) : Front :=
  if s.active = some number then .itself
  else match s.activeRun? with
    | some run => .other run.direction run.config.reports
    | none => .idle

def ofOutcome {β : Type} (s : Session σ δ n) (outcome : Outcome (Solver σ δ n) β)
    (reply : β → Reply n) (active : Option Nat) : Outcome (Session σ δ n) (Reply n) :=
  { answer := outcome.answer.map reply
    after := { s with solver := outcome.after, active }
    notices := outcome.notices }

def putRun (s : Session σ δ n) (number : Nat) (run : Run n) : Session σ δ n :=
  { s with runs := s.runs.set number run }

def locate (s : Session σ δ n) (number : Int) : Except Fault (Fin s.runs.length) :=
  Index.locate s.runs.length .noSuchEntry number

def run (s : Session σ δ n) (number : Int) : Except Fault (Run n) := do
  return s.runs.get (← s.locate number)

def onRun (s : Session σ δ n) (number : Int) (act : Front → Act (Stage σ n) (Reply n)) :
    Outcome (Session σ δ n) (Reply n) :=
  match s.locate number with
  | .error fault => { answer := .error fault, after := s }
  | .ok place =>
    let (answer, stage) := (act (s.front place)).perform (s.solver.stage (s.runs.get place))
    { answer
      after := { s.putRun place stage.run with solver := s.solver.absorb stage }
      notices := stage.notices }

def append (problem : Problem σ δ α n) (number : Int) : Act (Stage σ n) Unit := do
  match (← get).run.selection.append number with
  | .ok selection => Scene.update fun run => { run with selection }
  | .error refusal => throw (refusal.fault (problem.label <| problem.candidates.element ·))

def phaseAct (scene : Scene σ δ α n) : PhaseCall → Act (Stage σ n) (Reply n)
  | .construction => do
    scene.construction
    return .positions (← get).run.selection.order
  | .removal => return .positions (← scene.removal)
  | .iterative rounds => return .number (← scene.iterative rounds)
  | .completion => return .flag (← scene.completion)

def perform (problem : Problem σ δ α n) (s : Session σ δ n) :
    Call δ → Outcome (Session σ δ n) (Reply n)
  | .construct direction => s.ofOutcome (s.solver.construct problem direction) .positions none
  | .optimize direction alpha beta =>
    match s.solver.callConfig alpha beta with
    | .error fault => { answer := .error fault, after := s }
    | .ok config =>
      s.ofOutcome (s.solver.optimizeWith problem direction config) .positions none
  | .reseed seed => s.ofOutcome (s.solver.reseed seed) .config s.active
  | .draw bound => s.ofOutcome (s.solver.draw bound) .number s.active
  | .setData data =>
    { answer := .ok .nothing, after := { s with solver := { s.solver with data } } }
  | .newRun direction settings =>
    let number := s.runs.length
    let run := Run.fresh direction (settings.getD s.solver.config.toSettings)
    { answer := .ok (.number number)
      after := { s with runs := s.runs ++ [run], active := some number } }
  | .append number positions =>
    s.onRun number fun _ => do
      positions.forM (append problem)
      return .nothing
  | .setDirection number direction =>
    s.onRun number fun _ => do
      Scene.turn direction
      return .flag (direction = .minimize)
  | .phase number phase =>
    s.onRun number fun front => phaseAct (s.solver.scene problem front) phase

def performAll (problem : Problem σ δ α n) (s : Session σ δ n) :
    List (Call δ) → List (Except Fault (Reply n)) × Session σ δ n
  | [] => ([], s)
  | call :: rest =>
    let outcome := s.perform problem call
    let (answers, last) := outcome.after.performAll problem rest
    (outcome.answer :: answers, last)

end Session

end Carousel
