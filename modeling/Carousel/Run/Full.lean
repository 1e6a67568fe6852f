import Carousel.Run.Phases

/-!
# Full runs

A full run constructs a greedy solution, refines it through the other phases, and returns the
better of the two.  What it finds is remembered as soon as it is known, so that a fault in a later
phase leaves the earlier findings in place.
-/

namespace Carousel

/-- What a solver remembers of its runs: the last greedy solution, the last refined one, and the
report of the last full run. -/
structure Memory (n : Nat) where
  greedy : Option (List (Fin n)) := none
  refined : Option (List (Fin n)) := none
  report : Option (Report (Fin n)) := none

/-- A stage with the memory of its solver. -/
structure Course (σ : Type) (n : Nat) where
  stage : Stage σ n
  memory : Memory n

namespace Scene

variable {σ δ α β : Type} {n : Nat}

def onStage (act : Act (Stage σ n) β) : Act (Course σ n) β := fun course =>
  let (answer, stage) := act.perform course.stage
  (answer, { course with stage })

def remember (change : Memory n → Memory n) : Act (Course σ n) Unit :=
  modify fun course => { course with memory := change course.memory }

def turn (direction : Direction) : Act (Stage σ n) Unit :=
  update fun run => { run with direction }

/-- The greedy solution in a direction.  A large one continues from a small one. -/
def greedy (scene : Scene σ δ α n) (direction : Direction) : Act (Stage σ n) (List (Fin n)) := do
  match direction with
  | .minimize => scene.construction
  | .maximize =>
    turn .minimize
    scene.construction
    turn .maximize
    scene.construction
  return (← get).run.selection.order

/-- A greedy run: its result is the remembered greedy solution. -/
def greedyRun (scene : Scene σ δ α n) (direction : Direction) :
    Act (Course σ n) (List (Fin n)) := do
  let found ← onStage (scene.greedy direction)
  remember fun memory => { memory with greedy := some found }
  return found

/-- Refines a greedy solution by the other three phases, of which the iterative one has the given rounds:
its result is the remembered refined solution. -/
def refine (scene : Scene σ δ α n) (rounds : Nat) : Act (Course σ n) (List (Fin n)) := do
  let _ ← onStage scene.removal
  let _ ← onStage (scene.iterative rounds)
  let _ ← onStage scene.completion
  let found := (← get).stage.run.selection.order
  remember fun memory => { memory with refined := some found }
  return found

def reportOf (run : Run n) (config : Config) (direction : Direction)
    (greedy refined best : List (Fin n)) (status : Status) : Report (Fin n) :=
  { direction, status, greedy, refined, best
    alpha := config.alpha
    beta := config.beta
    rounds := run.rounds
    scoreCalls := run.scoreCalls
    feasibilityCalls := run.feasibilityCalls
    history := run.history }

def warnUnless (feasible : Bool) (direction : Direction) (size : Nat) : Act (Stage σ n) Unit :=
  match feasible with
  | true => pure ()
  | false => tell (.infeasible direction size)

def conclude (scene : Scene σ δ α n) (config : Config) (direction : Direction)
    (greedy refined : List (Fin n)) : Act (Course σ n) (List (Fin n)) := do
  let best := if direction.isImprovement refined.length greedy.length then refined else greedy
  let feasible ← onStage (scene.isFeasible best)
  let status : Status := if feasible then .feasible else .infeasible
  onStage (warnUnless feasible direction best.length)
  let run := (← get).stage.run
  remember fun memory =>
    { memory with report := some (reportOf run config direction greedy refined best status) }
  onStage (scene.announce (.solved direction greedy.length refined.length best.length status))
  return best

/-- A full run with a checked configuration: the greedy solution is built and refined, and the better of
the two returned. -/
def fullRun (scene : Scene σ δ α n) (config : Config) (direction : Direction) :
    Act (Course σ n) (List (Fin n)) := do
  let greedy ← scene.greedyRun direction
  let refined ← scene.refine (config.alpha * greedy.length)
  scene.conclude config direction greedy refined

end Scene

end Carousel
