import Carousel.Report.Basic
import Carousel.Score
import Carousel.Selection

/-!
# Runs

A run is the changing part of a search: its direction, the working selection, and counts of what
has been done.  Its phases act on a stage, which adds what outlives the run: the count of rounds,
the generator, and the state of the caller.  A fault stops a phase and leaves the stage as it was
when the fault arose.
-/

namespace Carousel

/-! ## Actions

An action changes a state and answers or ends in a fault; what it changed before the fault stays
changed.  Phases are actions on their stage, and the callbacks of a caller are actions on the state
of the caller.  The lemmas compute `perform` for the ways in which actions are put together. -/

section

variable {S σ β γ : Type}

/-- Actions that change a state and may end in a fault; the state survives the fault. -/
abbrev Act (S : Type) := ExceptT Fault (StateM S)

def Act.perform (act : Act S β) (s : S) : Except Fault β × S := act s

/-- Code of the caller: it may change the state of the caller and may raise a fault of its own. -/
abbrev Callback (σ : Type) := ExceptT Raised (StateM σ)

def Callback.perform (callback : Callback σ β) (s : σ) : Except Raised β × σ := callback s

namespace Act

/-- What follows an action sees its state; a fault skips what follows. -/
theorem perform_bind (act : Act S β) (next : β → Act S γ) (s : S) :
    (act >>= next).perform s = match act.perform s with
      | (.ok answer, after) => (next answer).perform after
      | (.error fault, after) => (.error fault, after) := by
  simp only [perform, bind, ExceptT.bind, StateT.bind, ExceptT.mk, ExceptT.bindCont]
  rcases act s with ⟨_ | _, after⟩ <;> rfl

@[simp] theorem perform_pure (answer : β) (s : S) :
    (pure answer : Act S β).perform s = (.ok answer, s) := rfl

@[simp] theorem perform_throw (fault : Fault) (s : S) :
    (throw fault : Act S β).perform s = (.error fault, s) := rfl

@[simp] theorem perform_get (s : S) : (get : Act S S).perform s = (.ok s, s) := rfl

@[simp] theorem perform_set (after s : S) :
    (set after : Act S PUnit).perform s = (.ok ⟨⟩, after) := rfl

@[simp] theorem perform_modify (change : S → S) (s : S) :
    (modify change : Act S PUnit).perform s = (.ok ⟨⟩, change s) := rfl

end Act

end

/-! ## Stages and scenes -/

open Draw (Generator)

/-- What a callback can see of the solver that calls it. -/
structure View (δ : Type) where
  data : δ
  config : Config
  direction : Option Direction
  iteration : Nat

/-- A feasibility test and a scoring function over `n` candidates.  Both see the selected elements,
the oldest first, and may change the state of the caller. -/
structure Problem (σ δ α : Type) (n : Nat) where
  candidates : Universe α n
  feasible : View δ → List α → Callback σ Bool
  score : View δ → List α → α → Callback σ Score
  label : α → String

/-- The changing part of a run.  Its settings need not have been checked. -/
structure Run (n : Nat) where
  direction : Direction
  config : Settings
  selection : Selection n
  rounds : Nat := 0
  scoreCalls : Nat := 0
  feasibilityCalls : Nat := 0
  history : List PhaseRecord := []

def Run.fresh {n : Nat} (direction : Direction) (config : Settings) : Run n :=
  { direction, config, selection := .empty n }

inductive Notice where
  | phaseEnded (record : PhaseRecord)
  | infeasible (direction : Direction) (size : Nat)
  | solved (direction : Direction) (greedy refined best : Nat) (status : Status)

namespace Notice

/-- Whether the notice is a warning, which is given in any case; the others report progress. -/
def isWarning : Notice → Bool
  | infeasible .. => true
  | _ => false

/-- The time that a notice shows.  A run measures none. -/
def elapsed : String := Binary64.zero.writeFixed 3 ++ "s"

def text : Notice → String
  | phaseEnded record =>
    let rounds := if record.phase = .iterative then ", rounds=" ++ toString record.rounds else ""
    "  " ++ record.phase.lowerName ++ ": size " ++ toString record.sizeBefore ++ " -> " ++
      toString record.sizeAfter ++ rounds ++ " (" ++ elapsed ++ ")"
  | infeasible direction size =>
    let reason := match direction with
      | .minimize => "candidates ran out before the solution became feasible"
      | .maximize => "maximize construction adds every candidate without a feasibility check"
    direction.lowerName ++ ": returned solution of size " ++ toString size ++ " is infeasible (" ++
      reason ++ ")"
  | solved direction greedy refined best status =>
    direction.lowerName ++ ": greedy=" ++ toString greedy ++ ", cg=" ++ toString refined ++
      ", returned=" ++ toString best ++ " (" ++ status.name ++ ")"

end Notice

/-- A run on its solver: the run with all that its phases can change. -/
structure Stage (σ : Type) (n : Nat) where
  run : Run n
  iteration : Nat
  generator : Generator
  caller : σ
  notices : List Notice := []

/-- Which run of the solver is active while a phase acts: the run of the phase itself, none, or
another one with its direction and its wish for reports. -/
inductive Front where
  | itself
  | idle
  | other (direction : Direction) (reports : Bool)

/-- What stays fixed while phases act. -/
structure Scene (σ δ α : Type) (n : Nat) where
  problem : Problem σ δ α n
  data : δ
  config : Config
  front : Front

namespace Scene

variable {σ δ α β : Type} {n : Nat}

/-- The direction that callbacks see: that of the active run. -/
def direction (scene : Scene σ δ α n) (run : Run n) : Option Direction :=
  match scene.front with
  | .itself => some run.direction
  | .idle => none
  | .other direction _ => some direction

/-- Whether progress is reported: as the active run wishes, or else the solver. -/
def reports (scene : Scene σ δ α n) (run : Run n) : Bool :=
  match scene.front with
  | .itself => run.config.reports
  | .idle => scene.config.reports
  | .other _ reports => reports

def view (scene : Scene σ δ α n) (stage : Stage σ n) : View δ :=
  { data := scene.data
    config := scene.config
    direction := scene.direction stage.run
    iteration := stage.iteration }

/-- Calls code of the caller; a fault that it raises is passed on unchanged. -/
def call (scene : Scene σ δ α n) (callback : View δ → Callback σ β) : Act (Stage σ n) β :=
  fun stage =>
    let (answer, caller) := (callback (scene.view stage)).perform stage.caller
    (answer.mapError Fault.raised, { stage with caller })

def update (change : Run n → Run n) : Act (Stage σ n) Unit :=
  modify fun stage => { stage with run := change stage.run }

def tell (notice : Notice) : Act (Stage σ n) Unit :=
  modify fun stage => { stage with notices := stage.notices ++ [notice] }

def announce (scene : Scene σ δ α n) (notice : Notice) : Act (Stage σ n) Unit := do
  if scene.reports (← get).run then tell notice

def isFeasible (scene : Scene σ δ α n) (positions : List (Fin n)) : Act (Stage σ n) Bool := do
  update fun run => { run with feasibilityCalls := run.feasibilityCalls + 1 }
  scene.call (scene.problem.feasible · (scene.problem.candidates.elementsAt positions))

def rate (scene : Scene σ δ α n) (selected : List α) (position : Fin n) :
    Act (Stage σ n) Score := do
  update fun run => { run with scoreCalls := run.scoreCalls + 1 }
  scene.call (scene.problem.score · selected (scene.problem.candidates.element position))

/-- The best of the eligible candidates: every one is scored for the working selection, in order,
and then one is chosen. -/
def select (scene : Scene σ δ α n) (eligible : List (Fin n)) :
    Act (Stage σ n) (Option (Fin n)) := do
  let selected := scene.problem.candidates.elementsAt (← get).run.selection.order
  let scores ← eligible.mapM (scene.rate selected)
  let stage ← get
  let (choice, generator) ←
    (chooseBest stage.run.config.drawsTies eligible scores stage.generator : Except Fault _)
  set { stage with generator }
  return choice

def selectRemaining (scene : Scene σ δ α n) : Act (Stage σ n) (Option (Fin n)) := do
  scene.select (← get).run.selection.remaining

def add (scene : Scene σ δ α n) (position : Fin n) : Act (Stage σ n) Unit := do
  match (← get).run.selection.add position with
  | .ok selection => update fun run => { run with selection }
  | .error refusal =>
    throw (refusal.fault (scene.problem.label <| scene.problem.candidates.element ·))

end Scene

end Carousel
