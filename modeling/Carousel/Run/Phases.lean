import Carousel.Run.Basic

/-!
# The four phases

Construction builds a selection greedily, removal trims it, the iterative phase rotates it, and
completion repairs it.  Every phase leaves a record of what it did.
-/

namespace Carousel.Scene

variable {σ δ α β : Type} {n : Nat}

def recorded (scene : Scene σ δ α n) (phase : Phase) (body : Act (Stage σ n) β)
    (rounds : β → Nat) : Act (Stage σ n) β := do
  let before := (← get).run
  let result ← body
  let after := (← get).run
  let record : PhaseRecord :=
    { phase
      sizeBefore := before.selection.size
      sizeAfter := after.selection.size
      rounds := rounds result
      scoreCalls := after.scoreCalls - before.scoreCalls
      feasibilityCalls := after.feasibilityCalls - before.feasibilityCalls }
  update fun run => { run with history := run.history ++ [record] }
  scene.announce (.phaseEnded record)
  return result

/-! ## Construction -/

/-- Whether construction is done: a small selection is as soon as it is feasible, a large one never
before the candidates run out. -/
def isConstructed (scene : Scene σ δ α n) : Act (Stage σ n) Bool := do
  let run := (← get).run
  match run.direction with
  | .minimize => scene.isFeasible run.selection.order
  | .maximize => return false

/-- Adds the best remaining candidate again and again until construction is done or no candidate
remains.  There are at most `passes` passes. -/
def extend (scene : Scene σ δ α n) : (passes : Nat) → Act (Stage σ n) Unit
  | 0 => pure ()
  | passes + 1 => do
    match ← scene.isConstructed with
    | true => pure ()
    | false =>
      match ← scene.selectRemaining with
      | none => pure ()
      | some position =>
        scene.add position
        scene.extend passes

/-- Builds or extends the selection greedily.  Every pass but the last adds one of the `n`
candidates. -/
def construction (scene : Scene σ δ α n) : Act (Stage σ n) Unit :=
  scene.recorded .construction (scene.extend (n + 1)) fun _ => 0

/-! ## Removal -/

/-- How many of `size` candidates removal drops: the configured share, but never so many that fewer
than two stay. -/
def removalCount (share : Int) (size : Nat) : Int :=
  max 0 (if (size : Int) - share < 2 then size - 2 else share)

/-- Drops the newest candidates and tells which ones. -/
def removal (scene : Scene σ δ α n) : Act (Stage σ n) (List (Fin n)) :=
  scene.recorded .removal (do
    let run := (← get).run
    let share ← (run.config.countOf run.selection.size : Except Fault Int)
    let (removed, selection) :=
      run.selection.dropNewest (removalCount share run.selection.size)
    update fun run => { run with selection }
    return removed) fun _ => 0

/-! ## Iteration -/

/-- Whether a chosen candidate joins in a round: always for a small selection, and for a large one
if it stays feasible. -/
def mayJoin (scene : Scene σ δ α n) (position : Fin n) : Act (Stage σ n) Bool := do
  let run := (← get).run
  match run.direction with
  | .minimize => return true
  | .maximize => scene.isFeasible (run.selection.extended position)

def enter (scene : Scene σ δ α n) (position : Fin n) : Act (Stage σ n) Unit := do
  match ← scene.mayJoin position with
  | true => scene.add position
  | false => pure ()

/-- One round: the oldest candidate leaves and the best remaining one may join.  It tells whether
there was one to choose. -/
def round (scene : Scene σ δ α n) : Act (Stage σ n) Bool := do
  modify fun stage => { stage with iteration := stage.iteration + 1 }
  update fun run => { run with selection := run.selection.popOldest.2 }
  match ← scene.selectRemaining with
  | none => return false
  | some position =>
    scene.enter position
    return true

/-- Carries out rounds until there is no candidate to choose, and tells how many began, counted on
from `begun`. -/
def rotate (scene : Scene σ δ α n) : (rounds : Nat) → (begun : Nat) → Act (Stage σ n) Nat
  | 0, begun => return begun
  | rounds + 1, begun => do
    match ← scene.round with
    | true => scene.rotate rounds (begun + 1)
    | false => return begun + 1

def iterative (scene : Scene σ δ α n) (rounds : Nat) : Act (Stage σ n) Nat :=
  scene.recorded .iterative (do
    let begun ← scene.rotate rounds 0
    update fun run => { run with rounds := run.rounds + begun }
    return begun) id

/-! ## Completion -/

/-- Adds the best remaining candidate until the selection is feasible; tells whether it became
so.  There are at most `passes` passes. -/
def repair (scene : Scene σ δ α n) : (passes : Nat) → Act (Stage σ n) Bool
  | 0 => return false
  | passes + 1 => do
    match ← scene.isFeasible (← get).run.selection.order with
    | true => return true
    | false =>
      match ← scene.selectRemaining with
      | none => return false
      | some position =>
        scene.add position
        scene.repair passes

/-- The candidates with which the selection is feasible; every one that remains is tried, in
order. -/
def fitting (scene : Scene σ δ α n) : Act (Stage σ n) (List (Fin n)) := do
  let selection := (← get).run.selection
  selection.remaining.filterM fun position => scene.isFeasible (selection.extended position)

/-- Adds the best of the candidates with which the selection is feasible until there is none.
There are at most `passes` passes. -/
def saturate (scene : Scene σ δ α n) : (passes : Nat) → Act (Stage σ n) Unit
  | 0 => pure ()
  | passes + 1 => do
    match ← scene.fitting with
    | [] => pure ()
    | first :: others =>
      match ← scene.select (first :: others) with
      | none => throw .nothingChosen
      | some position =>
        scene.add position
        scene.saturate passes

/-- Repairs the selection and tells whether it ends feasible.  A large one always does, since every
addition is checked. -/
def completion (scene : Scene σ δ α n) : Act (Stage σ n) Bool :=
  scene.recorded .completion (do
    match (← get).run.direction with
    | .minimize => scene.repair (n + 1)
    | .maximize =>
      scene.saturate (n + 1)
      return true) fun _ => 0

end Carousel.Scene
