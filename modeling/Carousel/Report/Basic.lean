import Carousel.Settings.Basic

/-!
# Reports

What is known about a finished run: its direction and status, the solutions it compared, the
parameters it used, and a record for every phase.
-/

namespace Carousel

/-! ## The direction of a run

A run looks for a small or for a large selection.  Higher scores are preferred either way; the
direction decides how constructions are driven and which of two results is returned. -/

inductive Direction where
  | minimize
  | maximize
deriving DecidableEq, Inhabited

namespace Direction

def name : Direction → String
  | minimize => "MINIMIZE"
  | maximize => "MAXIMIZE"

def lowerName : Direction → String
  | minimize => "minimize"
  | maximize => "maximize"

def nameOrNone : Option Direction → String
  | some direction => direction.name
  | none => "NONE"

/-- Whether a refined selection of the first size replaces one of the second.  A small one is
replaced on ties, a large one only by a larger one. -/
def isImprovement (direction : Direction) (new reference : Int) : Bool :=
  match direction with
  | minimize => new ≤ reference
  | maximize => reference < new

def improves (direction : Direction) (new reference : Nat) : Bool :=
  match direction with
  | minimize => new < reference
  | maximize => reference < new

end Direction

/-! ## What a report says -/

inductive Phase where
  | construction
  | removal
  | iterative
  | completion
deriving DecidableEq, Inhabited

namespace Phase

def name : Phase → String
  | construction => "CONSTRUCTION"
  | removal => "REMOVAL"
  | iterative => "ITERATIVE"
  | completion => "COMPLETION"

def lowerName : Phase → String
  | construction => "construction"
  | removal => "removal"
  | iterative => "iterative"
  | completion => "completion"

end Phase

/-- What one phase did: the sizes of the selection before and after it, the rounds, and the calls
of the two callbacks. -/
structure PhaseRecord where
  phase : Phase
  sizeBefore : Nat
  sizeAfter : Nat
  rounds : Nat := 0
  scoreCalls : Nat := 0
  feasibilityCalls : Nat := 0
deriving DecidableEq, Inhabited

inductive Status where
  | feasible
  | infeasible
  | notSolved
deriving DecidableEq, Inhabited

def Status.name : Status → String
  | feasible => "FEASIBLE"
  | infeasible => "INFEASIBLE"
  | notSolved => "NOT_SOLVED"

structure Report (ε : Type) where
  direction : Direction
  status : Status
  greedy : List ε
  refined : List ε
  best : List ε
  alpha : Nat
  beta : Share
  rounds : Nat
  scoreCalls : Nat
  feasibilityCalls : Nat
  history : List PhaseRecord

namespace Report

variable {ε : Type}

def isFeasible (r : Report ε) : Bool := r.status = .feasible

def improved (r : Report ε) : Bool := r.direction.improves r.refined.length r.greedy.length

def phase? (r : Report ε) (phase : Phase) : Option PhaseRecord :=
  r.history.reverse.find? fun record => record.phase = phase

def map {ε' : Type} (f : ε → ε') (r : Report ε) : Report ε' :=
  { r with
    greedy := r.greedy.map f
    refined := r.refined.map f
    best := r.best.map f }

end Report

end Carousel
