import Carousel.Report.Basic
import Carousel.Value.Conversion

/-!
# Sheets

A report in the form in which it is shown: raw values in named places.  A sheet can be made from the
report of a run, and it can be filled in by hand.  Nothing is known about the values of a sheet, so
showing it fails at the first value that does not suit its place.
-/

namespace Carousel

structure Row where
  phase : Phase
  sizeBefore : Value
  sizeAfter : Value
  rounds : Value := .int 0
  scoreCalls : Value := .int 0
  feasibilityCalls : Value := .int 0
  elapsed : Value := .real .zero
deriving Inhabited

/-- A report as raw values. -/
structure Sheet where
  direction : Option Direction := none
  status : Status := .notSolved
  greedy : Value := .list []
  refined : Value := .list []
  best : Value := .list []
  alpha : Value := .absent
  beta : Value := .absent
  rounds : Value := .int 0
  scoreCalls : Value := .int 0
  feasibilityCalls : Value := .int 0
  totalTime : Value := .real .zero
  rows : List Row := []
deriving Inhabited

structure Sizes where
  greedy : Nat
  refined : Nat
  best : Nat
deriving DecidableEq

/-- The row of a phase from the values known of it, the sizes first; later ones may be missing. -/
def Row.ofValues (phase : Phase) : List Value → Except Fault Row
  | [sizeBefore, sizeAfter] => .ok { phase, sizeBefore, sizeAfter }
  | [sizeBefore, sizeAfter, rounds] => .ok { phase, sizeBefore, sizeAfter, rounds }
  | [sizeBefore, sizeAfter, rounds, scoreCalls] =>
    .ok { phase, sizeBefore, sizeAfter, rounds, scoreCalls }
  | [sizeBefore, sizeAfter, rounds, scoreCalls, feasibilityCalls] =>
    .ok { phase, sizeBefore, sizeAfter, rounds, scoreCalls, feasibilityCalls }
  | [sizeBefore, sizeAfter, rounds, scoreCalls, feasibilityCalls, elapsed] =>
    .ok { phase, sizeBefore, sizeAfter, rounds, scoreCalls, feasibilityCalls, elapsed }
  | values => .error (if values.length < 2 then .rowTooShort values.length
      else .rowTooLong values.length)

def seconds (time : Value) : Except Fault String := do return (← time.fixed 3) ++ "s"

def Row.line (row : Row) : Except Fault String := do
  let before ← row.sizeBefore.entry
  let after ← row.sizeAfter.entry
  let elapsed ← seconds row.elapsed
  return "    " ++ padRight 12 row.phase.lowerName ++ " " ++ padLeft 5 before ++ " -> " ++
    padRight 5 after ++ " (" ++ elapsed ++ ")"

namespace Sheet

/-! ## Filling in a sheet -/

/-- The sheet with one place filled in; `none` if there is no place of that name. -/
def set? (s : Sheet) (name : String) (value : Value) : Option Sheet :=
  match name with
  | "greedy_solution" => some { s with greedy := value }
  | "cg_solution" => some { s with refined := value }
  | "best_solution" => some { s with best := value }
  | "alpha" => some { s with alpha := value }
  | "beta" => some { s with beta := value }
  | "iterations" => some { s with rounds := value }
  | "score_evaluations" => some { s with scoreCalls := value }
  | "feasibility_evaluations" => some { s with feasibilityCalls := value }
  | "total_time" => some { s with totalTime := value }
  | _ => none

def assign (s : Sheet) : Fields → Except Fault Sheet
  | [] => .ok s
  | (name, value) :: rest =>
    match s.set? name value with
    | some changed => changed.assign rest
    | none => .error (Settings.misfit .report name)

def fill (s : Sheet) (fields : Fields) : Except Fault Sheet := do
  Settings.requireSingle .report fields
  s.assign fields

/-! ## Reading a sheet -/

def isFeasible (s : Sheet) : Bool := s.status = .feasible

def sizes (s : Sheet) : Except Fault Sizes := do
  let greedy ← s.greedy.count
  let refined ← s.refined.count
  let best ← s.best.count
  return { greedy, refined, best }

/-- Whether the refined solution is strictly better than the greedy one.  Without a direction it is
not, whatever the solutions are. -/
def improved (s : Sheet) : Except Fault Bool :=
  match s.direction with
  | none => .ok false
  | some direction => do
    let refined ← s.refined.count
    let greedy ← s.greedy.count
    return direction.improves refined greedy

def phase? (s : Sheet) (phase : Phase) : Option Row :=
  s.rows.reverse.find? fun row => row.phase = phase

def summary (s : Sheet) : Except Fault String := do
  let sizes ← s.sizes
  let time ← seconds s.totalTime
  let lines ← s.rows.mapM Row.line
  return "\n".intercalate ([
    "Carousel Greedy Result:",
    "  Direction: " ++ Direction.nameOrNone s.direction,
    "  Status: " ++ s.status.name,
    "  Greedy size: " ++ toString sizes.greedy,
    "  Carousel Greedy size: " ++ toString sizes.refined,
    "  Returned size: " ++ toString sizes.best,
    "",
    "  Alpha: " ++ s.alpha.plain,
    "  Beta: " ++ s.beta.plain,
    "  Iterative rounds: " ++ s.rounds.plain,
    "  Score evaluations: " ++ s.scoreCalls.plain,
    "  Feasibility evaluations: " ++ s.feasibilityCalls.plain,
    "",
    "  Total time: " ++ time] ++ lines)

def written (s : Sheet) : Except Fault String := do
  let greedy ← s.greedy.count
  let refined ← s.refined.count
  return "CarouselResult(" ++ Direction.nameOrNone s.direction ++ ", " ++ s.status.name ++
    ", greedy=" ++ toString greedy ++ ", cg=" ++ toString refined ++ ")"

end Sheet

/-! ## The sheet of a report -/

/-- The row of a record.  A run measures no time. -/
def PhaseRecord.row (record : PhaseRecord) : Row :=
  { phase := record.phase
    sizeBefore := .int record.sizeBefore
    sizeAfter := .int record.sizeAfter
    rounds := .int record.rounds
    scoreCalls := .int record.scoreCalls
    feasibilityCalls := .int record.feasibilityCalls }

namespace Report

variable {ε : Type}

def sheet (r : Report ε) (value : ε → Value) : Sheet :=
  { direction := some r.direction
    status := r.status
    greedy := .list (r.greedy.map value)
    refined := .list (r.refined.map value)
    best := .list (r.best.map value)
    alpha := .int r.alpha
    beta := r.beta.number.toValue
    rounds := .int r.rounds
    scoreCalls := .int r.scoreCalls
    feasibilityCalls := .int r.feasibilityCalls
    rows := r.history.map PhaseRecord.row }

@[simp] theorem sizes_sheet (r : Report ε) (value : ε → Value) :
    (r.sheet value).sizes = .ok ⟨r.greedy.length, r.refined.length, r.best.length⟩ := by
  simp only [Sheet.sizes, sheet, Value.count_list, List.length_map]; rfl

@[simp] theorem isFeasible_sheet (r : Report ε) (value : ε → Value) :
    (r.sheet value).isFeasible = r.isFeasible := rfl

@[simp] theorem improved_sheet (r : Report ε) (value : ε → Value) :
    (r.sheet value).improved = .ok r.improved := by
  simp only [Sheet.improved, sheet, Value.count_list, List.length_map]; rfl

@[simp] theorem phase?_sheet (r : Report ε) (value : ε → Value) (phase : Phase) :
    (r.sheet value).phase? phase = (r.phase? phase).map PhaseRecord.row := by
  simp only [Sheet.phase?, phase?, sheet, ← List.map_reverse, List.find?_map]; rfl

end Report

end Carousel
