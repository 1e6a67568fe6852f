import Carousel.Graph
import Carousel.Solver

/-!
# Stock rules

Ready-made callbacks are rules over the positions of candidates.  Some rules count the calls made
of them, so a rule is its own state: evaluating one gives an answer and the rule for the next call.
-/

namespace Carousel

structure Placed where
  position : Nat
  value : Value

inductive Payload where
  | value (value : Value)
  | graph (graph : NamedGraph)

namespace Payload

def typeName : Payload → String
  | value v => v.typeName
  | graph _ => "Graph"

/-- The graph that the data is; other data lacks the member asked for. -/
def graphWith (payload : Payload) (member : String) : Except Fault NamedGraph :=
  match payload with
  | graph g => .ok g
  | value v => .error (.noMember v.typeName member)

def atMost (payload : Payload) (count : Nat) : Except Fault Bool :=
  let notOrdered : Except Fault Bool := .error (.notOrdered ">=" "int" payload.typeName)
  match payload with
  | value (.scalar s) =>
    match Number.ofScalar? s with
    | some bound => .ok (bound.le (.int count))
    | none => notOrdered
  | _ => notOrdered

end Payload

/-- What a rule is evaluated on: what the solver shows and the selected candidates. -/
structure Question where
  view : View Payload
  selected : List Placed

namespace Question

def positions (question : Question) : List Nat := question.selected.map Placed.position

/-- Whether a position is selected.  A negative one never is. -/
def selects (question : Question) (position : Int) : Bool :=
  question.positions.any fun selected => (selected : Int) == position

/-- The selected positions, for a rule that looks candidates up by value: all values must be
hashable. -/
def lookups (question : Question) : Except Fault (List Nat) := do
  question.selected.forM fun placed => placed.value.requireHashable
  return question.positions

end Question

/-- An answer, and the rule for the next call. -/
abbrev Answered (ρ β : Type) := Except Fault β × ρ

namespace Rule

def entry {β : Type} (table : Array β) (place : Nat) : Except Fault β :=
  match table[place]? with
  | some found => .ok found
  | none => .error .noSuchEntry

/-- The answer of a table that is gone through cyclically, call by call. -/
def cyclic {β : Type} (answers : Array β) (calls : Nat) : Except Fault β :=
  if answers.isEmpty then .error .remainderByZero else entry answers (calls % answers.size)

end Rule

/-! ## Stock feasibility rules -/

inductive FeasibilityRule where
  | const (value : Value)
  /-- The size of the selection lies between two bounds. -/
  | size (least : Int) (most : Option Int)
  | sizeOfData
  /-- The sum of the weights lies between two bounds. -/
  | sum (weights : Array Int) (least most : Option Int)
  | contains (all : List Int)
  | excludes (any : List Int)
  | independent (edges : List (Int × Int))
  /-- The union of the selected sets has at least so many members. -/
  | setCover (sets : Array (List Int)) (need : Int)
  | ascending
  | cover
  | not (rule : FeasibilityRule)
  | all (rules : List FeasibilityRule)
  | cycle (answers : Array Value) (calls : Nat)
  | refuse (raised : Raised)
  | failing (turn : Nat) (raised : Raised) (calls : Nat) (rule : FeasibilityRule)
  | byDirection (minimize maximize idle : FeasibilityRule)
  | byIteration (round : Int) (before after : FeasibilityRule)
deriving Inhabited

namespace FeasibilityRule

def between (least most : Option Int) (number : Int) : Bool :=
  (least.all fun bound => bound ≤ number) && (most.all fun bound => number ≤ bound)

def increasing : List Nat → Bool
  | a :: b :: rest => a < b && increasing (b :: rest)
  | _ => true

mutual

def test (question : Question) : FeasibilityRule → Answered FeasibilityRule Bool
  | const value => (.ok value.truth, const value)
  | size least most => (.ok (between least most question.selected.length), size least most)
  | sizeOfData => (question.view.data.atMost question.selected.length, sizeOfData)
  | sum weights least most =>
    let answer := do
      let terms ← question.positions.mapM (Rule.entry weights)
      return between least most terms.sum
    (answer, sum weights least most)
  | contains positions => (.ok (positions.all question.selects), contains positions)
  | excludes positions => (.ok (!positions.any question.selects), excludes positions)
  | independent edges =>
    let joined := edges.any fun edge => question.selects edge.1 && question.selects edge.2
    (.ok !joined, independent edges)
  | setCover sets need =>
    let answer := do
      let chosen ← question.positions.mapM (Rule.entry sets)
      return decide (need ≤ chosen.flatten.eraseDups.length)
    (answer, setCover sets need)
  | ascending => (.ok (increasing question.positions), ascending)
  | cover =>
    let answer := do
      let chosen ← question.lookups
      return (← question.view.data.graphWith "edges").isCover chosen
    (answer, cover)
  | not rule =>
    let (answer, rule) := rule.test question
    (answer.map (!·), not rule)
  | all rules =>
    let (answer, rules) := testAll question rules
    (answer, all rules)
  | cycle answers calls =>
    ((Rule.cyclic answers calls).map Value.truth, cycle answers (calls + 1))
  | refuse raised => (.error (.raised raised), refuse raised)
  | failing turn raised calls rule =>
    if calls + 1 = turn then (.error (.raised raised), failing turn raised (calls + 1) rule)
    else
      let (answer, rule) := rule.test question
      (answer, failing turn raised (calls + 1) rule)
  | byDirection minimize maximize idle =>
    match question.view.direction with
    | some .minimize =>
      let (answer, minimize) := minimize.test question
      (answer, byDirection minimize maximize idle)
    | some .maximize =>
      let (answer, maximize) := maximize.test question
      (answer, byDirection minimize maximize idle)
    | none =>
      let (answer, idle) := idle.test question
      (answer, byDirection minimize maximize idle)
  | byIteration round before after =>
    if question.view.iteration < round then
      let (answer, before) := before.test question
      (answer, byIteration round before after)
    else
      let (answer, after) := after.test question
      (answer, byIteration round before after)

/-- Whether all rules answer yes.  Each is asked, up to the first fault. -/
def testAll (question : Question) : List FeasibilityRule → Answered (List FeasibilityRule) Bool
  | [] => (.ok true, [])
  | rule :: rest =>
    match rule.test question with
    | (.error fault, rule) => (.error fault, rule :: rest)
    | (.ok yes, rule) =>
      let (answer, rest) := testAll question rest
      (answer.map (yes && ·), rule :: rest)

end

end FeasibilityRule

/-! ## Stock scoring rules -/

inductive ScoringRule where
  | const (score : Score)
  | table (scores : Array Score)
  /-- A table for each size of the selection, cyclically. -/
  | rows (tables : Array (Array Score))
  /-- `a · position + b · size + c`, reduced by a modulus unless that is zero. -/
  | affine (a b c modulus : Int)
  /-- How many members of the candidate's set are in no selected set. -/
  | marginal (sets : Array (List Int))
  /-- An integer score divided by a number for each position. -/
  | ratio (rule : ScoringRule) (divisors : Array Int)
  /-- A table for the empty selection, and one for each position selected last. -/
  | afterLast (base : Array Score) (tables : Array (Array Score))
  /-- The stored multiplier times the position counted from one, reduced by a modulus. -/
  | alpha (modulus : Int)
  /-- The number of neighbours, in the graph that is the data, that are not selected. -/
  | degree
  | cycle (answers : Array Score) (calls : Nat)
  | refuse (raised : Raised)
  | failing (turn : Nat) (raised : Raised) (calls : Nat) (rule : ScoringRule)
  | byDirection (minimize maximize idle : ScoringRule)
  | byIteration (round : Int) (before after : ScoringRule)
deriving Inhabited

namespace ScoringRule

def divide (score : Score) (divisor : Int) : Except Fault Score :=
  match Column.integer? score with
  | none => .error (.noIntegerValue score.typeName)
  | some number =>
    if divisor = 0 then .error .divisionByZero
    else match Binary64.ofQuotient? number divisor with
      | some quotient => .ok (.real quotient)
      | none => .error .quotientTooLarge

def reduce (number modulus : Int) : Except Fault Score :=
  if modulus = 0 then .error .remainderByZero else .ok (.int (number.fmod modulus))

def gain (sets : Array (List Int)) (selected : List Nat) (position : Nat) : Except Fault Score := do
  let chosen ← selected.mapM (Rule.entry sets)
  let own ← Rule.entry sets position
  let fresh := own.eraseDups.filter fun member => !chosen.any (·.contains member)
  return .int fresh.length

def score (question : Question) (position : Nat) : ScoringRule → Answered ScoringRule Score
  | const fixed => (.ok fixed, const fixed)
  | table scores => (Rule.entry scores position, table scores)
  | rows tables =>
    let answer := do
      if tables.isEmpty then throw .remainderByZero
      Rule.entry (← Rule.entry tables (question.selected.length % tables.size)) position
    (answer, rows tables)
  | affine a b c modulus =>
    let number := a * position + b * question.selected.length + c
    (if modulus = 0 then .ok (.int number) else reduce number modulus, affine a b c modulus)
  | marginal sets => (gain sets question.positions position, marginal sets)
  | ratio rule divisors =>
    let (answer, rule) := rule.score question position
    (do divide (← answer) (← Rule.entry divisors position), ratio rule divisors)
  | afterLast base tables =>
    let answer := match question.positions.getLast? with
      | none => Rule.entry base position
      | some last => do Rule.entry (← Rule.entry tables last) position
    (answer, afterLast base tables)
  | alpha modulus =>
    (reduce (question.view.config.alpha * (position + 1)) modulus, alpha modulus)
  | degree =>
    let answer := do
      let chosen ← question.lookups
      let graph ← question.view.data.graphWith "neighbors"
      return .int (← graph.residualDegree chosen position)
    (answer, degree)
  | cycle answers calls => (Rule.cyclic answers calls, cycle answers (calls + 1))
  | refuse raised => (.error (.raised raised), refuse raised)
  | failing turn raised calls rule =>
    if calls + 1 = turn then (.error (.raised raised), failing turn raised (calls + 1) rule)
    else
      let (answer, rule) := rule.score question position
      (answer, failing turn raised (calls + 1) rule)
  | byDirection minimize maximize idle =>
    match question.view.direction with
    | some .minimize =>
      let (answer, minimize) := minimize.score question position
      (answer, byDirection minimize maximize idle)
    | some .maximize =>
      let (answer, maximize) := maximize.score question position
      (answer, byDirection minimize maximize idle)
    | none =>
      let (answer, idle) := idle.score question position
      (answer, byDirection minimize maximize idle)
  | byIteration round before after =>
    if question.view.iteration < round then
      let (answer, before) := before.score question position
      (answer, byIteration round before after)
    else
      let (answer, after) := after.score question position
      (answer, byIteration round before after)

end ScoringRule

/-! ## Callbacks from rules

A pair of rules is the state of a caller whose callbacks evaluate them and keep what they become. -/

/-- The rules of a caller; either may be missing. -/
structure Rules where
  feasibility : Option FeasibilityRule
  scoring : Option ScoringRule
deriving Inhabited

namespace Rules

def feasible (view : View Payload) (selected : List Placed) : Callback Rules Bool := fun rules =>
  match rules.feasibility with
  | none => (.error Fault.noFeasibilityTest.toRaised, rules)
  | some rule =>
    let (answer, rule) := rule.test ⟨view, selected⟩
    (answer.mapError Fault.toRaised, { rules with feasibility := some rule })

def score (view : View Payload) (selected : List Placed) (candidate : Placed) :
    Callback Rules Score :=
  fun rules =>
    match rules.scoring with
    | none => (.error Fault.noScore.toRaised, rules)
    | some rule =>
      let (answer, rule) := rule.score ⟨view, selected⟩ candidate.position
      (answer.mapError Fault.toRaised, { rules with scoring := some rule })

def setup (rules : Rules) (candidates : Value) (data : Payload) (basis : Basis)
    (fields : Fields) : Setup Rules Payload Placed :=
  { feasible := rules.feasibility.map fun _ => feasible
    score := rules.scoring.map fun _ => score
    candidates
    element := Placed.mk
    label := fun placed => placed.value.written
    data
    caller := rules
    basis
    fields }

end Rules

end Carousel
