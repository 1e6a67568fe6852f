import Carousel.Graph
import Carousel.Solver

/-!
# Minimum vertex cover

The search for a small set of vertices that meets every edge.  A selection is feasible when it is a
cover, and a vertex scores the number of its neighbours that are not chosen, which is the number of
edges it would newly cover.
-/

namespace Carousel

namespace VertexCover

variable {σ : Type}

def feasible (view : View Graph) (selected : List Nat) : Callback σ Bool :=
  return view.data.isCover selected

/-- A vertex scores the number of edges that it would newly cover. -/
def score (view : View Graph) (selected : List Nat) (vertex : Nat) : Callback σ Score :=
  return .int (view.data.residualDegree selected vertex)

def setup (graph : Graph) (fields : Fields) : Setup Unit Graph Nat :=
  { feasible := some feasible
    score := some score
    candidates := .list (Value.rangeMembers 0 graph.order 1)
    element := fun vertex _ => vertex
    label := toString
    data := graph
    caller := ()
    basis := .defaults
    fields }

end VertexCover

/-! ## The command

The command draws a random graph, searches a small vertex cover of it, and reports what it found.
Options are long; they may be abbreviated, and their values may follow an equals sign. -/

namespace CommandLine

structure Request where
  nodes : Int := 50
  chance : Binary64 := .ofRatio false 1 10
  alpha : Int := 20
  beta : Binary64 := .ofRatio false 1 20
  seed : Int := 42
  verbose : Bool := false
deriving Inhabited

inductive Flag where
  | nodes
  | chance
  | alpha
  | beta
  | seed
  | verbose
deriving DecidableEq

def flagNames : List (String × Flag) :=
  [("--nodes", .nodes), ("--p", .chance), ("--alpha", .alpha), ("--beta", .beta),
    ("--seed", .seed), ("--verbose", .verbose)]

/-- The option of a name: its full name, or an abbreviation that fits no other option. -/
def flag? (name : String) : Option Flag :=
  match flagNames.find? fun entry => entry.1 == name with
  | some entry => some entry.2
  | none =>
    match flagNames.filter fun entry => name.toList.isPrefixOf entry.1.toList with
    | [entry] => if name.length ≤ 2 then none else some entry.2
    | _ => none

def Request.set? (r : Request) (flag : Flag) (text : String) : Option Request :=
  match flag with
  | .nodes => (Text.readInt text).toOption.map fun nodes => { r with nodes }
  | .chance => (Text.readBinary64? text).map fun chance => { r with chance }
  | .alpha => (Text.readInt text).toOption.map fun alpha => { r with alpha }
  | .beta => (Text.readBinary64? text).map fun beta => { r with beta }
  | .seed => (Text.readInt text).toOption.map fun seed => { r with seed }
  | .verbose => none

def splitWord (word : String) : String × Option String :=
  let name := word.toList.takeWhile (· ≠ '=')
  match word.toList.dropWhile (· ≠ '=') with
  | [] => (word, none)
  | _ :: value => (String.ofList name, some (String.ofList value))

/-- The request that the words of a command line make; the last value of an option counts. -/
def Request.ofWords? (r : Request) : List String → Option Request
  | [] => some r
  | word :: rest =>
    match splitWord word with
    | (name, some value) => do (← r.set? (← flag? name) value).ofWords? rest
    | (name, none) =>
      match flag? name with
      | none => none
      | some .verbose => ofWords? { r with verbose := true } rest
      | some flag =>
        match rest with
        | [] => none
        | value :: rest => do (← r.set? flag value).ofWords? rest

structure Printed where
  code : Nat
  output : String
deriving DecidableEq

def Request.fields (r : Request) : Fields :=
  [("alpha", .int r.alpha), ("beta", .real r.beta), ("seed", .int r.seed),
    ("random_tie_break", .bool true), ("verbose", .bool r.verbose)]

def opening (graph : Graph) : List String :=
  let rule := "".pushn '=' 60
  [rule, "Carousel Greedy - Minimum Vertex Cover", rule,
    "Graph: " ++ toString graph.order ++ " nodes, " ++ toString graph.edges.length ++ " edges"]

def findings (greedy refined returned : Nat) (valid : Bool) : List String :=
  ["",
    "Greedy size           : " ++ toString greedy,
    "Carousel Greedy size  : " ++ toString refined,
    "Returned size         : " ++ toString returned,
    "Cover valid?          : " ++ (Scalar.bool valid).written,
    "Elapsed time          : " ++ Binary64.zero.writeFixed 6 ++ " seconds"]

def runOn (graph : Graph) (r : Request) : Except Fault Printed := do
  let prepared ← (VertexCover.setup graph r.fields).prepare Settings.builtin
  let outcome := prepared.solver.optimize prepared.problem .minimize .absent .absent
  let best ← outcome.answer
  let memory := outcome.after.memory
  let valid := graph.isCover (prepared.problem.candidates.elementsAt best)
  let size (solution : Option (List (Fin prepared.size))) : Nat := (solution.getD []).length
  let progress := (outcome.notices.filter (!·.isWarning)).map Notice.text
  let closing ← match memory.report, r.verbose with
    | some report, true => do
      pure ["", ← (report.sheet fun position => .int position.val).summary]
    | _, _ => pure []
  let lines := opening graph ++ progress ++
    findings (size memory.greedy) (size memory.refined) best.length valid ++ closing
  return { code := if valid then 0 else 1, output := String.join (lines.map (· ++ "\n")) }

def run (r : Request) : Except Fault Printed :=
  if r.nodes < 0 then .error (.negativeOrder r.nodes)
  else runOn (Graph.random r.nodes.toNat r.chance r.seed) r

end CommandLine

end Carousel
