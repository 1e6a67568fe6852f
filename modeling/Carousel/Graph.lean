import Carousel.Draw
import Carousel.Universe

/-!
# Graphs

Undirected graphs on numbered vertices, each edge listed once, and random graphs in which every
pair of vertices is joined with the same chance.
-/

namespace Carousel

/-- An undirected graph on the vertices `0`, `1`, … `order - 1`. -/
structure Graph where
  order : Nat
  edges : List (Nat × Nat)
deriving DecidableEq, Inhabited

namespace Graph

def otherEnd? (vertex : Nat) (edge : Nat × Nat) : Option Nat :=
  if edge.1 = vertex then some edge.2
  else if edge.2 = vertex then some edge.1
  else none

def neighbours (g : Graph) (vertex : Nat) : List Nat := g.edges.filterMap (otherEnd? vertex)

def isCover (g : Graph) (chosen : List Nat) : Bool :=
  g.edges.all fun edge => chosen.contains edge.1 || chosen.contains edge.2

/-- How many neighbours of a vertex are not chosen. -/
def residualDegree (g : Graph) (chosen : List Nat) (vertex : Nat) : Nat :=
  ((g.neighbours vertex).filter fun other => !chosen.contains other).length

def joins (g : Graph) (a b : Nat) : Bool := g.edges.contains (a, b) || g.edges.contains (b, a)

def join (g : Graph) (a b : Nat) : Graph :=
  if g.joins a b then g else { g with edges := g.edges ++ [(a, b)] }

def pairs (order : Nat) : List (Nat × Nat) :=
  (List.range order).flatMap fun u => (List.range' (u + 1) (order - (u + 1))).map (u, ·)

/-- The pairs that a fraction below the threshold selects, one fraction drawn for each. -/
def drawn (threshold : Binary64) : List (Nat × Nat) → Draw.Twister → List (Nat × Nat)
  | [], _ => []
  | pair :: rest, generator =>
    let (numerator, generator) := generator.nextFraction
    let fraction := Number.real (.ofRatio false numerator (Nat.pow 2 53))
    if (Number.real threshold).le fraction || threshold.isNaN then drawn threshold rest generator
    else pair :: drawn threshold rest generator

/-- A random graph in which each pair is joined with the given chance.  A chance of one or more
joins all pairs and a chance of zero or less joins none, without a draw. -/
def random (order : Nat) (chance : Binary64) (seed : Int) : Graph :=
  let edges :=
    if (Number.int 1).le (.real chance) then pairs order
    else if (Number.real chance).le (.int 0) then []
    else drawn chance (pairs order) (.ofSeed seed)
  { order, edges }

end Graph

/-! ## Graphs on named nodes

A graph can be given by values: candidates and the ends of edges name its nodes.  A hashable
candidate names itself.  Any other must be a pair of a node and its attributes, which brings that
node into the graph but has no vertex of its own.  A candidate that equals no node, not even itself,
has no vertex either. -/

/-- A graph on named nodes.  Each candidate has a vertex or a reason why it has none. -/
structure NamedGraph where
  graph : Graph
  vertices : Array (Except Fault Nat)

namespace NamedGraph

def vertex? (nodes : List Value) (node : Value) : Option Nat :=
  nodes.findIdx? (Universe.matching node)

/-- The nodes with one more at the end, unless it is known already. -/
def add (nodes : List Value) (node : Value) : List Value :=
  match vertex? nodes node with
  | some _ => nodes
  | none => nodes ++ [node]

def enter (nodes : List Value) (node : Value) : Nat × List Value :=
  ((vertex? nodes node).getD nodes.length, add nodes node)

/-- A value as a node: it must be hashable and not absent. -/
def requireNode (value : Value) : Except Fault Value := do
  value.requireHashable
  if value.isAbsent then throw .absentNode
  return value

/-- The node that a candidate names.  The attributes of a node must be a dictionary or fill one. -/
def nodeOf (candidate : Value) : Except Fault Value :=
  if candidate.hashable then requireNode candidate
  else do
    let (node, attributes) ← candidate.pair
    node.requireHashable
    attributes.requireEntries
    requireNode node

def vertexOf (nodes : List Value) (candidate : Value) : Except Fault Nat := do
  candidate.requireHashable
  match vertex? nodes candidate with
  | some vertex => return vertex
  | none => throw (.missingNode candidate)

/-- The graph with the nodes that candidates name and the given edges.  Vertices are numbered in the
order in which their nodes are first named. -/
def ofValues (candidates : Value) (edges : List (Value × Value)) : Except Fault NamedGraph := do
  let candidates ← candidates.items
  let named ← candidates.mapM nodeOf
  let edges ← edges.mapM fun edge => do
    return (← requireNode edge.1, ← requireNode edge.2)
  let step (built : Graph × List Value) (edge : Value × Value) : Graph × List Value :=
    let (a, nodes) := enter built.2 edge.1
    let (b, nodes) := enter nodes edge.2
    (built.1.join a b, nodes)
  let (graph, nodes) := edges.foldl step ({ order := 0, edges := [] }, named.foldl add [])
  return {
    graph := { graph with order := nodes.length }
    vertices := (candidates.map (vertexOf nodes)).toArray }

def vertex (g : NamedGraph) (position : Nat) : Except Fault Nat :=
  g.vertices.getD position (.error .noSuchEntry)

/-- The vertices of the candidates at some positions; those without a vertex count for none. -/
def chosen (g : NamedGraph) (positions : List Nat) : List Nat :=
  positions.filterMap fun position => (g.vertex position).toOption

def isCover (g : NamedGraph) (positions : List Nat) : Bool := g.graph.isCover (g.chosen positions)

/-- How many neighbours of a candidate are not among the candidates at some positions. -/
def residualDegree (g : NamedGraph) (positions : List Nat) (position : Nat) : Except Fault Nat := do
  return g.graph.residualDegree (g.chosen positions) (← g.vertex position)

end NamedGraph

end Carousel
