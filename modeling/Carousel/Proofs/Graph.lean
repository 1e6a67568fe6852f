import Mathlib.Data.List.Induction
import Mathlib.Data.List.Perm.Subperm
import Carousel.Graph

/-!
# Simple graphs and uncovered edges

A vertex that is not chosen yet covers one new edge for each of its neighbours that are not chosen
either, so its residual degree is what choosing it takes away from the edges that are left.  Random
graphs are simple, whatever is drawn.
-/

namespace Carousel.Graph

variable {g : Graph} {chosen : List Nat} {vertex : Nat} {edge : Nat × Nat}

/-- Every edge joins two different vertices of the graph, and no two edges join the same ones. -/
structure Simple (g : Graph) : Prop where
  inside : ∀ edge ∈ g.edges, edge.1 < g.order ∧ edge.2 < g.order
  loopless : ∀ edge ∈ g.edges, edge.1 ≠ edge.2
  once : g.edges.Pairwise fun a b => a ≠ b ∧ a ≠ b.swap

def isOpen (chosen : List Nat) (edge : Nat × Nat) : Bool :=
  !(chosen.contains edge.1 || chosen.contains edge.2)

def uncovered (g : Graph) (chosen : List Nat) : Nat := g.edges.countP (isOpen chosen)

/-! ## Covers -/

theorem isOpen_iff : isOpen chosen edge = true ↔ edge.1 ∉ chosen ∧ edge.2 ∉ chosen := by
  simp [isOpen]

theorem isCover_iff : g.isCover chosen = true ↔ ∀ edge ∈ g.edges, edge.1 ∈ chosen ∨ edge.2 ∈ chosen := by
  simp [isCover]

theorem isCover_eq_false_iff :
    g.isCover chosen = false ↔ ∃ edge ∈ g.edges, isOpen chosen edge = true := by
  simp [isCover, isOpen]

theorem isCover_iff_uncovered : g.isCover chosen = true ↔ g.uncovered chosen = 0 := by
  simp [isCover, uncovered, isOpen, List.countP_eq_zero, ← or_iff_not_imp_left]

/-- Every edge has two ends, and so one of them is chosen if all vertices but one are. -/
theorem Simple.isCover_of_all_but_one (simple : g.Simple) (missing : Nat)
    (chose : ∀ vertex < g.order, vertex ≠ missing → vertex ∈ chosen) : g.isCover chosen = true := by
  rw [isCover_iff]
  intro edge member
  obtain ⟨left, right⟩ := simple.inside edge member
  by_cases here : edge.1 = missing
  · exact .inr (chose edge.2 right (here ▸ (simple.loopless edge member).symm))
  · exact .inl (chose edge.1 left here)

/-! ## The gain of a vertex -/

/-- Whether choosing a vertex covers an edge through an end at the vertex: the other end is not chosen. -/
def isGained (chosen : List Nat) (vertex : Nat) (edge : Nat × Nat) : Bool :=
  ((otherEnd? vertex edge).map fun other => !chosen.contains other).getD false

theorem residualDegree_eq_countP :
    g.residualDegree chosen vertex = g.edges.countP (isGained chosen vertex) := by
  rw [residualDegree, neighbours, ← List.countP_eq_length_filter, List.countP_filterMap]
  rfl

theorem residualDegree_pos (member : edge ∈ g.edges) (isOpen : isOpen chosen edge = true) :
    0 < g.residualDegree chosen edge.1 := by
  rw [residualDegree_eq_countP, List.countP_pos_iff]
  have absent := (isOpen_iff.1 isOpen).2
  exact ⟨edge, member, by simpa [isGained, otherEnd?] using absent⟩

/-- An open edge stays open or is gained, and no other edge is either. -/
theorem isOpen_cases (absent : vertex ∉ chosen) (edge : Nat × Nat) :
    ((if isOpen (chosen ++ [vertex]) edge then 1 else 0) +
      if isGained chosen vertex edge then 1 else 0) = if isOpen chosen edge then 1 else 0 := by
  obtain ⟨left, right⟩ := edge
  by_cases first : left = vertex
  · subst first
    simp [isOpen, isGained, otherEnd?, absent]
  · by_cases second : right = vertex
    · subst second
      simp [isOpen, isGained, otherEnd?, first, absent]
    · simp [isOpen, isGained, otherEnd?, first, second]

theorem uncovered_append (g : Graph) (absent : vertex ∉ chosen) :
    g.uncovered (chosen ++ [vertex]) + g.residualDegree chosen vertex = g.uncovered chosen := by
  rw [residualDegree_eq_countP, uncovered, uncovered]
  induction g.edges with
  | nil => rfl
  | cons edge rest ih =>
    have here := isOpen_cases absent edge
    rw [List.countP_cons, List.countP_cons, List.countP_cons, ← ih, ← here]
    omega

/-! ## Growing covers -/

/-- Vertices have joined the start, each of which covers a new edge, until all edges were covered. -/
structure Covering (g : Graph) (start cover : List Nat) : Prop where
  initial : start <+: cover
  gains : ∀ before vertex, start <+: before → before ++ [vertex] <+: cover →
    vertex ∉ before ∧ g.uncovered (before ++ [vertex]) < g.uncovered before
  covered : g.isCover cover = true

namespace Covering

variable {start cover : List Nat}

theorem length_add_uncovered_le (covering : g.Covering start cover) {before : List Nat}
    (begun : start <+: before) (reached : before <+: cover) :
    before.length + g.uncovered before ≤ start.length + g.uncovered start := by
  obtain ⟨joined, rfl⟩ := begun
  -- The induction is on who has joined, and the last one has covered a new edge.
  induction joined using List.reverseRecOn with
  | nil => simp
  | append_singleton joined last ih =>
    rw [← List.append_assoc] at reached ⊢
    have earlier := ih ((List.prefix_append _ _).trans reached)
    have gained := (covering.gains _ last (List.prefix_append _ _) reached).2
    rw [List.length_append, List.length_singleton]
    omega

theorem length_le (covering : g.Covering [] cover) : cover.length ≤ g.edges.length := by
  have counted := covering.length_add_uncovered_le (List.nil_prefix) (List.prefix_refl _)
  have all : g.uncovered [] ≤ g.edges.length := List.countP_le_length
  rw [List.length_nil] at counted
  omega

/-- The last one to join would not have covered a new edge if all other vertices were there. -/
theorem length_lt (covering : g.Covering start cover) (simple : g.Simple) (nodup : cover.Nodup)
    (inside : ∀ vertex ∈ cover, vertex < g.order) (longer : cover ≠ start) :
    cover.length < g.order := by
  have range : cover ⊆ List.range g.order := fun vertex member => List.mem_range.2 (inside vertex member)
  -- If all vertices were there, all but the last would have been a cover, and the last no gain.
  by_contra full
  have everyone := (List.subperm_of_subset nodup range).perm_of_length_le (by simpa using full)
  obtain ⟨before, last, rfl⟩ : ∃ before last, cover = before ++ [last] := by
    refine ⟨_, _, (List.dropLast_append_getLast ?_).symm⟩
    rintro rfl
    exact longer (List.prefix_nil.1 covering.initial).symm
  have begun : start <+: before := by
    rcases List.prefix_concat_iff.1 covering.initial with same | begun
    · exact absurd same.symm longer
    · exact begun
  have gained := (covering.gains before last begun (List.prefix_refl _)).2
  have covered : g.isCover before = true := by
    refine simple.isCover_of_all_but_one last fun vertex below other => ?_
    have member := everyone.mem_iff.2 (List.mem_range.2 below)
    simpa [other] using member
  rw [isCover_iff_uncovered] at covered
  omega

end Covering

/-! ## Random graphs -/

theorem mem_pairs {order : Nat} : edge ∈ pairs order ↔ edge.1 < edge.2 ∧ edge.2 < order := by
  obtain ⟨left, right⟩ := edge
  simp only [pairs, List.mem_flatMap, List.mem_range, List.mem_map, List.mem_range'_1, Prod.mk.injEq]
  constructor
  · rintro ⟨u, below, v, within, rfl, rfl⟩
    omega
  · intro ⟨below, within⟩
    exact ⟨left, by omega, right, by omega, rfl, rfl⟩

theorem nodup_pairs (order : Nat) : (pairs order).Nodup := by
  rw [pairs, List.Nodup, List.pairwise_flatMap]
  constructor
  · intro u _
    refine List.pairwise_map.2 ((List.pairwise_lt_range' 1).imp fun below same => ?_)
    exact Nat.ne_of_lt below (Prod.mk.inj same).2
  · refine List.nodup_range.imp fun {u v} distinct => ?_
    intro edge left other right same
    obtain ⟨_, _, rfl⟩ := List.mem_map.1 left
    obtain ⟨_, _, rfl⟩ := List.mem_map.1 right
    exact distinct (Prod.mk.inj same).1

theorem simple_of_sublist {order : Nat} {edges : List (Nat × Nat)}
    (sublist : edges.Sublist (pairs order)) : Simple { order, edges } where
  inside edge member := by
    obtain ⟨below, within⟩ := mem_pairs.1 (sublist.mem member)
    exact ⟨Nat.lt_trans below within, within⟩
  loopless edge member := Nat.ne_of_lt (mem_pairs.1 (sublist.mem member)).1
  once := by
    refine ((nodup_pairs order).sublist sublist).imp_of_mem fun {a b} left right distinct => ?_
    refine ⟨distinct, fun swapped => ?_⟩
    -- Both edges go upwards, so neither is the other one backwards.
    have upward := (mem_pairs.1 (sublist.mem left)).1
    have downward := (mem_pairs.1 (sublist.mem right)).1
    rw [swapped] at upward
    exact Nat.lt_asymm upward downward

theorem drawn_sublist (threshold : Binary64) (candidates : List (Nat × Nat))
    (generator : Draw.Twister) : (drawn threshold candidates generator).Sublist candidates := by
  induction candidates generalizing generator with
  | nil => exact .slnil
  | cons pair rest ih =>
    unfold drawn
    dsimp only
    split
    · exact (ih _).cons pair
    · exact (ih _).cons_cons pair

theorem simple_random (order : Nat) (chance : Binary64) (seed : Int) :
    (random order chance seed).Simple := by
  apply simple_of_sublist
  split
  · exact .refl _
  · split
    · exact List.nil_sublist _
    · exact drawn_sublist ..

end Carousel.Graph
