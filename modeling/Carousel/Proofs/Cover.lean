import Carousel.Proofs.Completion
import Carousel.Proofs.Graph
import Carousel.Proofs.Run.Reliable
import Carousel.Proofs.Tally
import Carousel.VertexCover

/-!
# The search for a cover

The candidates stand for the vertices of a graph, a selection is feasible when it is a cover, and a
candidate scores its residual degree.  What a candidate scores is what it takes away from the uncovered
edges.  So as long as an edge is uncovered there is somebody to choose, everyone who joins covers a new edge,
and the last vertex is never needed.
-/

namespace Carousel

variable {σ δ α γ : Type} {n : Nat} {g : Graph} {vertex : α → Nat}

/-! ## Candidates for vertices -/

/-- Nobody has a greater score than the best, where all scores are whole numbers. -/
theorem Best.le_of_integers {random : Bool} {candidates : List γ} {score : γ → Int} {chosen other : γ}
    (best : Best random candidates (candidates.map fun candidate => .int (score candidate)) chosen)
    (member : other ∈ candidates) : score other ≤ score chosen := by
  obtain ⟨keys, place, top, ranks, at_place, reached, greatest, _⟩ := best
  have whole : (candidates.map fun candidate => (.int (score candidate) : Score)).mapM
      Column.integer? = some (candidates.map score) := by
    rw [mapM_integer?_eq_some, List.forall₂_map_left_iff, List.forall₂_map_right_iff]
    exact List.forall₂_same.2 fun _ _ => rfl
  cases ranks.unique (.exact whole)
  rw [List.getElem?_map, at_place, Option.map_some, Option.some.injEq] at reached
  exact reached ▸ greatest _ (List.mem_map_of_mem member)

namespace Universe

variable {u : Universe α n} {order : List (Fin n)} {position : Fin n}

def ofVector (elements : Vector α (n + 1)) : Universe α (n + 1) := ⟨elements, n.succ_pos⟩

def verticesAt (u : Universe α n) (vertex : α → Nat) (order : List (Fin n)) : List Nat :=
  (u.elementsAt order).map vertex

/-- Each candidate stands for one vertex of the graph, and each vertex has one candidate. -/
def Numbers (u : Universe α n) (vertex : α → Nat) (g : Graph) : Prop :=
  (u.toList.map vertex).Perm (List.range g.order)

theorem verticesAt_append (order : List (Fin n)) (position : Fin n) :
    u.verticesAt vertex (order ++ [position]) =
      u.verticesAt vertex order ++ [vertex (u.element position)] := by
  simp [verticesAt, elementsAt]

@[simp] theorem length_verticesAt (order : List (Fin n)) :
    (u.verticesAt vertex order).length = order.length := by
  simp [verticesAt]

namespace Numbers

theorem perm_of_full (numbers : u.Numbers vertex g) (full : order.Perm (List.finRange n)) :
    (u.verticesAt vertex order).Perm (List.range g.order) :=
  ((elementsAt_perm full).map vertex).trans numbers

theorem size_eq (numbers : u.Numbers vertex g) : n = g.order := by
  simpa using (numbers.perm_of_full (.refl _)).length_eq

theorem injective (numbers : u.Numbers vertex g) : Function.Injective (vertex <| u.element ·) := by
  have distinct : ((List.finRange n).map (vertex <| u.element ·)).Nodup := by
    have nodup := (numbers.perm_of_full (.refl _)).nodup_iff.2 List.nodup_range
    rwa [verticesAt, elementsAt, List.map_map] at nodup
  intro left right same
  exact List.inj_on_of_nodup_map distinct (List.mem_finRange left) (List.mem_finRange right) same

theorem mem_verticesAt_iff (numbers : u.Numbers vertex g) :
    vertex (u.element position) ∈ u.verticesAt vertex order ↔ position ∈ order := by
  rw [verticesAt, elementsAt, List.map_map]
  exact List.mem_map_of_injective numbers.injective

theorem nodup (numbers : u.Numbers vertex g) (nodup : order.Nodup) :
    (u.verticesAt vertex order).Nodup := by
  rw [verticesAt, elementsAt, List.map_map]
  exact nodup.map numbers.injective

theorem exists_position (numbers : u.Numbers vertex g) {v : Nat} (below : v < g.order) :
    ∃ position, vertex (u.element position) = v := by
  have member := (numbers.perm_of_full (.refl _)).mem_iff.2 (List.mem_range.2 below)
  simpa [verticesAt, elementsAt] using member

theorem lt_order (numbers : u.Numbers vertex g) {v : Nat} (member : v ∈ u.verticesAt vertex order) :
    v < g.order := by
  simp only [verticesAt, elementsAt, List.map_map, List.mem_map] at member
  obtain ⟨position, _, rfl⟩ := member
  refine List.mem_range.1 ((numbers.perm_of_full (.refl _)).mem_iff.1 ?_)
  exact numbers.mem_verticesAt_iff.2 (List.mem_finRange position)

theorem isCover_of_full (numbers : u.Numbers vertex g) (simple : g.Simple)
    (full : order.Perm (List.finRange n)) : g.isCover (u.verticesAt vertex order) = true :=
  simple.isCover_of_all_but_one g.order fun _ below _ =>
    (numbers.perm_of_full full).mem_iff.2 (List.mem_range.2 below)

end Numbers

end Universe

/-! ## Greedy orders -/

theorem exists_of_prefix_map {γ' : Type} {f : γ → γ'} {xs : List γ} {before : List γ'} {next : γ'}
    (reached : before ++ [next] <+: xs.map f) :
    ∃ earlier x, before = earlier.map f ∧ next = f x ∧ earlier ++ [x] <+: xs := by
  obtain ⟨rest, split⟩ := reached
  obtain ⟨front, back, rfl, whole, _⟩ := List.map_eq_append_iff.1 split.symm
  obtain ⟨earlier, last, rfl, rfl, single⟩ := List.map_eq_append_iff.1 whole
  obtain ⟨x, rfl, rfl⟩ := List.map_eq_singleton_iff.1 single
  exact ⟨earlier, x, rfl, rfl, back, rfl⟩

namespace GreedyFrom

variable {u : Universe α n} {random : Bool} {start order before : List (Fin n)} {position : Fin n}

/-- The best candidate beside an order that is no cover covers a new edge. -/
theorem gain_of_best (numbers : u.Numbers vertex g) (simple : g.Simple)
    (rejected : g.isCover (u.verticesAt vertex before) = false)
    (best : Best random (unselected before) (scoresAgainst u (fun selected candidate =>
      .int (g.residualDegree (selected.map vertex) (vertex candidate))) before) position) :
    vertex (u.element position) ∉ u.verticesAt vertex before ∧
      g.uncovered (u.verticesAt vertex (before ++ [position])) <
        g.uncovered (u.verticesAt vertex before) := by
  have absent : vertex (u.element position) ∉ u.verticesAt vertex before := by
    rw [numbers.mem_verticesAt_iff]
    exact mem_unselected.1 best.mem
  refine ⟨absent, ?_⟩
  -- The candidate at an end of an uncovered edge scores, and the best one scores no less.
  obtain ⟨edge, member, isOpen⟩ := Graph.isCover_eq_false_iff.1 rejected
  obtain ⟨other, named⟩ := numbers.exists_position (simple.inside edge member).1
  have outside : other ∈ unselected before := by
    rw [mem_unselected, ← numbers.mem_verticesAt_iff, named]
    exact (Graph.isOpen_iff.1 isOpen).1
  have scores : 0 < g.residualDegree (u.verticesAt vertex before) edge.1 :=
    Graph.residualDegree_pos member isOpen
  have least : ((g.residualDegree (u.verticesAt vertex before) (vertex (u.element other)) : Nat) : Int) ≤
      g.residualDegree (u.verticesAt vertex before) (vertex (u.element position)) :=
    best.le_of_integers outside
  have gained := g.uncovered_append absent
  rw [named] at least
  rw [Universe.verticesAt_append]
  omega

theorem covering (numbers : u.Numbers vertex g) (simple : g.Simple)
    (greedy : GreedyFrom u (fun selected => g.isCover (selected.map vertex))
      (fun selected candidate => .int (g.residualDegree (selected.map vertex) (vertex candidate)))
      .minimize random start order) :
    g.Covering (u.verticesAt vertex start) (u.verticesAt vertex order) where
  initial := (greedy.initial.map u.element).map vertex
  gains before next begun reached := by
    rw [Universe.verticesAt, Universe.elementsAt, List.map_map] at reached
    obtain ⟨earlier, position, rfl, rfl, further⟩ := exists_of_prefix_map reached
    have within : earlier <+: order := (List.prefix_append _ _).trans further
    have begun : start <+: earlier := by
      refine List.prefix_of_prefix_length_le greedy.initial within ?_
      simpa using begun.length_le
    -- The construction goes on behind `earlier`, so it was not yet a cover.
    have proper : earlier ≠ order := by
      rintro rfl
      simpa using further.length_le
    have rejected := greedy.rejected rfl earlier begun within proper
    have gained := gain_of_best numbers simple rejected (greedy.best earlier position begun further)
    rw [Universe.verticesAt_append] at gained
    simpa [Universe.verticesAt, Universe.elementsAt] using gained
  covered := by
    rcases greedy.ended with ⟨_, accepted⟩ | full
    · exact accepted
    · exact numbers.isCover_of_full simple full

end GreedyFrom

/-! ## The callbacks -/

/-- The problem asks for a small cover of the graph.  Its candidates stand for the vertices in any order,
and whenever its callbacks are shown the data, they answer whether the selected vertices are a cover and
what the residual degree of a vertex is. -/
structure Problem.Searches (problem : Problem σ δ α n) (data : δ) (g : Graph) (vertex : α → Nat) :
    Prop where
  numbers : problem.candidates.Numbers vertex g
  feasible : ∀ view selected caller, view.data = data → ∃ after,
    (problem.feasible view selected).perform caller = (.ok (g.isCover (selected.map vertex)), after)
  score : ∀ view selected candidate caller, view.data = data → ∃ after,
    (problem.score view selected candidate).perform caller =
      (.ok (.int (g.residualDegree (selected.map vertex) (vertex candidate))), after)

/-- The callbacks of the search for a cover, where the vertices go by names of their own. -/
theorem VertexCover.searches {problem : Problem σ Graph α n} (numbers : problem.candidates.Numbers vertex g)
    (feasible : ∀ view selected,
      problem.feasible view selected = feasible view (selected.map vertex))
    (score : ∀ view selected candidate,
      problem.score view selected candidate = score view (selected.map vertex) (vertex candidate)) :
    problem.Searches g g vertex where
  numbers := numbers
  feasible view selected caller shown := by
    rw [feasible, ← shown]
    exact ⟨caller, rfl⟩
  score view selected candidate caller shown := by
    rw [score, ← shown]
    exact ⟨caller, rfl⟩

/-- The callbacks as they are, where the vertices go by their numbers. -/
theorem VertexCover.searches_id {problem : Problem σ Graph Nat n} (numbers : problem.candidates.Numbers id g)
    (feasible : problem.feasible = feasible) (score : problem.score = score) :
    problem.Searches g g id := by
  refine searches numbers (fun view selected => ?_) fun view selected candidate => ?_
  · rw [feasible, List.map_id]
  · rw [score, List.map_id]
    rfl

namespace Scene

variable {scene : Scene σ δ α n} {stop : Act (Stage σ n) Bool}
  {choose : Act (Stage σ n) (Option (Fin n))} {s m t : Stage σ n} {flag : Bool}

def showing (scene : Scene σ δ α n) : Scene σ δ α n :=
  { scene with problem := { scene.problem with
      feasible := fun view => scene.problem.feasible { view with data := scene.data }
      score := fun view => scene.problem.score { view with data := scene.data } } }

theorem Grows.showing (grows : Grows scene stop choose s flag t) :
    Grows scene.showing stop choose s flag t := by
  induction grows with
  | stopped met => exact .stopped met
  | exhausted unmet nothing => exact .exhausted unmet nothing
  | joined unmet chosen added _ ih => exact .joined unmet chosen added ih

/-- Towards a small selection, repairs are constructions. -/
theorem Grows.constructed (small : s.run.direction = .minimize) (sound : s.run.selection.Sound)
    (grows : Grows scene scene.isRepaired scene.selectRemaining s flag t) :
    Grows scene scene.isConstructed scene.selectRemaining s flag t := by
  have same {s m : Stage σ n} {yes : Bool} (small : s.run.direction = .minimize)
      (tested : scene.isRepaired.Completes s yes m) : scene.isConstructed.Completes s yes m :=
    (isConstructed_minimize small).2 (completes_isRepaired.1 tested)
  induction grows with
  | stopped met => exact .stopped (same small met)
  | exhausted unmet nothing => exact .exhausted (same small unmet) nothing
  | joined unmet chosen added _ ih =>
    have joined := ((asks_isRepaired unmet).trans (asks_selectRemaining chosen)).joined sound added
    exact .joined (same small unmet) chosen added (ih (joined.direction.trans small) joined.sound)

end Scene

namespace Problem.Searches

variable {scene : Scene σ δ α n} {s m t : Stage σ n} {flag : Bool}

theorem reliable (searches : scene.problem.Searches scene.data g vertex) : scene.Reliable where
  tests positions s := by
    obtain ⟨after, answered⟩ := searches.feasible (scene.view s)
      (scene.problem.candidates.elementsAt positions) s.caller rfl
    exact ⟨_, _, Scene.completes_isFeasible.2 ⟨after, answered, rfl⟩⟩
  rates selected position s := by
    obtain ⟨after, answered⟩ := searches.score (scene.view s) selected
      (scene.problem.candidates.element position) s.caller rfl
    exact ⟨_, _, Scene.completes_rate.2 ⟨after, answered, rfl⟩⟩

theorem decides (searches : scene.problem.Searches scene.data g vertex) :
    scene.showing.problem.Decides fun selected => g.isCover (selected.map vertex) :=
  fun view selected caller => searches.feasible { view with data := scene.data } selected caller rfl

theorem goesBy (searches : scene.problem.Searches scene.data g vertex) :
    scene.showing.problem.GoesBy (fun selected => g.isCover (selected.map vertex))
      fun selected candidate => .int (g.residualDegree (selected.map vertex) (vertex candidate)) where
  verdict {view selected caller _ _} answered := by
    obtain ⟨_, known⟩ := searches.decides view selected caller
    exact Except.ok.inj (congrArg Prod.fst (answered.symm.trans known))
  score {view selected candidate caller _ _} answered := by
    obtain ⟨_, known⟩ := searches.score { view with data := scene.data } selected candidate caller rfl
    exact Except.ok.inj (congrArg Prod.fst (answered.symm.trans known))

theorem verdict_eq (searches : scene.problem.Searches scene.data g vertex) {order : List (Fin n)}
    (tested : (scene.isFeasible order).Completes s flag t) :
    flag = g.isCover (scene.problem.candidates.verticesAt vertex order) := by
  have tested : (scene.showing.isFeasible order).Completes s flag t := tested
  exact Scene.verdict_eq_of_goesBy searches.goesBy tested

/-- As long as an edge is uncovered there is somebody to choose. -/
theorem not_exhausted (searches : scene.problem.Searches scene.data g vertex) (simple : g.Simple)
    (sound : s.run.selection.Sound)
    (tested : (scene.isFeasible s.run.selection.order).Completes s false m) :
    ¬ scene.selectRemaining.Completes m none t := by
  intro nothing
  have selection := (Scene.asks_isFeasible _ tested).selection
  have empty := Scene.eq_nil_of_select_none (Scene.completes_selectRemaining.1 nothing)
  rw [selection] at empty
  have covered := searches.numbers.isCover_of_full simple (sound.perm_of_remaining_eq_nil empty)
  exact absurd (searches.verdict_eq tested) (by simp [covered])

theorem covering_of_grows (searches : scene.problem.Searches scene.data g vertex) (simple : g.Simple)
    (small : s.run.direction = .minimize) (sound : s.run.selection.Sound)
    (grows : Scene.Grows scene scene.isConstructed scene.selectRemaining s flag t) :
    g.Covering (scene.problem.candidates.verticesAt vertex s.run.selection.order)
      (scene.problem.candidates.verticesAt vertex t.run.selection.order) := by
  have shown : Scene.Grows scene.showing scene.showing.isConstructed scene.showing.selectRemaining s
      flag t := grows.showing
  have greedy := shown.greedyFrom searches.goesBy sound
  rw [small] at greedy
  exact greedy.covering searches.numbers simple

theorem covering_of_construction (searches : scene.problem.Searches scene.data g vertex)
    (simple : g.Simple) (small : s.run.direction = .minimize) (sound : s.run.selection.Sound)
    (completed : scene.construction.Completes s () t) :
    g.Covering (scene.problem.candidates.verticesAt vertex s.run.selection.order)
      (scene.problem.candidates.verticesAt vertex t.run.selection.order) := by
  obtain ⟨_, _, grows, rfl⟩ := Scene.grows_of_construction sound completed
  rw [Scene.selection_noted]
  exact searches.covering_of_grows simple small sound grows

theorem covering_of_completion (searches : scene.problem.Searches scene.data g vertex)
    (simple : g.Simple) (small : s.run.direction = .minimize) (sound : s.run.selection.Sound)
    (completed : scene.completion.Completes s flag t) :
    flag = true ∧ g.Covering (scene.problem.candidates.verticesAt vertex s.run.selection.order)
      (scene.problem.candidates.verticesAt vertex t.run.selection.order) := by
  obtain ⟨m, grows, rfl⟩ := Scene.grows_of_completion_minimize small sound completed
  rw [Scene.selection_noted]
  have covering := searches.covering_of_grows simple small sound (grows.constructed small sound)
  have shown : Scene.Grows scene.showing scene.showing.isRepaired scene.showing.selectRemaining s flag
      m := grows.showing
  exact ⟨(shown.flag_eq searches.decides).trans covering.covered, covering⟩

/-! ## Runs -/

section

variable {config : Config} {start : Stage σ n}

theorem covering_greedy (searches : scene.problem.Searches scene.data g vertex) (simple : g.Simple)
    (p : Scene.Passage scene config .minimize start) (small : start.run.direction = .minimize)
    (sound : start.run.selection.Sound) :
    g.Covering (scene.problem.candidates.verticesAt vertex start.run.selection.order)
      (scene.problem.candidates.verticesAt vertex p.greedy) := by
  obtain ⟨construction, found⟩ := Scene.completes_greedy_minimize.1 p.construction
  rw [found]
  exact searches.covering_of_construction simple small sound construction

theorem covering_refined (searches : scene.problem.Searches scene.data g vertex) (simple : g.Simple)
    (p : Scene.Passage scene config .minimize start) (small : start.run.direction = .minimize)
    (sound : start.run.selection.Sound) :
    g.Covering (scene.problem.candidates.verticesAt vertex p.rotated.run.selection.order)
      (scene.problem.candidates.verticesAt vertex p.refined) := by
  have rotated := p.past_rotated small sound
  exact (searches.covering_of_completion simple (rotated.direction.trans small) rotated.sound
    p.completion).2

end

end Problem.Searches

namespace Universe.Numbers

variable {u : Universe α n} {start order : List (Fin n)}

theorem length_eq_or_lt (numbers : u.Numbers vertex g) (simple : g.Simple) (nodup : order.Nodup)
    (covering : g.Covering (u.verticesAt vertex start) (u.verticesAt vertex order)) :
    order.length = start.length ∨ order.length < g.order := by
  by_cases same : u.verticesAt vertex order = u.verticesAt vertex start
  · exact .inl (by simpa using congrArg List.length same)
  · have fewer := covering.length_lt simple (numbers.nodup nodup) (fun _ => numbers.lt_order) same
    exact .inr (by simpa using fewer)

theorem length_le_min (numbers : u.Numbers vertex g) (simple : g.Simple) (nodup : order.Nodup)
    (covering : g.Covering [] (u.verticesAt vertex order)) :
    order.length ≤ min (g.order - 1) g.edges.length := by
  have gained := covering.length_le
  have begun : g.Covering (u.verticesAt vertex []) (u.verticesAt vertex order) := covering
  have spared := numbers.length_eq_or_lt simple nodup begun
  have nonempty := u.nonempty
  rw [length_verticesAt] at gained
  rw [List.length_nil] at spared
  rw [numbers.size_eq] at nonempty
  omega

end Universe.Numbers

/-- Everyone who joined in the construction or in the completion of a full run has covered a new edge.  The
greedy cover has no more members than there are edges, and neither cover has all vertices. -/
structure Report.Frugal (report : Report (Fin n)) (u : Universe α n) (vertex : α → Nat) (g : Graph) :
    Prop where
  constructed : g.Covering [] (u.verticesAt vertex report.greedy)
  bounded : report.greedy.length ≤ min (g.order - 1) g.edges.length
  completed : ∃ record, report.phase? .completion = some record ∧
    g.Covering (u.verticesAt vertex (report.refined.take record.sizeBefore))
      (u.verticesAt vertex report.refined)
  spared : report.refined.length ≤ g.order - 1

/-- The record of the completion of a small run tells with how many members it began. -/
theorem Scene.Passage.phase?_completion {scene : Scene σ δ α n} {config : Config}
    {start : Stage σ n} (p : Scene.Passage scene config .minimize start)
    (small : start.run.direction = .minimize) (sound : start.run.selection.Sound)
    (empty : start.run.selection.size = 0) (fresh : start.run.history = []) :
    ∃ record, p.report.phase? .completion = some record ∧
      p.refined.take record.sizeBefore = p.rotated.run.selection.order := by
  have history : p.report.history = PhaseRecord.small n config.alpha p.greedy.length
      p.trimmed.run.selection.size p.refined.length :=
    (asks_isFeasible _ p.check).history.trans (p.history_of_minimize small sound empty fresh).2
  have rotated := p.past_rotated small sound
  obtain ⟨_, grows, completed⟩ := grows_of_completion_minimize (rotated.direction.trans small)
    rotated.sound p.completion
  have initial := (grows.grown asks_isRepaired asks_selectRemaining rotated.sound).order
  have refined : p.rotated.run.selection.order <+: p.refined := by
    rwa [Passage.refined, completed, selection_noted]
  refine ⟨_, by rw [Report.phase?, history]; rfl, ?_⟩
  rw [← p.size_rotated small sound]
  exact (List.prefix_iff_eq_take.1 refined).symm

namespace Problem.Searches

variable {scene : Scene σ δ α n} {config : Config} {start : Stage σ n} {solver : Solver σ δ n}
  {problem : Problem σ δ α n}

/-- The rounds keep what removal has left of the greedy cover, which spares a vertex. -/
theorem length_refined_le (searches : scene.problem.Searches scene.data g vertex) (simple : g.Simple)
    (p : Scene.Passage scene config .minimize start) (small : start.run.direction = .minimize)
    (sound : start.run.selection.Sound) (spared : p.greedy.length ≤ g.order - 1) :
    p.refined.length ≤ g.order - 1 := by
  have kept := p.length_trimmed small sound
  have fewer := survivors_le config.beta p.greedy.length
  have size : p.rotated.run.selection.order.length = p.trimmed.run.selection.size :=
    p.size_rotated small sound
  have nodup := (p.past_completed small sound).sound.nodup
  have covering := searches.covering_refined simple p small sound
  have refined := searches.numbers.length_eq_or_lt simple nodup covering
  have rotated : p.refined.length = p.rotated.run.selection.order.length ∨ p.refined.length < g.order :=
    refined
  omega

theorem onScene (searches : problem.Searches solver.data g vertex) :
    (solver.scene problem .itself).problem.Searches (solver.scene problem .itself).data g vertex :=
  searches

theorem construct_covers (searches : problem.Searches solver.data g vertex) (simple : g.Simple) :
    ∃ greedy, (solver.construct problem .minimize).answer = .ok greedy ∧
      g.Covering [] (problem.candidates.verticesAt vertex greedy) ∧
      greedy.length ≤ min (g.order - 1) g.edges.length := by
  have searches := searches.onScene
  obtain ⟨greedy, answered⟩ := Solver.construct_of_reliable searches.reliable .minimize
  obtain ⟨_, ran⟩ := Solver.completes_of_onNewRun answered
  obtain ⟨t, constructed, _⟩ := Scene.completes_greedyRun.1 ran
  obtain ⟨construction, rfl⟩ := Scene.completes_greedy_minimize.1 constructed
  have sound : (solver.start .minimize solver.config).run.selection.Sound :=
    Solver.sound_start solver.config
  have covering := searches.covering_of_construction simple rfl sound construction
  have nodup := (Scene.past_of_construction sound construction).sound.nodup
  exact ⟨_, answered, covering, searches.numbers.length_le_min simple nodup covering⟩

theorem optimize_covers (searches : problem.Searches solver.data g vertex) (simple : g.Simple)
    {alpha beta : Value} (alphaFits : Settings.AlphaFits alpha) (betaFits : Settings.BetaFits beta) :
    ∃ best report,
      (solver.optimize problem .minimize alpha beta).answer = .ok best ∧
      (solver.optimize problem .minimize alpha beta).after.Recalls report ∧
      report.Frugal problem.candidates vertex g := by
  have searches := searches.onScene
  obtain ⟨config, p, outcome⟩ :=
    Solver.passage_of_reliable searches.reliable .minimize alphaFits betaFits
  have sound : (solver.start .minimize config).run.selection.Sound := Solver.sound_start config
  have covering := searches.covering_greedy simple p rfl sound
  have bounded := searches.numbers.length_le_min simple (p.nodup_greedy rfl sound) covering
  obtain ⟨record, recorded, begun⟩ := p.phase?_completion rfl sound rfl rfl
  have refined := searches.covering_refined simple p rfl sound
  rw [← begun] at refined
  rw [outcome]
  exact ⟨_, p.report, rfl, Solver.recalls_of_passage p, covering, bounded, ⟨record, recorded, refined⟩,
    searches.length_refined_le simple p rfl sound (by omega)⟩

end Problem.Searches

/-! ## Main result -/

def Graph.triangle : Graph := ⟨3, [(0, 1), (1, 2), (2, 0)]⟩

def Problem.triangle : Problem Unit Graph Nat 3 where
  candidates := .ofVector (Vector.range 3)
  feasible := VertexCover.feasible
  score := VertexCover.score
  label := toString

/-- The score of a vertex is what it takes away from the uncovered edges.  So everyone who joins in a
construction or in a completion covers a new edge, and as long as an edge is uncovered there is somebody to
choose.  Neither phase is ever at fault.  A greedy cover has no more members than there are edges, and
neither it nor the refined one has all vertices. -/
theorem Problem.Searches.wastes_no_vertex {problem : Problem σ δ α n} {data : δ} (simple : g.Simple)
    (searches : problem.Searches data g vertex) :
    (∀ (view : View Graph) (chosen : List Nat) (v : Nat) (caller : σ), v ∉ chosen → ∃ gain : Nat,
      (VertexCover.score view chosen v).perform caller = (.ok (.int gain), caller) ∧
        view.data.uncovered (chosen ++ [v]) + gain = view.data.uncovered chosen) ∧
    (∀ (scene : Scene σ δ α n) (s : Stage σ n), scene.problem = problem → scene.data = data →
      s.run.direction = .minimize → s.run.selection.Sound →
        (∃ t, scene.construction.Completes s () t ∧
          g.Covering (problem.candidates.verticesAt vertex s.run.selection.order)
            (problem.candidates.verticesAt vertex t.run.selection.order)) ∧
        (∃ t, scene.completion.Completes s true t ∧
          g.Covering (problem.candidates.verticesAt vertex s.run.selection.order)
            (problem.candidates.verticesAt vertex t.run.selection.order)) ∧
        ∀ m t, (scene.isFeasible s.run.selection.order).Completes s false m →
          ¬ scene.selectRemaining.Completes m none t) ∧
    ∀ solver : Solver σ δ n, solver.data = data →
      (∃ greedy, (solver.construct problem .minimize).answer = .ok greedy ∧
        g.Covering [] (problem.candidates.verticesAt vertex greedy) ∧
        greedy.length ≤ min (g.order - 1) g.edges.length) ∧
      ∀ alpha beta, Settings.AlphaFits alpha → Settings.BetaFits beta → ∃ best report,
        (solver.optimize problem .minimize alpha beta).answer = .ok best ∧
        (solver.optimize problem .minimize alpha beta).after.Recalls report ∧
        report.Frugal problem.candidates vertex g := by
  refine ⟨fun view chosen v caller absent => ?_, ?_, ?_⟩
  · exact ⟨_, rfl, view.data.uncovered_append absent⟩
  · rintro scene s rfl rfl small sound
    refine ⟨?_, ?_, fun m t tested => searches.not_exhausted simple sound tested⟩
    · obtain ⟨_, t, completed⟩ := Act.exists_completes fun _ _ =>
        searches.reliable.not_fails_construction sound
      exact ⟨t, completed, searches.covering_of_construction simple small sound completed⟩
    · obtain ⟨flag, t, completed⟩ := Act.exists_completes fun _ _ =>
        searches.reliable.not_fails_completion sound
      obtain ⟨rfl, covering⟩ := searches.covering_of_completion simple small sound completed
      exact ⟨t, completed, covering⟩
  · rintro solver rfl
    exact ⟨searches.construct_covers simple, fun _ _ => searches.optimize_covers simple⟩

/-- The first vertex covers two edges of the triangle, the second one covers the third edge, and nobody else
has to join. -/
theorem Problem.Searches.wastes_no_vertex_of_triangle :
    let solver : Solver Unit Graph 3 := .fresh default .triangle ()
    let scene := solver.scene .triangle .itself
    let start := solver.start .minimize solver.config
    let outcome := solver.optimize .triangle .minimize .absent .absent
    (∃ gain : Nat, (VertexCover.score (scene.view start) [0] 1).perform () = (.ok (.int gain), ()) ∧
      Graph.triangle.uncovered [0, 1] + gain = Graph.triangle.uncovered [0]) ∧
    (∃ t, scene.completion.Completes start true t) ∧
    (solver.construct .triangle .minimize).answer = .ok [0, 1] ∧
      min (Graph.triangle.order - 1) Graph.triangle.edges.length = 2 ∧
      ∃ report, outcome.after.Recalls report ∧ report.greedy.length ≤ 2 ∧ report.refined.length ≤ 2 := by
  intro solver scene start outcome
  have simple : Graph.triangle.Simple := ⟨by decide, by decide, by decide⟩
  have searches : Problem.triangle.Searches Graph.triangle Graph.triangle id :=
    VertexCover.searches_id (by unfold Universe.Numbers; decide +kernel) rfl rfl
  have found : (solver.construct .triangle .minimize).answer = .ok [0, 1] :=
    eq_ok_of_toOption (by decide +kernel)
  obtain ⟨scores, phases, runs⟩ := Problem.Searches.wastes_no_vertex simple searches
  have sound : start.run.selection.Sound := Solver.sound_start solver.config
  obtain ⟨_, ⟨t, completed, _⟩, _⟩ := phases scene start rfl rfl rfl sound
  obtain ⟨_, report, _, recalls, frugal⟩ :=
    (runs solver rfl).2 .absent .absent (.inl rfl) (.inl rfl)
  exact ⟨scores (scene.view start) [0] 1 () (by decide), ⟨t, completed⟩, found, rfl, report, recalls,
    frugal.bounded, frugal.spared⟩

end Carousel
