import Carousel.VertexCover
import Carousel.Proofs.Cover
import Carousel.Proofs.Resolution
import Carousel.Proofs.Setup

/-!
# Covers are always found

All vertices of a graph cover it, so a full run towards a small cover always ends with one.  The setup of
the search fails for no graph that has a vertex, and neither does the command that reports what was found.
-/

namespace Carousel

variable {σ δ α : Type} {n : Nat} {g : Graph} {vertex : α → Nat}

/-! ## Full runs -/

/-- A full run has returned a cover of different vertices that is no larger than its greedy cover.  It
reports the cover as feasible and warns of nothing. -/
structure Solver.FindsCover (outcome : Outcome (Solver σ δ n) (List (Fin n))) (u : Universe α n)
    (vertex : α → Nat) (g : Graph) (best : List (Fin n)) (report : Report (Fin n)) : Prop where
  answer : outcome.answer = .ok best
  recalls : outcome.after.Recalls report
  returned : report.best = best
  nodup : (u.verticesAt vertex best).Nodup
  inside : ∀ v ∈ u.verticesAt vertex best, v < g.order
  covered : g.isCover (u.verticesAt vertex best) = true
  length_le : best.length ≤ report.greedy.length
  status : report.status = .feasible
  silent : outcome.notices.filter Notice.isWarning = []

namespace Problem.Searches

variable {scene : Scene σ δ α n} {config : Config} {start : Stage σ n} {solver : Solver σ δ n}
  {problem : Problem σ δ α n}

/-- Both solutions are covers, and one of them is returned. -/
theorem covered_best (searches : scene.problem.Searches scene.data g vertex) (simple : g.Simple)
    (p : Scene.Passage scene config .minimize start) (small : start.run.direction = .minimize)
    (sound : start.run.selection.Sound) :
    p.best.Nodup ∧ g.isCover (scene.problem.candidates.verticesAt vertex p.best) = true := by
  by_cases smaller : p.refined.length ≤ p.greedy.length
  · rw [p.best_of_le smaller]
    exact ⟨(p.past_completed small sound).sound.nodup,
      (searches.covering_refined simple p small sound).covered⟩
  · rw [p.best_of_lt (by omega)]
    exact ⟨p.nodup_greedy small sound, (searches.covering_greedy simple p small sound).covered⟩

theorem verdict_of_passage (searches : scene.problem.Searches scene.data g vertex) (simple : g.Simple)
    (p : Scene.Passage scene config .minimize start) (small : start.run.direction = .minimize)
    (sound : start.run.selection.Sound) : p.verdict = true :=
  (searches.verdict_eq p.check).trans (searches.covered_best simple p small sound).2

theorem finds_cover (searches : problem.Searches solver.data g vertex) (simple : g.Simple)
    {alpha beta : Value} (alphaFits : Settings.AlphaFits alpha) (betaFits : Settings.BetaFits beta) :
    ∃ best report, Solver.FindsCover (solver.optimize problem .minimize alpha beta)
      problem.candidates vertex g best report := by
  have searches := searches.onScene
  obtain ⟨config, p, outcome⟩ :=
    Solver.passage_of_reliable searches.reliable .minimize alphaFits betaFits
  have sound : (solver.start .minimize config).run.selection.Sound := Solver.sound_start config
  obtain ⟨nodup, covered⟩ := searches.covered_best simple p rfl sound
  have verdict := searches.verdict_of_passage simple p rfl sound
  have shorter := p.length_best
  rw [outcome]
  refine ⟨p.best, p.report, rfl, Solver.recalls_of_passage p, rfl, searches.numbers.nodup nodup,
    fun _ => searches.numbers.lt_order, covered, ?_, p.status_eq_feasible_iff.2 verdict, ?_⟩
  · show p.best.length ≤ p.greedy.length
    omega
  · show p.last.warnings = []
    rw [p.warnings_last rfl sound, Scene.Passage.warning, verdict]
    rfl

end Problem.Searches

/-! ## The setup -/

namespace VertexCover

theorem length_rangeMembers (order : Nat) : (Value.rangeMembers 0 order 1).length = order := by
  simp [Value.rangeMembers, Value.rangeLength]

theorem numbers_positions {u : Universe Value n} (size : n = g.order) :
    (u.relabel fun position _ => (position : Nat)).Numbers id g := by
  have positions : (u.relabel fun position _ => (position : Nat)).toList = List.range g.order := by
    refine List.ext_getElem (by simp [Universe.toList, size]) fun place _ _ => ?_
    simp [Universe.toList, Universe.relabel]
  rw [Universe.Numbers, positions, List.map_id]

theorem ofValue_vertices {order : Nat} (vertices : 0 < order) :
    ∃ (size : Nat) (found : Universe Value size), size = order ∧
      Universe.ofValue (.list (Value.rangeMembers 0 order 1)) = .ok ⟨size, found⟩ := by
  have distinct : Universe.requireNoRepeat (Value.rangeMembers 0 order 1) = .ok () :=
    Universe.requireNoRepeat_rangeMembers Int.one_ne_zero
  have nonempty : 0 < (Value.rangeMembers 0 order 1).length := by
    rwa [length_rangeMembers]
  refine ⟨_, ⟨⟨_, List.size_toArray⟩, nonempty⟩, length_rangeMembers order, ?_⟩
  have formed : Universe.ofList (Value.rangeMembers 0 order 1) =
      .ok ⟨⟨_, List.size_toArray⟩, nonempty⟩ := by
    rw [Universe.ofList, distinct, Universe.ofDistinct]
    exact dif_pos nonempty
  exact bind_eq_ok.2 ⟨_, rfl, bind_eq_ok.2 ⟨_, formed, rfl⟩⟩

/-- A graph with a vertex can be set up with all settings that are valid. -/
theorem prepare_setup {fields : Fields} {defaults : Settings} {config : Config} (vertices : 0 < g.order)
    (known : fields.Known) (resolved : defaults.resolve fields = .ok config) :
    ∃ prepared, (setup g fields).prepare defaults = .ok prepared ∧
      prepared.solver = .fresh config g () ∧ prepared.problem.Searches g g id := by
  have single : Settings.requireSingle .setup fields = .ok () := by
    refine Settings.requireSingle_eq_ok.2 fun field member => ?_
    have named := known field member
    revert named
    generalize field.1 = name
    revert name
    decide
  obtain ⟨_, found, size, formed⟩ := ofValue_vertices vertices
  refine ⟨_, Setup.prepare_eq_ok.2 ⟨single, ⟨_, Settings.assign_of_known known .setup Settings.builtin⟩,
    feasible, score, config, _, found, rfl, rfl, resolved, formed, rfl⟩, rfl, ?_⟩
  exact searches_id (numbers_positions (u := found) size) rfl rfl

end VertexCover

/-! ## The command -/

theorem lines_of_history (history : List PhaseRecord) :
    ∃ lines, (history.map PhaseRecord.row).mapM Row.line = .ok lines := by
  induction history with
  | nil => exact ⟨[], rfl⟩
  | cons record rest ih =>
    obtain ⟨lines, written⟩ := ih
    rw [List.map_cons, List.mapM_cons, written]
    exact ⟨_, rfl⟩

/-- The sheet of a report has a value that suits each place. -/
theorem Report.summary_sheet {ε : Type} (r : Report ε) (value : ε → Value) :
    ∃ text, (r.sheet value).summary = .ok text := by
  obtain ⟨lines, written⟩ := lines_of_history r.history
  exact ⟨_, bind_eq_ok.2 ⟨_, r.sizes_sheet value, bind_eq_ok.2 ⟨_, rfl,
    bind_eq_ok.2 ⟨lines, written, rfl⟩⟩⟩⟩

namespace CommandLine

variable {r : Request}

/-- The settings that a request gives are in order. -/
structure Request.Valid (r : Request) : Prop where
  alpha : 0 < r.alpha
  least : (Number.int 0).le (.real r.beta) = true
  most : (Number.real r.beta).le (.int 1) = true
  seed : 0 ≤ r.seed

theorem Request.Valid.resolve_fields (valid : r.Valid) :
    ∃ config, Settings.builtin.resolve r.fields = .ok config := by
  have resolved : Settings.builtin.resolve r.fields = Settings.validate
      { alpha := .int r.alpha, beta := .real r.beta, seed := .int r.seed, randomTieBreak := .bool true
        verbose := .bool r.verbose } := rfl
  simp [resolved, Settings.validate, Settings.checkAlpha, Settings.checkBeta, Settings.checkSeed,
    Settings.checkTieBreak, Share.ofNumber?, valid.alpha, valid.least, valid.most, valid.seed, bind,
    Except.bind, pure, Except.pure]

theorem Request.known_fields (r : Request) : r.fields.Known := by
  simp [Fields.Known, Request.fields, Settings.parameters]

/-- The output tells of a search that was set up for the graph as the request asks and that has found a cover:
of the sizes of its three solutions, and that the returned one is a cover.  Between the opening and these
findings stand the notices of the search, and after them its report, if it was asked for. -/
structure Tells (g : Graph) (r : Request) (prepared : Prepared Unit Graph Nat)
    (best : List (Fin prepared.size)) (report : Report (Fin prepared.size)) (output : String) : Prop where
  setup : (VertexCover.setup g r.fields).prepare Settings.builtin = .ok prepared
  found : Solver.FindsCover (prepared.solver.optimize prepared.problem .minimize .absent .absent)
    prepared.problem.candidates id g best report
  written : ∃ closing,
    (match r.verbose with
      | true => ∃ summary, (report.sheet fun position => .int position.val).summary = .ok summary ∧
          closing = ["", summary]
      | false => closing = []) ∧
    output = String.join ((opening g ++
      ((prepared.solver.optimize prepared.problem .minimize .absent .absent).notices.filter
        (!·.isWarning)).map Notice.text ++
      findings report.greedy.length report.refined.length best.length true ++ closing).map (· ++ "\n"))

def Succeeds (g : Graph) (r : Request) (ended : Except Fault Printed) : Prop :=
  ∃ prepared best report output, ended = .ok { code := 0, output } ∧
    Tells g r prepared best report output

theorem runOn_succeeds (simple : g.Simple) (vertices : 0 < g.order) (valid : r.Valid) :
    Succeeds g r (runOn g r) := by
  obtain ⟨config, resolved⟩ := valid.resolve_fields
  obtain ⟨prepared, built, fresh, searches⟩ :=
    VertexCover.prepare_setup vertices r.known_fields resolved
  have searches : prepared.problem.Searches prepared.solver.data g id := by
    rwa [fresh]
  obtain ⟨best, report, found⟩ :=
    searches.finds_cover simple (.inl rfl) (.inl rfl)
  have covered := found.covered
  rw [Universe.verticesAt, List.map_id] at covered
  obtain ⟨summary, written⟩ := report.summary_sheet fun position => .int position.val
  refine ⟨prepared, best, report, ?_⟩
  unfold runOn
  simp only [built, found.answer, found.recalls.greedy, found.recalls.refined, found.recalls.report,
    covered, bind, Except.bind]
  cases asked : r.verbose with
  | false => exact ⟨_, rfl, built, found, [], by simp [asked], rfl⟩
  | true =>
    simp only [written]
    exact ⟨_, rfl, built, found, ["", summary], by simp [asked, written], rfl⟩

theorem run_succeeds (valid : r.Valid) (vertices : 0 < r.nodes) :
    Succeeds (Graph.random r.nodes.toNat r.chance r.seed) r (run r) := by
  have drawn : (Graph.random r.nodes.toNat r.chance r.seed).order = r.nodes.toNat := rfl
  rw [run, if_neg (by omega)]
  exact runOn_succeeds (Graph.simple_random ..) (by omega) valid

end CommandLine

/-! ## Main result -/

def Problem.letters : Problem Unit Graph Char 3 where
  candidates := .ofVector #v['b', 'c', 'a']
  feasible view selected := VertexCover.feasible view (selected.map fun letter => letter.toNat - 97)
  score view selected letter := VertexCover.score view
    (selected.map fun letter => letter.toNat - 97) (letter.toNat - 97)
  label := toString

def Graph.path : Graph := ⟨3, [(0, 1), (2, 1)]⟩

namespace VertexCover

/-- Every full run towards a small cover of a simple graph finds one, whatever the vertices go by, in
whichever order they are tried, and in whatever state the solver is.  A graph with a vertex can be set up
with all valid settings, and the run that follows finds a cover.  So for every such graph, and in particular for the
random ones that it draws, the command succeeds and tells of the cover that it has found. -/
theorem search_always_succeeds :
    (∀ {σ δ α : Type} {n : Nat} (problem : Problem σ δ α n) (solver : Solver σ δ n) (g : Graph)
      (vertex : α → Nat), g.Simple → problem.Searches solver.data g vertex →
        ∀ alpha beta, Settings.AlphaFits alpha → Settings.BetaFits beta → ∃ best report,
          Solver.FindsCover (solver.optimize problem .minimize alpha beta) problem.candidates vertex g
            best report) ∧
    (∀ (g : Graph) (fields : Fields) (defaults : Settings) (config : Config), g.Simple → 0 < g.order →
      fields.Known → defaults.resolve fields = .ok config → ∃ prepared,
        (setup g fields).prepare defaults = .ok prepared ∧ prepared.solver = .fresh config g () ∧
        ∀ alpha beta, Settings.AlphaFits alpha → Settings.BetaFits beta → ∃ best report,
          Solver.FindsCover (prepared.solver.optimize prepared.problem .minimize alpha beta)
            prepared.problem.candidates id g best report) ∧
    (∀ (g : Graph) (r : CommandLine.Request), g.Simple → 0 < g.order → r.Valid →
      CommandLine.Succeeds g r (CommandLine.runOn g r)) ∧
    ∀ r : CommandLine.Request, r.Valid → 0 < r.nodes →
      CommandLine.Succeeds (Graph.random r.nodes.toNat r.chance r.seed) r (CommandLine.run r) := by
  refine ⟨?_, ?_, ?_, ?_⟩
  · intro _ _ _ _ problem solver g vertex simple searches _ _ alphaFits betaFits
    exact searches.finds_cover simple alphaFits betaFits
  · intro g fields defaults config simple vertices known resolved
    obtain ⟨prepared, built, fresh, searches⟩ := prepare_setup vertices known resolved
    have searches : prepared.problem.Searches prepared.solver.data g id := by
      rwa [fresh]
    exact ⟨prepared, built, fresh, fun _ _ => searches.finds_cover simple⟩
  · intro g r simple vertices valid
    exact CommandLine.runOn_succeeds simple vertices valid
  · intro r valid vertices
    exact CommandLine.run_succeeds valid vertices

/-- The second vertex covers the path by itself.  The setup for the path is in order with the settings that
the command has by default, and the command succeeds for the path and for the graph that it draws. -/
theorem search_always_succeeds_of_path :
    let solver : Solver Unit Graph 3 := .fresh default .path ()
    let outcome := solver.optimize .letters .minimize .absent .absent
    let request : CommandLine.Request := {}
    outcome.answer = .ok [0] ∧ Problem.letters.candidates.elementsAt [0] = ['b'] ∧
      (∃ report, outcome.after.Recalls report ∧ report.status = .feasible) ∧
      (∃ prepared report, (setup .path request.fields).prepare Settings.builtin = .ok prepared ∧
        (prepared.solver.optimize prepared.problem .minimize (.int 3) .absent).after.Recalls report ∧
        report.status = .feasible) ∧
      CommandLine.Succeeds .path request (CommandLine.runOn .path request) ∧
      CommandLine.Succeeds (.random 50 request.chance 42) request (CommandLine.run request) := by
  intro solver outcome request
  have simple : Graph.path.Simple := ⟨by decide, by decide, by decide⟩
  have found : outcome.answer = .ok [0] := eq_ok_of_toOption (by decide +kernel)
  have valid : request.Valid := ⟨by decide, by decide +kernel, by decide +kernel, by decide⟩
  have searches : Problem.letters.Searches Graph.path Graph.path fun letter => letter.toNat - 97 :=
    searches (by unfold Universe.Numbers; decide +kernel) (fun _ _ => rfl) fun _ _ _ => rfl
  obtain ⟨config, resolved⟩ := valid.resolve_fields
  obtain ⟨runs, setups, commands, command⟩ := search_always_succeeds
  obtain ⟨_, report, cover⟩ :=
    runs Problem.letters solver Graph.path _ simple searches .absent .absent (.inl rfl) (.inl rfl)
  obtain ⟨prepared, built, _, prepares⟩ := setups Graph.path request.fields Settings.builtin config simple
    (by decide) request.known_fields resolved
  obtain ⟨_, again, second⟩ := prepares (.int 3) .absent (.inr ⟨3, by decide, rfl⟩) (.inl rfl)
  exact ⟨found, rfl, ⟨report, cover.recalls, cover.status⟩,
    ⟨prepared, again, built, second.recalls, second.status⟩,
    commands Graph.path request simple (by decide) valid, command request valid (by decide)⟩

end VertexCover

end Carousel
