import Carousel.Proofs.Run.Mirror
import Carousel.Proofs.Settings
import Carousel.Proofs.Solver

/-!
# Seeds matter through ties alone

If ties are not drawn, or if none of the choices of a run shows one, the run leaves the generator alone
and is the same for every seed, every policy for ties and every generator.
-/

namespace Carousel

open Act (Coupling)

variable {σ δ α β : Type} {n : Nat}

def Call.IsRun : Call δ → Prop
  | .construct .. | .optimize .. => True
  | _ => False

/-- No choice that was heard shows a tie. -/
def Untied (u : Universe α n) (heard : List (Exchange α)) : Prop :=
  ∀ scores, Shows u heard scores → ¬ Contested scores

/-! ## Scores that never tie -/

theorem mapM_integer?_of_sweep {u : Universe α n} {rank : α → Int} {order eligible : List (Fin n)}
    {scores : List Score} (each : scores.length = eligible.length)
    (ranked : ∀ selected candidate score,
      .scored selected candidate (.ok score) ∈ sweep u order eligible scores →
        Column.integer? score = some (rank candidate)) :
    scores.mapM Column.integer? = some (eligible.map fun position => rank (u.element position)) := by
  induction eligible generalizing scores with
  | nil =>
    cases List.eq_nil_of_length_eq_zero each
    rfl
  | cons position eligible ih =>
    cases scores with
    | nil => cases each
    | cons score scores =>
      have first := ranked _ _ score (.head _)
      have rest := ih (Nat.succ.inj each) fun _ _ _ member => ranked _ _ _ (.tail _ member)
      rw [List.mapM_cons, first, rest]
      rfl

/-- Scores that are integers of the candidates alone never tie if these integers differ. -/
theorem untied_of_integers {u : Universe α n} {rank : α → Int} {heard : List (Exchange α)}
    (distinct : Function.Injective fun position => rank (u.element position))
    (ranked : ∀ selected candidate score, .scored selected candidate (.ok score) ∈ heard →
      Column.integer? score = some (rank candidate)) : Untied u heard := by
  intro scores shown
  -- A sweep asks about nobody twice, and no two candidates have the same rank.
  have uncontested (order eligible : List (Fin n)) (nodup : eligible.Nodup)
      (each : scores.length = eligible.length) (part : sweep u order eligible scores ⊆ heard) :
      ¬ Contested scores := by
    apply not_contested_of_nodup _ (List.Nodup.map distinct nodup)
    exact mapM_integer?_of_sweep each fun _ _ _ member => ranked _ _ _ (part member)
  have single (order : List (Fin n)) : (unselected order).Nodup :=
    (pairwise_unselected order).imp fun below => Fin.ne_of_lt below
  cases shown with
  | @swept _ _ order each here => exact uncontested order _ (single _) each (by simp [here])
  | @fitted _ _ order _ _ each here =>
    apply uncontested order _ ((single order).sublist (Act.accepted_sublist _ _)) each
    rw [here, List.append_assoc, List.append_assoc]
    intro exchange member
    simp [member]

/-! ## Calls -/

theorem not_tied {u : Universe α n} {heard : List (Exchange α)} {was : Bool} {way : Tiebreak}
    (settled : (was = false ∧ way.random = false) ∨ Untied u heard) :
    ¬ Tied u (was || way.random) heard := by
  intro ⟨drawn, scores, shown, contested⟩
  cases settled with
  | inl off => simp [off] at drawn
  | inr untied => exact untied scores shown contested

theorem Config.override_retied (config : Config) (way : Tiebreak) (alpha beta : Value) :
    (config.retied way).override [("alpha", alpha), ("beta", beta)] =
      (config.override [("alpha", alpha), ("beta", beta)]).map (·.retied way) := by
  rw [override_share, override_share]
  show (Settings.checkGiven Settings.checkAlpha ⟨config.alpha, config.alpha_pos⟩ alpha >>= _) = _
  cases Settings.checkGiven Settings.checkAlpha ⟨config.alpha, config.alpha_pos⟩ alpha with
  | error fault => rfl
  | ok multiplier =>
    show (Settings.checkGiven Settings.checkBeta config.beta beta >>= _) = _
    cases Settings.checkGiven Settings.checkBeta config.beta beta with
    | error fault => rfl
    | ok share => rfl

namespace Solver

def retied (solver : Solver σ δ n) (way : Tiebreak) : Solver σ δ n :=
  { solver with config := solver.config.retied way, generator := way.generator }

variable {solver : Solver (Transcript σ α) δ n} {problem : Problem σ δ α n} {way : Tiebreak}
  {u : Universe α n}

/-- A new run is the same with another way of breaking ties, unless a tie is heard during it. -/
theorem onNewRun_retied {direction : Direction} {config : Config}
    {act act' : Act (Course (Transcript σ α) n) β}
    (mirrored : (Course.mirror u config.randomTieBreak way).Holds act act') :
    let outcome := solver.onNewRun (.fresh direction config.toSettings) act
    Tied u (config.randomTieBreak || way.random) outcome.after.caller.exchanges ∨
      (solver.retied way).onNewRun (.fresh direction (config.retied way).toSettings) act' =
        { outcome with after := outcome.after.retied way } := by
  let course : Course (Transcript σ α) n :=
    { stage := solver.start direction config, memory := solver.memory }
  have ended := (mirrored course ⟨sound_start config, rfl⟩).mirrored
  refine ended.imp id fun same => ?_
  exact congrArg (fun found : Except Fault β × Course (Transcript σ α) n =>
    { answer := found.1
      after := { (solver.retied way).absorb found.2.stage with memory := found.2.memory }
      notices := found.2.stage.notices : Outcome (Solver (Transcript σ α) δ n) β }) same

theorem coupled_scenes (solver : Solver (Transcript σ α) δ n) (unseeded : problem.Unseeded)
    (was : Bool) (way : Tiebreak) :
    Scene.CoupledThrough (Stage.mirror problem.candidates was way)
      (solver.scene problem.transcribed .itself)
      ((solver.retied way).scene problem.transcribed .itself) :=
  Scene.coupled_retied (Scene.transcribes_transcribed _ _ _ _) unseeded.transcribed

theorem construct_retied (unseeded : problem.Unseeded) (direction : Direction) :
    let outcome := solver.construct problem.transcribed direction
    Tied problem.candidates (solver.config.randomTieBreak || way.random)
        outcome.after.caller.exchanges ∨
      (solver.retied way).construct problem.transcribed direction =
        { outcome with after := outcome.after.retied way } :=
  onNewRun_retied (Course.lifts_mirror.greedyRun (solver.coupled_scenes unseeded _ way).toCoupled)

theorem optimizeWith_retied (unseeded : problem.Unseeded) (direction : Direction)
    (config : Config) :
    let outcome := solver.optimizeWith problem.transcribed direction config
    Tied problem.candidates (config.randomTieBreak || way.random)
        outcome.after.caller.exchanges ∨
      (solver.retied way).optimizeWith problem.transcribed direction (config.retied way) =
        { outcome with after := outcome.after.retied way } :=
  onNewRun_retied (Course.lifts_mirror.fullRun (solver.coupled_scenes unseeded _ way) rfl rfl)

end Solver

namespace Session

def retied (s : Session σ δ n) (way : Tiebreak) : Session σ δ n :=
  { s with solver := s.solver.retied way }

variable {problem : Problem σ δ α n} {way : Tiebreak}

theorem perform_transcribed_retied (unseeded : problem.Unseeded)
    (s : Session (Transcript σ α) δ n)
    {call : Call δ} (run : call.IsRun) :
    let outcome := s.perform problem.transcribed call
    Tied problem.candidates (s.solver.config.randomTieBreak || way.random)
        outcome.after.solver.caller.exchanges ∨
      (s.retied way).perform problem.transcribed call =
        { outcome with after := outcome.after.retied way } := by
  cases call with
  | construct direction =>
    refine (Solver.construct_retied unseeded direction).imp id fun same => ?_
    exact congrArg (fun outcome => (s.retied way).ofOutcome outcome Reply.positions none) same
  | optimize direction alpha beta =>
    have overridden : (s.retied way).solver.callConfig alpha beta = _ :=
      Config.override_retied s.solver.config way alpha beta
    cases found : s.solver.callConfig alpha beta with
    | error fault =>
      have found' : s.solver.config.override _ = .error fault := found
      rw [found'] at overridden
      simp only [perform, overridden, found]
      exact .inr rfl
    | ok config =>
      have found' : s.solver.config.override _ = .ok config := found
      -- An override leaves the policy alone, so that of the call is the one of the solver.
      have policy := (Config.kept_of_override (by simp) found').1
      rw [found'] at overridden
      simp only [perform, overridden, found]
      rw [← policy]
      refine (Solver.optimizeWith_retied unseeded direction config).imp id fun same => ?_
      exact congrArg (fun outcome => (s.retied way).ofOutcome outcome Reply.positions none) same
  | _ => exact run.elim

theorem perform_retied_of_settled (unseeded : problem.Unseeded) (s : Session σ δ n)
    {call : Call δ} (run : call.IsRun)
    (settled : (s.solver.config.randomTieBreak = false ∧ way.random = false) ∨
      Untied problem.candidates (s.transcript problem call)) :
    (s.retied way).perform problem call =
      { s.perform problem call with after := (s.perform problem call).after.retied way } := by
  have mirrored : (s.retied way).transcribed.perform problem.transcribed call = _ :=
    (s.transcribed.perform_transcribed_retied unseeded run).resolve_left (not_tied settled)
  obtain ⟨answer, after, notices⟩ := perform_transcribed problem s call
  obtain ⟨answer', after', notices'⟩ := perform_transcribed problem (s.retied way) call
  rw [mirrored] at answer' after' notices'
  -- The transcript is forgotten on both sides.
  refine Outcome.ext (answer'.symm.trans answer) (after'.symm.trans ?_) (notices'.symm.trans notices)
  exact congrArg (·.retied way) after

/-- If ties are not drawn before and after the change, or if no choice during the run shows one, the
generator is left alone, and with every other seed, policy and generator a run answers the same, gives
the same notices and leaves the same behind, up to these three. -/
theorem seed_matters_through_ties (unseeded : problem.Unseeded) (s : Session σ δ n)
    {call : Call δ} (run : call.IsRun) (way : Tiebreak)
    (settled : (s.solver.config.randomTieBreak = false ∧ way.random = false) ∨
      Untied problem.candidates (s.transcript problem call)) :
    let outcome := s.perform problem call
    outcome.after.solver.generator = s.solver.generator ∧
      (s.retied way).perform problem call = { outcome with after := outcome.after.retied way } := by
  refine ⟨?_, perform_retied_of_settled unseeded s run settled⟩
  -- The session is its own image under its own way of breaking ties.
  let own : Tiebreak :=
    ⟨s.solver.config.seed, s.solver.config.randomTieBreak, s.solver.generator⟩
  have itself : (s.retied own).perform problem call = _ :=
    perform_retied_of_settled unseeded s run (settled.imp (fun off => ⟨off.1, off.1⟩) id)
  exact congrArg (fun outcome => outcome.after.solver.generator) itself

end Session

def Problem.graded : Problem Unit Unit Nat 4 :=
  { ofTable 3 (fun selected => decide (2 ≤ selected.length)) [] with
    score := fun _ _ number => pure (.int number) }

def Exchange.isGraded : Exchange Nat → Bool
  | .scored _ number (.ok score) => Column.integer? score == some (number : Int)
  | _ => true

def Session.drawing : Session Unit Unit 4 :=
  { solver := .fresh { (default : Config) with randomTieBreak := true } () () }

/-- Where ties would be drawn but never occur, neither the seed nor the policy makes a difference. -/
theorem Session.seed_matters_through_ties_of_four_numbers :
    let call : Call Unit := .optimize .maximize (.int 2) .absent
    let way : Tiebreak := ⟨7, false, .ofSeed 7⟩
    (drawing.perform .graded call).after.solver.memory.greedy = some [3, 2, 1, 0] ∧
      (drawing.perform .graded call).after.solver.generator = drawing.solver.generator ∧
      (drawing.retied way).perform .graded call =
        { drawing.perform .graded call with
          after := (drawing.perform .graded call).after.retied way } := by
  intro call way
  have unseeded : Problem.graded.Unseeded := ⟨fun _ _ _ => rfl, fun _ _ _ _ => rfl⟩
  have graded : (drawing.transcript .graded call).all Exchange.isGraded = true := by decide +kernel
  have integers (selected : List Nat) (number : Nat) (score : Score)
      (member : .scored selected number (.ok score) ∈ drawing.transcript .graded call) :
      Column.integer? score = some (number : Int) := by
    have scored := List.all_eq_true.1 graded _ member
    simpa [Exchange.isGraded] using scored
  have distinct : Function.Injective fun position =>
      ((Problem.graded.candidates.element position : Nat) : Int) := by
    intro a b
    revert a b
    decide
  have untied : Untied Problem.graded.candidates (drawing.transcript .graded call) :=
    untied_of_integers distinct integers
  have greedy : (drawing.perform .graded call).after.solver.memory.greedy = some [3, 2, 1, 0] := by
    decide +kernel
  have run : call.IsRun := trivial
  exact ⟨greedy, seed_matters_through_ties unseeded drawing run way (.inr untied)⟩

end Carousel
