import Carousel.Proofs.Run.Coupling
import Carousel.Proofs.Run.Script
import Carousel.Proofs.Ties

/-!
# Runs with another way of breaking ties

What is heard during a run shows the scores of every choice.  As long as none of them shows a tie, or if
neither way of breaking ties draws, a run with another seed, policy and generator takes the same steps.
-/

namespace Carousel

open Act (Coupling MirrorsAt accepted)
open Draw (Generator)

variable {σ δ α β : Type} {n : Nat}

/-- What a run goes by where several candidates are best. -/
structure Tiebreak where
  seed : Nat
  random : Bool
  generator : Generator

def Config.retied (config : Config) (way : Tiebreak) : Config :=
  { config with seed := way.seed, randomTieBreak := way.random }

def Settings.retied (settings : Settings) (way : Tiebreak) : Settings :=
  { settings with seed := .int way.seed, randomTieBreak := .bool way.random }

/-- The callbacks do not go by the stored seed and policy for ties. -/
structure Problem.Unseeded (problem : Problem σ δ α n) : Prop where
  feasible : ∀ (view : View δ) way selected,
    problem.feasible { view with config := view.config.retied way } selected =
      problem.feasible view selected
  score : ∀ (view : View δ) way selected candidate,
    problem.score { view with config := view.config.retied way } selected candidate =
      problem.score view selected candidate

theorem Problem.Unseeded.transcribed {problem : Problem σ δ α n} (unseeded : problem.Unseeded) :
    problem.transcribed.Unseeded := by
  constructor
  · intro view way selected
    simp only [Problem.transcribed, unseeded.feasible]
  · intro view way selected candidate
    simp only [Problem.transcribed, unseeded.score]

/-- Somewhere in what was heard, candidates are scored for a choice: all that are not selected, or those
of them whose trial just before was accepted.  Where no two candidates are the same element, nothing else
in a run looks like this. -/
inductive Shows (u : Universe α n) (heard : List (Exchange α)) (scores : List Score) : Prop where
  | swept {before after order} (each : scores.length = (unselected order).length)
      (here : heard = before ++ sweep u order (unselected order) scores ++ after)
  | fitted {before after order verdicts} (tried : verdicts.length = (unselected order).length)
      (each : scores.length = (accepted (unselected order) verdicts).length)
      (here : heard = before ++ trial u order (unselected order) verdicts ++
        sweep u order (accepted (unselected order) verdicts) scores ++ after)

theorem Shows.append {u : Universe α n} {heard : List (Exchange α)} {scores : List Score}
    (shows' : Shows u heard scores) (later : List (Exchange α)) :
    Shows u (heard ++ later) scores := by
  cases shows' with
  | swept each here => exact .swept each (by rw [here, List.append_assoc])
  | fitted tried each here => exact .fitted tried each (by rw [here, List.append_assoc])

/-- A tie was heard, and it may have been drawn. -/
structure Tied (u : Universe α n) (drawn : Bool) (heard : List (Exchange α)) : Prop where
  drawn : drawn = true
  shown : ∃ scores, Shows u heard scores ∧ Contested scores

theorem Tied.append {u : Universe α n} {drawn : Bool} {heard : List (Exchange α)}
    (tied : Tied u drawn heard) (later : List (Exchange α)) : Tied u drawn (heard ++ later) := by
  obtain ⟨drawn, scores, shown, contested⟩ := tied
  exact ⟨drawn, scores, shown.append later, contested⟩

namespace Stage

def retied (s : Stage σ n) (way : Tiebreak) : Stage σ n :=
  { s with
    run := { s.run with config := s.run.config.retied way }
    generator := way.generator }

structure Bound (random : Bool) (s : Stage σ n) : Prop where
  sound : s.run.selection.Sound
  policy : s.run.config.drawsTies = random

/-- Up to a tie, the right action does with another way of breaking ties what the left one does. -/
def mirror (u : Universe α n) (was : Bool) (way : Tiebreak) :
    Coupling (Stage (Transcript σ α) n) (Stage (Transcript σ α) n) :=
  Act.mirror (Bound was) (fun s => Tied u (was || way.random) s.caller.exchanges) (retied · way)

variable {u : Universe α n} {was : Bool} {way : Tiebreak}

theorem mirror_modify {change : Stage (Transcript σ α) n → Stage (Transcript σ α) n}
    (bound : ∀ s, Bound was s → Bound was (change s))
    (silent : ∀ s, (change s).caller = s.caller)
    (commutes : ∀ s, change (s.retied way) = (change s).retied way) :
    (mirror u was way).Holds (modify change) (modify change) := by
  intro s kept
  refine ⟨bound s kept, ?_, .inr ?_⟩
  · intro tied
    have same : (change s).caller = s.caller := silent s
    exact same ▸ tied
  · exact congrArg (Prod.mk _) (commutes s)

end Stage

open Stage (Bound mirror mirror_modify)

namespace Scene

def retied (scene : Scene σ δ α n) (way : Tiebreak) : Scene σ δ α n :=
  { scene with config := scene.config.retied way }

variable {scene : Scene (Transcript σ α) δ α n} {s t : Stage (Transcript σ α) n} {was : Bool}
  {way : Tiebreak}

/-! ## What questions leave on the transcript -/

theorem exchanges_of_rates (transcribes : scene.Transcribes) {order eligible : List (Fin n)}
    {scores : List Score}
    (swept : Act.Sweeps (scene.rate (scene.problem.candidates.elementsAt order)) eligible s scores
      t) :
    t.caller.exchanges =
      s.caller.exchanges ++ sweep scene.problem.candidates order eligible scores := by
  induction swept with
  | nil => exact (List.append_nil _).symm
  | cons first _ ih =>
    obtain ⟨caller, answered, rfl⟩ := completes_rate.1 first
    obtain ⟨_, _, told⟩ := transcribes.score _ _ _ _
    rw [told] at answered
    cases answered
    rw [ih, List.append_assoc]
    rfl

theorem exchanges_of_trials (transcribes : scene.Transcribes) {order tried : List (Fin n)}
    {verdicts : List Bool}
    (swept : Act.Sweeps (fun position => scene.isFeasible (order ++ [position])) tried s verdicts
      t) :
    t.caller.exchanges =
      s.caller.exchanges ++ trial scene.problem.candidates order tried verdicts := by
  induction swept with
  | nil => exact (List.append_nil _).symm
  | cons first _ ih =>
    obtain ⟨caller, answered, rfl⟩ := completes_isFeasible.1 first
    obtain ⟨_, _, told⟩ := transcribes.feasible _ _ _
    rw [told] at answered
    cases answered
    rw [ih, List.append_assoc]
    rfl

/-! ## Questions -/

variable {u : Universe α n}

theorem mirror_call {callback : View δ → Callback (Transcript σ α) β}
    (told : ∀ view transcript, ∃ later, ((callback view).perform transcript).2.exchanges =
      transcript.exchanges ++ later)
    (unseeded : ∀ view : View δ,
      callback { view with config := view.config.retied way } = callback view) :
    (mirror u was way).Holds (scene.call callback) ((scene.retied way).call callback) := by
  intro s kept
  obtain ⟨later, heard⟩ := told (scene.view s) s.caller
  refine ⟨⟨kept.sound, kept.policy⟩, fun tied => heard ▸ tied.append later, .inr ?_⟩
  have same : callback ((scene.retied way).view (s.retied way)) = callback (scene.view s) :=
    unseeded (scene.view s)
  exact congrArg (fun act : Callback (Transcript σ α) β =>
    let found := act.perform s.caller
    (found.1.mapError Fault.raised, { s.retied way with caller := found.2 })) same

theorem mirror_isFeasible (transcribes : scene.Transcribes) (unseeded : scene.problem.Unseeded)
    (positions : List (Fin n)) :
    (mirror u was way).Holds (scene.isFeasible positions)
      ((scene.retied way).isFeasible positions) := by
  refine (mirror u was way).bind ?_ fun _ => ?_
  · exact mirror_modify (fun s kept => ⟨kept.sound, kept.policy⟩) (fun _ => rfl) fun _ => rfl
  · refine mirror_call (fun view transcript => ?_) fun view => unseeded.feasible view way _
    obtain ⟨_, _, told⟩ := transcribes.feasible view _ transcript
    exact ⟨_, by rw [told]⟩

theorem mirror_rate (transcribes : scene.Transcribes) (unseeded : scene.problem.Unseeded)
    (selected : List α) (position : Fin n) :
    (mirror u was way).Holds (scene.rate selected position)
      ((scene.retied way).rate selected position) := by
  refine (mirror u was way).bind ?_ fun _ => ?_
  · exact mirror_modify (fun s kept => ⟨kept.sound, kept.policy⟩) (fun _ => rfl) fun _ => rfl
  · refine mirror_call (fun view transcript => ?_) fun view => unseeded.score view way _ _
    obtain ⟨_, _, told⟩ := transcribes.score view _ _ transcript
    exact ⟨_, by rw [told]⟩

/-! ## Choices -/

def choose (eligible : List (Fin n)) (scores : List Score) :
    Act (Stage σ n) (Option (Fin n)) := do
  let stage ← get
  let (choice, generator) ←
    (chooseBest stage.run.config.drawsTies eligible scores stage.generator : Except Fault _)
  set { stage with generator }
  return choice

theorem perform_choose (eligible : List (Fin n)) (scores : List Score) (s : Stage σ n) :
    (choose eligible scores).perform s =
      match chooseBest s.run.config.drawsTies eligible scores s.generator with
      | .ok (choice, generator) => (.ok choice, { s with generator })
      | .error fault => (.error fault, s) := by
  unfold choose
  rw [Act.perform_bind, Act.perform_get]
  show Act.perform (_ >>= _) s = _
  rw [Act.perform_bind]
  cases chooseBest s.run.config.drawsTies eligible scores s.generator with
  | error fault => rfl
  | ok found => rfl

/-- A choice that shows a tie is a mishap, and any other one does not go by the way of breaking ties. -/
theorem mirrorsAt_choose {eligible : List (Fin n)} {scores : List Score} (kept : Bound was s)
    (shown : Shows u s.caller.exchanges scores) :
    MirrorsAt (Bound was) (fun s => Tied u (was || way.random) s.caller.exchanges)
      (Stage.retied · way) s
      (choose eligible scores) (choose eligible scores) := by
  -- A choice moves nothing but the generator, on a fault as well.
  have ended : ∃ answer generator,
      (choose eligible scores).perform s = (answer, { s with generator }) := by
    rw [perform_choose]
    cases chooseBest s.run.config.drawsTies eligible scores s.generator with
    | error fault => exact ⟨_, s.generator, rfl⟩
    | ok found => exact ⟨_, _, rfl⟩
  obtain ⟨answer, generator, done⟩ := ended
  refine ⟨?_, ?_, ?_⟩
  · rw [done]
    exact ⟨kept.sound, kept.policy⟩
  · rw [done]
    exact id
  -- Unless the scores are contested and one of the two draws, neither generator is read.
  by_cases tied : (was || way.random) = true ∧ Contested scores
  · rw [done]
    exact .inl ⟨tied.1, scores, shown, tied.2⟩
  · have settled (random : Bool) (below : random = true → (was || way.random) = true) :
        random = false ∨ ¬ Contested scores := by
      cases random with
      | false => exact .inl rfl
      | true => exact .inr fun contested => tied ⟨below rfl, contested⟩
    have left : chooseBest s.run.config.drawsTies eligible scores s.generator =
        (chooseBest false eligible scores s.generator).map fun found => (found.1, s.generator) := by
      apply chooseBest_of_settled
      rw [kept.policy]
      exact settled was (by simp_all)
    have right : chooseBest (s.retied way).run.config.drawsTies eligible scores
        (s.retied way).generator =
        (chooseBest false eligible scores s.generator).map fun found => (found.1, way.generator) :=
      chooseBest_of_settled (settled way.random (by simp_all)) _ _
    apply Or.inr
    rw [perform_choose, perform_choose, left, right]
    cases chooseBest false eligible scores s.generator with
    | error fault => rfl
    | ok found => rfl

theorem mirrorsAt_select (transcribes : scene.Transcribes) (unseeded : scene.problem.Unseeded)
    {eligible : List (Fin n)} (kept : Bound was s)
    (shown : ∀ scores t,
      Act.Sweeps (scene.rate (scene.problem.candidates.elementsAt s.run.selection.order)) eligible s
        scores t → Shows u t.caller.exchanges scores) :
    MirrorsAt (Bound was) (fun s => Tied u (was || way.random) s.caller.exchanges)
      (Stage.retied · way) s
      (scene.select eligible) ((scene.retied way).select eligible) := by
  have rates (position : Fin n) : (mirror u was way).Holds
      (scene.rate (scene.problem.candidates.elementsAt s.run.selection.order) position)
      ((scene.retied way).rate (scene.problem.candidates.elementsAt s.run.selection.order)
        position) := mirror_rate transcribes unseeded _ position
  have rated := (mirror u was way).mapM rates eligible
  refine .get_bind ((rated s kept).bind fun scores t done => ?_)
  have bound := (rated s kept).kept
  rw [done] at bound
  exact mirrorsAt_choose bound (shown scores t (Act.completes_mapM.1 done))

theorem mirror_selectRemaining (transcribes : scene.Transcribes)
    (unseeded : scene.problem.Unseeded) :
    (mirror scene.problem.candidates was way).Holds scene.selectRemaining
      (scene.retied way).selectRemaining := by
  intro s kept
  refine .get_bind (mirrorsAt_select transcribes unseeded kept fun scores t swept => ?_)
  have heard := exchanges_of_rates transcribes swept
  have each := swept.length_eq
  rw [kept.sound.remaining_eq] at heard each
  exact .swept each (heard.trans (List.append_nil _).symm)

theorem mirror_selectFitting (transcribes : scene.Transcribes) (unseeded : scene.problem.Unseeded) :
    (mirror scene.problem.candidates was way).Holds scene.selectFitting
      (scene.retied way).selectFitting := by
  have tried (order tried : List (Fin n)) := (mirror scene.problem.candidates was way).filterM
    (fun position => mirror_isFeasible transcribes unseeded (order ++ [position])) tried
  intro s kept
  have fits : MirrorsAt (Bound was) _ (Stage.retied · way) s scene.fitting
      (scene.retied way).fitting := .get_bind (tried _ _ s kept)
  refine fits.bind fun fit t done => ?_
  have bound := fits.kept
  rw [done] at bound
  -- The trials come just before the scores, and show which candidates are eligible.
  obtain ⟨verdicts, trials, rfl⟩ := completes_fitting.1 done
  have heard := exchanges_of_trials transcribes trials
  have counted := trials.length_eq
  have same := (asks_fitting done).selection
  apply mirrorsAt_select transcribes unseeded bound
  intro scores w swept
  have later := exchanges_of_rates transcribes swept
  have each := swept.length_eq
  rw [heard, same] at later
  rw [kept.sound.remaining_eq] at later each counted
  exact .fitted counted each (later.trans (List.append_nil _).symm)

/-! ## Runs -/

theorem coupled_retied (transcribes : scene.Transcribes) (unseeded : scene.problem.Unseeded) :
    CoupledThrough (mirror scene.problem.candidates was way) scene (scene.retied way) where
  selection := by rintro s _ ⟨_, rfl⟩; rfl
  direction := by rintro s _ ⟨_, rfl⟩; rfl
  scoreCalls := by rintro s _ ⟨_, rfl⟩; rfl
  feasibilityCalls := by rintro s _ ⟨_, rfl⟩; rfl
  reports := by rintro s _ ⟨_, rfl⟩; rfl
  beta := by rintro s _ ⟨_, rfl⟩; rfl
  lift result _ kept := Act.mirrorsAt_lift result kept
  rounds := by rintro s _ ⟨_, rfl⟩; rfl
  history := by rintro s _ ⟨_, rfl⟩; rfl
  isFeasible := mirror_isFeasible transcribes unseeded
  selectRemaining := mirror_selectRemaining transcribes unseeded
  selectFitting := mirror_selectFitting transcribes unseeded
  refused _ _ kept := Act.mirrorsAt_throw _ kept
  put s _ selection states sound :=
    mirror_modify (fun _ kept => ⟨sound states.1.sound, kept.policy⟩) (fun _ => rfl) fun _ => rfl
  turn _ := mirror_modify (fun _ kept => ⟨kept.sound, kept.policy⟩) (fun _ => rfl) fun _ => rfl
  note _ := mirror_modify (fun _ kept => ⟨kept.sound, kept.policy⟩) (fun _ => rfl) fun _ => rfl
  tell _ := mirror_modify (fun _ kept => ⟨kept.sound, kept.policy⟩) (fun _ => rfl) fun _ => rfl
  advance := mirror_modify (fun _ kept => ⟨kept.sound, kept.policy⟩) (fun _ => rfl) fun _ => rfl
  pop := mirror_modify (fun _ kept => ⟨kept.sound.popOldest, kept.policy⟩) (fun _ => rfl) fun _ => rfl
  count _ := mirror_modify (fun _ kept => ⟨kept.sound, kept.policy⟩) (fun _ => rfl) fun _ => rfl

end Scene

namespace Course

def retied (course : Course σ n) (way : Tiebreak) : Course σ n :=
  { course with stage := course.stage.retied way }

def mirror (u : Universe α n) (was : Bool) (way : Tiebreak) :
    Coupling (Course (Transcript σ α) n) (Course (Transcript σ α) n) :=
  Act.mirror (fun course => Bound was course.stage)
    (fun course => Tied u (was || way.random) course.stage.caller.exchanges) (retied · way)

variable {u : Universe α n} {was : Bool} {way : Tiebreak}

theorem lifts_mirror : Scene.Lifts (Stage.mirror (σ := σ) u was way) (mirror u was way) where
  stage := by
    rintro c _ ⟨kept, rfl⟩
    exact ⟨kept, rfl⟩
  onStage inner course kept := by
    obtain ⟨bound, stays, mirrored⟩ := inner course.stage kept
    refine ⟨bound, stays, mirrored.imp id fun same => ?_⟩
    exact congrArg (fun found : Except Fault _ × Stage (Transcript σ _) n =>
      (found.1, { course with stage := found.2 })) same
  greedy _ _ kept := ⟨kept, id, .inr rfl⟩
  refined _ _ kept := ⟨kept, id, .inr rfl⟩
  report _ _ kept := ⟨kept, id, .inr rfl⟩

end Course

end Carousel
