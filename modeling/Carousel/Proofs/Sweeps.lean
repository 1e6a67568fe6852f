import Carousel.Proofs.Membership
import Carousel.Proofs.Run.Enactment

/-!
# Every choice is one sweep

Whatever calls have led to a session, with callbacks that may change their state but raise nothing,
every further call asks what its phases script.  So each choice of a candidate is preceded by one sweep
of scores over exactly the eligible candidates.
-/

namespace Carousel

open Stage (Follows)

variable {σ δ α β : Type} {n : Nat}

def PhaseCall.kind : PhaseCall → Phase
  | construction => .construction
  | removal => .removal
  | iterative _ => .iterative
  | completion => .completion

namespace Session

/-- What a call may lead to, given the runs by hand before and after it.  Runs of their own begin with
no candidate, and a phase by hand with what its run has selected; other calls ask nothing. -/
def Scripted (u : Universe α n) (before after : List (Run n)) (heard : List (Exchange α)) :
    Call δ → Prop
  | .construct direction => ∃ last, Phases u direction.constructions [] heard last
  | .optimize direction _ _ => ∃ last, Scene.FullRun u direction [] heard last
  | .phase number phase =>
    match Index.locate before.length .noSuchEntry number with
    | .error _ => heard = []
    | .ok place => ∃ last ∈ after[place.val]?,
      Steps u phase.kind (before.get place).direction (before.get place).selection.order heard
        last.selection.order
  | _ => heard = []

theorem enacts_phaseAct {scene : Scene (Transcript σ α) δ α n} {direction : Direction}
    (transcribes : scene.Transcribes) (phase : PhaseCall) :
    scene.Enacts phase.kind direction (phaseAct scene phase) := by
  cases phase with
  | construction =>
    exact (Scene.enacts_construction transcribes).bind fun _ => .get_bind fun _ _ =>
      Scene.enacts_pure _
  | removal => exact Scene.enacts_removal.bind fun _ => Scene.enacts_pure _
  | iterative rounds =>
    exact (Scene.enacts_iterative transcribes rounds).bind fun _ => Scene.enacts_pure _
  | completion => exact (Scene.enacts_completion transcribes).bind fun _ => Scene.enacts_pure _

theorem law_of_follows {law : List (Exchange α) → List (Fin n) → Prop}
    {s t : Stage (Transcript σ α) n} (follows : Follows law s t) (empty : s.caller.exchanges = [])
    (answered : t.caller.exchanges.all Exchange.isAnswered = true) :
    law t.caller.exchanges t.run.selection.order := by
  obtain ⟨_, heard, told, lawful⟩ := follows
  have same := told.exchanges
  rw [empty, List.nil_append] at same
  rw [same] at answered ⊢
  exact lawful answered

variable {s : Session (Transcript σ α) δ n}

theorem scripted_construct (problem : Problem σ δ α n) (empty : s.solver.caller.exchanges = [])
    (direction : Direction) :
    let after := (s.perform problem.transcribed (.construct direction)).after
    after.solver.caller.exchanges.all Exchange.isAnswered = true →
      Scripted problem.candidates s.runs after.runs after.solver.caller.exchanges
        (.construct direction : Call δ) := by
  let start : Course (Transcript σ α) n :=
    { stage := s.solver.start direction s.solver.config, memory := s.solver.memory }
  have sound : start.stage.run.selection.Sound := Selection.sound_empty
  have transcribes := Scene.transcribes_transcribed problem s.solver.data s.solver.config .itself
  have ends := Scene.follows_greedyRun transcribes sound rfl
  have follows := (ends.imp (fun _ _ kept => kept.1) fun _ _ => id).after
  exact fun answered => ⟨_, law_of_follows follows empty answered⟩

theorem scripted_optimize (problem : Problem σ δ α n) (empty : s.solver.caller.exchanges = [])
    (direction : Direction) (alpha beta : Value) :
    let after := (s.perform problem.transcribed (.optimize direction alpha beta)).after
    after.solver.caller.exchanges.all Exchange.isAnswered = true →
      Scripted problem.candidates s.runs after.runs after.solver.caller.exchanges
        (.optimize direction alpha beta : Call δ) := by
  simp only [perform]
  cases s.solver.callConfig alpha beta with
  | error fault =>
    -- A refused call asks nothing.
    intro _
    refine ⟨[], [], [], ?_, .unreached _ _ _, .inl rfl⟩
    exact empty
  | ok config =>
    let start : Course (Transcript σ α) n :=
      { stage := s.solver.start direction config, memory := s.solver.memory }
    have sound : start.stage.run.selection.Sound := Selection.sound_empty
    have transcribes := Scene.transcribes_transcribed problem s.solver.data s.solver.config .itself
    have follows := (Scene.follows_fullRun config transcribes sound rfl).after
    exact fun answered => ⟨_, law_of_follows follows empty answered⟩

theorem scripted_phase (problem : Problem σ δ α n) (empty : s.solver.caller.exchanges = [])
    (sound : ∀ run ∈ s.runs, run.selection.Sound) (number : Int) (phase : PhaseCall) :
    let after := (s.perform problem.transcribed (.phase number phase)).after
    after.solver.caller.exchanges.all Exchange.isAnswered = true →
      Scripted problem.candidates s.runs after.runs after.solver.caller.exchanges
        (.phase number phase : Call δ) := by
  simp only [perform, onRun, Scripted, locate]
  cases Index.locate s.runs.length .noSuchEntry number with
  | error fault => exact fun _ => empty
  | ok place =>
    have transcribes := Scene.transcribes_transcribed problem s.solver.data s.solver.config
      (s.front place)
    let stage := s.solver.stage (s.runs.get place)
    have start : stage.run.selection.Sound := sound _ (List.get_mem _ _)
    have follows := ((enacts_phaseAct transcribes phase start rfl).imp (fun _ _ kept => kept.1)
      fun _ _ => id).after
    refine fun answered => ⟨_, ?_, law_of_follows follows empty answered⟩
    exact List.getElem?_set_self place.isLt

/-- Appending candidates by number asks nothing. -/
theorem silent_append (problem : Problem σ δ α n) (empty : s.solver.caller.exchanges = [])
    (number : Int) (positions : List Int) :
    (s.perform problem.transcribed (.append number positions)).after.solver.caller.exchanges =
      [] := by
  simp only [perform, onRun]
  cases s.locate number with
  | error fault => exact empty
  | ok place =>
    have single (position : Int) (t : Stage (Transcript σ α) n) (quiet : t.caller.exchanges = []) :
        (append problem.transcribed position : Act (Stage (Transcript σ α) n) Unit).Ends t
          (fun _ t => t.caller.exchanges = []) fun _ t => t.caller.exchanges = [] := by
      unfold append
      rw [Act.ends_get_bind]
      split
      · exact quiet
      · exact quiet
    have quiet : (positions.forM (append problem.transcribed) >>= fun _ =>
        pure (.nothing : Reply n)).Ends (s.solver.stage (s.runs.get place))
        (fun _ t => t.caller.exchanges = []) fun _ t => t.caller.exchanges = [] :=
      Act.ends_bind.2 (Act.ends_forM (fun position _ => single position) empty)
    exact quiet.after

theorem scripted_perform (problem : Problem σ δ α n) (empty : s.solver.caller.exchanges = [])
    (sound : ∀ run ∈ s.runs, run.selection.Sound) (call : Call δ) :
    let after := (s.perform problem.transcribed call).after
    after.solver.caller.exchanges.all Exchange.isAnswered = true →
      Scripted problem.candidates s.runs after.runs after.solver.caller.exchanges call := by
  cases call with
  | construct direction => exact scripted_construct problem empty direction
  | optimize direction alpha beta => exact scripted_optimize problem empty direction alpha beta
  | phase number phase => exact scripted_phase problem empty sound number phase
  | append number positions => exact fun _ => silent_append problem empty number positions
  | setData data => exact fun _ => empty
  | newRun direction settings => exact fun _ => empty
  | _ =>
    simp only [perform, Solver.reseed, Solver.draw, onRun, Scripted, ofOutcome]
    split
    · exact fun _ => empty
    · exact fun _ => empty

/-! ## Main result -/

/-- After any calls on a new solver, what passes during one more call follows the script of the call,
unless the caller raises something: whenever candidates are scored, each eligible one is scored exactly
once, in enumeration order and for the elements of the working selection, and nothing else is asked in
between.  The eligible candidates are those that are not selected, and in the completion of a large
selection those of them whose trial, in the sweep of trials just before, was accepted.  Writing the
transcript changes neither the answer nor the session. -/
theorem every_choice_is_one_sweep (problem : Problem σ δ α n) (config : Config) (data : δ)
    (caller : σ) (calls : List (Call δ)) (call : Call δ) :
    let s := reached problem config data caller calls
    let heard := s.transcript problem call
    (s.transcribed.perform problem.transcribed call).answer = (s.perform problem call).answer ∧
      (s.transcribed.perform problem.transcribed call).after.through Transcript.caller =
        (s.perform problem call).after ∧
      (heard.all Exchange.isAnswered = true →
        Scripted problem.candidates s.runs (s.perform problem call).after.runs heard call) := by
  intro s heard
  obtain ⟨answer, after, _⟩ := perform_transcribed problem s call
  refine ⟨answer, after, fun answered => ?_⟩
  have sound := (fit_reached problem config data caller calls).runs
  have scripted := scripted_perform problem rfl sound call answered
  -- The transcript leaves the runs by hand alone.
  have runs : (s.transcribed.perform problem.transcribed call).after.runs =
      (s.perform problem call).after.runs := congrArg Session.runs after
  rw [runs] at scripted
  exact scripted

end Session

namespace Session

def oneSelected : List (Call Unit) := [.newRun .maximize none, .append 0 [2]]

/-- The completion of a run by hand in which one number is selected tries both other numbers, scores
both, and tries the last one again in vain. -/
theorem sweep_of_three_numbers :
    ((reached .anyTwo default () () oneSelected).transcript .anyTwo
        (.phase 0 .completion)).map Exchange.isScored = [false, false, true, true, false] ∧
      ((reached .anyTwo default () () oneSelected).transcript .anyTwo
        (.phase 0 .completion)).all Exchange.isAnswered = true ∧
      Scripted Problem.anyTwo.candidates (reached .anyTwo default () () oneSelected).runs
        ((reached .anyTwo default () () oneSelected).perform .anyTwo
          (.phase 0 .completion)).after.runs
        ((reached .anyTwo default () () oneSelected).transcript .anyTwo (.phase 0 .completion))
        (.phase 0 .completion : Call Unit) := by
  have answered : ((reached .anyTwo default () () oneSelected).transcript .anyTwo
      (.phase 0 .completion)).all Exchange.isAnswered = true := by decide +kernel
  obtain ⟨_, _, scripted⟩ :=
    every_choice_is_one_sweep .anyTwo default () () oneSelected (.phase 0 .completion)
  exact ⟨by decide +kernel, answered, scripted answered⟩

end Session

end Carousel
