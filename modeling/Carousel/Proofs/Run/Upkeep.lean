import Carousel.Proofs.Ends
import Carousel.Proofs.Run.Phase
import Carousel.Run.Full

/-!
# What holds through every fault

A fault can end a run at any question.  What holds of the state of the caller through every proper
question, and of each fault, then holds wherever a run ends, and the selection is sound there.  A
question is proper when it shows distinct candidates, and a candidate to score that is not among them.
-/

namespace Carousel

open Act (Ends ends_bind ends_get_bind ends_iff)

variable {σ δ α β γ : Type} {n : Nat} {J : σ → Prop} {E : Fault → σ → Prop}

def Callback.Ends (callback : Callback σ β) (caller : σ) (J : σ → Prop) (E : Fault → σ → Prop) :
    Prop :=
  match callback.perform caller with
  | (.ok _, after) => J after
  | (.error raised, after) => E (.raised raised) after

/-- Proper questions keep `J`, and every fault that can come of them leaves `E`. -/
structure Problem.Upholds (problem : Problem σ δ α n) (J : σ → Prop) (E : Fault → σ → Prop) :
    Prop where
  feasible : ∀ view positions caller, positions.Nodup → J caller →
    (problem.feasible view (problem.candidates.elementsAt positions)).Ends caller J E
  score : ∀ view positions position caller, positions.Nodup → position ∉ positions → J caller →
    (problem.score view (problem.candidates.elementsAt positions)
      (problem.candidates.element position)).Ends caller J E
  ranking : ∀ fault caller, fault.isRanking = true → J caller → E fault caller

theorem Problem.Upholds.imp {problem : Problem σ δ α n} {E' : Fault → σ → Prop}
    (upholds : problem.Upholds J E) (weaker : ∀ fault caller, E fault caller → E' fault caller) :
    problem.Upholds J E' := by
  have ends {β : Type} {callback : Callback σ β} {caller : σ} (ends : callback.Ends caller J E) :
      callback.Ends caller J E' := by
    revert ends
    unfold Callback.Ends
    rcases callback.perform caller with ⟨_ | _, after⟩
    · exact weaker _ _
    · exact id
  exact ⟨fun view positions caller nodup holds => ends (upholds.feasible _ _ _ nodup holds),
    fun view positions position caller nodup fresh holds =>
      ends (upholds.score _ _ _ _ nodup fresh holds),
    fun fault caller ranking holds => weaker _ _ (upholds.ranking fault caller ranking holds)⟩

namespace Stage

/-- The selection is sound, and `P` holds of the state of the caller. -/
structure Fit (P : σ → Prop) (s : Stage σ n) : Prop where
  sound : s.run.selection.Sound
  caller : P s.caller

structure At (selection : Selection n) (P : σ → Prop) (s : Stage σ n) : Prop where
  selection : s.run.selection = selection
  caller : P s.caller

theorem At.fit {selection : Selection n} {P : σ → Prop} {s : Stage σ n} (here : s.At selection P)
    (sound : selection.Sound) : s.Fit P :=
  ⟨here.selection ▸ sound, here.caller⟩

/-- However the action ends, it leaves a fit stage. -/
def Upkeep (J : σ → Prop) (E : Fault → σ → Prop) (act : Act (Stage σ n) β) : Prop :=
  ∀ ⦃s⦄, s.Fit J → act.Ends s (fun _ => Fit J) fun fault => Fit (E fault)

theorem Upkeep.bind {act : Act (Stage σ n) β} {next : β → Act (Stage σ n) γ}
    (first : Upkeep J E act) (rest : ∀ answer, Upkeep J E (next answer)) :
    Upkeep J E (act >>= next) := by
  intro s fit
  rw [ends_bind]
  exact (first fit).imp (fun answer _ fit => rest answer fit) fun _ _ => id

theorem upkeep_pure (answer : β) : Upkeep J E (pure answer : Act (Stage σ n) β) := fun _ fit => fit

end Stage

open Stage (Fit At Upkeep upkeep_pure)

namespace Scene

variable {scene : Scene σ δ α n} {s : Stage σ n} {selection : Selection n}

/-! ## Questions -/

theorem ends_call {callback : View δ → Callback σ β} (here : s.At selection J)
    (ends : (callback (scene.view s)).Ends s.caller J E) :
    (scene.call callback).Ends s (fun _ => At selection J) fun fault => At selection (E fault) := by
  unfold Callback.Ends at ends
  unfold Ends Act.perform call
  revert ends
  rcases (callback (scene.view s)).perform s.caller with ⟨_ | _, after⟩
  · exact fun faulted => ⟨here.selection, faulted⟩
  · exact fun answered => ⟨here.selection, answered⟩

theorem ends_isFeasible (upholds : scene.problem.Upholds J E) {positions : List (Fin n)}
    (nodup : positions.Nodup) (here : s.At selection J) :
    (scene.isFeasible positions).Ends s (fun _ => At selection J)
      fun fault => At selection (E fault) := by
  refine ends_bind.2 ?_
  exact ends_call ⟨here.selection, here.caller⟩ (upholds.feasible _ _ _ nodup here.caller)

theorem ends_rate (upholds : scene.problem.Upholds J E) {position : Fin n}
    (sound : selection.Sound) (fresh : position ∉ selection.order) (here : s.At selection J) :
    (scene.rate (scene.problem.candidates.elementsAt selection.order) position).Ends s
      (fun _ => At selection J) fun fault => At selection (E fault) := by
  refine ends_bind.2 ?_
  exact ends_call ⟨here.selection, here.caller⟩
    (upholds.score _ _ _ _ sound.nodup fresh here.caller)

theorem ends_select (upholds : scene.problem.Upholds J E) {eligible : List (Fin n)}
    (sound : selection.Sound) (fresh : ∀ position ∈ eligible, position ∉ selection.order)
    (here : s.At selection J) :
    (scene.select eligible).Ends s
      (fun choice t => t.At selection J ∧ (scene.select eligible).Completes s choice t)
      fun fault => At selection (E fault) := by
  refine Ends.witnessed ?_
  unfold select
  rw [ends_get_bind, ends_bind, here.selection]
  -- The sweep of scores never moves the selection that it shows.
  have swept := Act.ends_mapM (I := At selection J)
    (fun position member s here => ends_rate upholds sound (fresh position member) here) here
  refine swept.imp (fun scores t here => ?_) fun _ _ => id
  rw [ends_get_bind, ends_bind]
  refine Act.ends_lift (fun _ _ => ⟨here.selection, here.caller⟩) fun fault refused => ?_
  exact ⟨here.selection, upholds.ranking fault _ (isRanking_of_chooseBest refused) here.caller⟩

theorem ends_selectRemaining (upholds : scene.problem.Upholds J E) (sound : selection.Sound)
    (here : s.At selection J) :
    scene.selectRemaining.Ends s
      (fun choice t => t.At selection J ∧ ∀ position ∈ choice, position ∉ selection.order)
      fun fault => At selection (E fault) := by
  unfold selectRemaining
  rw [ends_get_bind, here.selection]
  have fresh (position : Fin n) : position ∈ selection.remaining → position ∉ selection.order :=
    sound.mem_remaining_iff.1
  refine (ends_select upholds sound fresh here).imp ?_ fun _ _ => id
  rintro _ t ⟨here, selected⟩
  refine ⟨here, fun position chosen => ?_⟩
  cases chosen
  exact fresh position (mem_of_select_some selected)

/-- A fresh candidate is never refused. -/
theorem ends_add {position : Fin n} (sound : selection.Sound) (fresh : position ∉ selection.order)
    (here : s.At selection J) :
    (scene.add position).Ends s (fun _ => Fit J) fun fault => Fit (E fault) := by
  unfold add
  rw [ends_get_bind, here.selection]
  have joined := (Selection.add_eq_ok_iff sound).2 ⟨fresh, rfl⟩
  rw [joined]
  exact ⟨sound.add joined, here.caller⟩

/-! ## The four phases -/

theorem upkeep_announce (notice : Notice) : Upkeep J E (scene.announce notice) := by
  intro s fit
  unfold announce
  rw [ends_get_bind]
  split
  · exact ⟨fit.sound, fit.caller⟩
  · exact fit

theorem upkeep_recorded {phase : Phase} {body : Act (Stage σ n) β} {rounds : β → Nat}
    (inner : Upkeep J E body) : Upkeep J E (scene.recorded phase body rounds) := by
  intro s fit
  unfold recorded
  rw [ends_get_bind]
  refine (inner.bind fun result => ?_) fit
  intro m fit
  rw [ends_get_bind]
  refine ends_bind.2 ?_
  exact (upkeep_announce _).bind (fun _ => upkeep_pure _) ⟨fit.sound, fit.caller⟩

theorem ends_isConstructed (upholds : scene.problem.Upholds J E) (fit : s.Fit J) :
    scene.isConstructed.Ends s (fun _ => At s.run.selection J)
      fun fault => At s.run.selection (E fault) := by
  unfold isConstructed
  cases direction : s.run.direction with
  | minimize =>
    simp only [ends_get_bind, direction]
    exact ends_isFeasible upholds fit.sound.nodup ⟨rfl, fit.caller⟩
  | maximize =>
    simp only [ends_get_bind, direction]
    exact ⟨rfl, fit.caller⟩

theorem upkeep_extend (upholds : scene.problem.Upholds J E) (passes : Nat) :
    Upkeep J E (scene.extend passes) := by
  induction passes with
  | zero => exact upkeep_pure _
  | succ passes ih =>
    intro s fit
    -- The test leaves the selection that the scores are given for.
    refine ends_bind.2 ((ends_isConstructed upholds fit).imp ?_ fun _ _ here => here.fit fit.sound)
    rintro (_ | _) m here
    · refine ends_bind.2 ((ends_selectRemaining upholds fit.sound here).imp ?_
        fun _ _ here => here.fit fit.sound)
      rintro (_ | position) w ⟨here, fresh⟩
      · exact here.fit fit.sound
      · refine ends_bind.2 ((ends_add fit.sound (fresh position rfl) here).imp ?_ fun _ _ => id)
        exact fun _ _ fit => ih fit
    · exact here.fit fit.sound

theorem upkeep_construction (upholds : scene.problem.Upholds J E) :
    Upkeep J E scene.construction :=
  upkeep_recorded (upkeep_extend upholds _)

theorem ends_removal (fit : s.Fit J)
    (refused : ∀ fault, s.run.config.countOf s.run.selection.size = .error fault → E fault s.caller) :
    scene.removal.Ends s (fun removed t => t.Fit J ∧ removed.Nodup) fun fault => Fit (E fault) := by
  refine ends_iff.2 ⟨fun removed t completed => ?_, fun fault t failed => ?_⟩
  · obtain ⟨share, _, rfl, rfl⟩ := completes_removal.1 completed
    exact ⟨⟨fit.sound.dropNewest _, fit.caller⟩, fit.sound.nodup.sublist (List.drop_sublist _ _)⟩
  · obtain ⟨uncounted, rfl⟩ := fails_removal.1 failed
    exact ⟨fit.sound, refused fault uncounted⟩

theorem ends_enter (upholds : scene.problem.Upholds J E) {position : Fin n}
    (sound : selection.Sound) (fresh : position ∉ selection.order) (here : s.At selection J) :
    (scene.enter position).Ends s (fun _ => Fit J) fun fault => Fit (E fault) := by
  have asked : (scene.mayJoin position).Ends s (fun _ => At selection J)
      fun fault => At selection (E fault) := by
    unfold mayJoin
    cases direction : s.run.direction with
    | minimize =>
      simp only [ends_get_bind, direction]
      exact here
    | maximize =>
      simp only [ends_get_bind, direction, here.selection]
      exact ends_isFeasible upholds (sound.nodup_extended fresh) here
  refine ends_bind.2 (asked.imp ?_ fun _ _ here => here.fit sound)
  rintro (_ | _) m here
  · exact here.fit sound
  · exact ends_add sound fresh here

theorem upkeep_round (upholds : scene.problem.Upholds J E) : Upkeep J E scene.round := by
  intro s fit
  -- The oldest candidate is out of the selection before the others are scored.
  have sound := Stage.sound_turned fit.sound
  refine ends_bind.2 (ends_bind.2 (ends_bind.2 ?_))
  refine (ends_selectRemaining (s := s.turned) upholds sound ⟨rfl, fit.caller⟩).imp ?_
    fun _ _ here => here.fit sound
  rintro (_ | position) m ⟨here, fresh⟩
  · exact here.fit sound
  · exact ends_bind.2 (ends_enter upholds sound (fresh position rfl) here)

theorem upkeep_rotate (upholds : scene.problem.Upholds J E) (rounds begun : Nat) :
    Upkeep J E (scene.rotate rounds begun) := by
  induction rounds generalizing begun with
  | zero => exact upkeep_pure _
  | succ rounds ih =>
    refine (upkeep_round upholds).bind fun more => ?_
    cases more with
    | true => exact ih _
    | false => exact upkeep_pure _

theorem upkeep_iterative (upholds : scene.problem.Upholds J E) (rounds : Nat) :
    Upkeep J E (scene.iterative rounds) := by
  refine upkeep_recorded ((upkeep_rotate upholds rounds 0).bind fun begun => ?_)
  exact Upkeep.bind (fun _ fit => ⟨fit.sound, fit.caller⟩) fun _ => upkeep_pure _

theorem upkeep_repair (upholds : scene.problem.Upholds J E) (passes : Nat) :
    Upkeep J E (scene.repair passes) := by
  induction passes with
  | zero => exact upkeep_pure _
  | succ passes ih =>
    intro s fit
    unfold repair
    rw [ends_get_bind]
    refine ends_bind.2 ((ends_isFeasible upholds fit.sound.nodup ⟨rfl, fit.caller⟩).imp ?_
      fun _ _ here => here.fit fit.sound)
    rintro (_ | _) m here
    · refine ends_bind.2 ((ends_selectRemaining upholds fit.sound here).imp ?_
        fun _ _ here => here.fit fit.sound)
      rintro (_ | position) w ⟨here, fresh⟩
      · exact here.fit fit.sound
      · refine ends_bind.2 ((ends_add fit.sound (fresh position rfl) here).imp ?_ fun _ _ => id)
        exact fun _ _ fit => ih fit
    · exact here.fit fit.sound

theorem ends_fitting (upholds : scene.problem.Upholds J E) (fit : s.Fit J) :
    scene.fitting.Ends s
      (fun fit t => t.At s.run.selection J ∧ fit ⊆ s.run.selection.remaining)
      fun fault => At s.run.selection (E fault) := by
  unfold fitting
  rw [ends_get_bind]
  -- Every test of the sweep shows one candidate more, but the selection stays.
  refine Act.ends_filterM (fun position member m here => ?_) ⟨rfl, fit.caller⟩
  have fresh := fit.sound.mem_remaining_iff.1 member
  exact ends_isFeasible upholds (fit.sound.nodup_extended fresh) here

/-- The choice among candidates that fit always gives one of them, which then joins. -/
theorem upkeep_saturate (upholds : scene.problem.Upholds J E) (passes : Nat) :
    Upkeep J E (scene.saturate passes) := by
  induction passes with
  | zero => exact upkeep_pure _
  | succ passes ih =>
    intro s fit
    refine ends_bind.2 ((ends_fitting upholds fit).imp ?_ fun _ _ here => here.fit fit.sound)
    rintro (_ | ⟨first, others⟩) m ⟨here, inside⟩
    · exact here.fit fit.sound
    · -- The candidates that fit were tested for this very selection, so none is in it.
      have fresh (position : Fin n) (member : position ∈ first :: others) :
          position ∉ s.run.selection.order :=
        fit.sound.mem_remaining_iff.1 (inside member)
      refine ends_bind.2 ((ends_select upholds fit.sound fresh here).imp ?_
        fun _ _ here => here.fit fit.sound)
      rintro (_ | position) w ⟨here, selected⟩
      · cases eq_nil_of_select_none selected
      · refine ends_bind.2 ((ends_add fit.sound
          (fresh position (mem_of_select_some selected)) here).imp ?_ fun _ _ => id)
        exact fun _ _ fit => ih fit

theorem upkeep_completion (upholds : scene.problem.Upholds J E) : Upkeep J E scene.completion := by
  refine upkeep_recorded fun s fit => ?_
  rw [ends_get_bind]
  cases s.run.direction with
  | minimize => exact upkeep_repair upholds _ fit
  | maximize => exact (upkeep_saturate upholds _).bind (fun _ => upkeep_pure _) fit

end Scene

end Carousel
