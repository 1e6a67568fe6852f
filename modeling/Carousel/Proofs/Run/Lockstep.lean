import Carousel.Proofs.Run.Coupling

/-!
# Runs in lockstep

Two scenes match under a relation of stages when their questions are in lockstep and related stages
agree in what steers a run.  Their greedy runs are then in lockstep.
-/

namespace Carousel

open Act (Lockstep)

variable {σ τ δ δ' α α' β : Type} {n : Nat} {F : Fault → Fault → Prop}

namespace Scene

/-- The questions of two scenes are in lockstep, and related stages agree in what steers a run and
stay related when it changes. -/
structure Matched (F : Fault → Fault → Prop) (R : Stage σ n → Stage τ n → Prop)
    (left : Scene σ δ α n) (right : Scene τ δ' α' n) : Prop where
  refl : ∀ fault, F fault fault
  selection : ∀ ⦃s t⦄, R s t → s.run.selection = t.run.selection
  direction : ∀ ⦃s t⦄, R s t → s.run.direction = t.run.direction
  scoreCalls : ∀ ⦃s t⦄, R s t → s.run.scoreCalls = t.run.scoreCalls
  feasibilityCalls : ∀ ⦃s t⦄, R s t → s.run.feasibilityCalls = t.run.feasibilityCalls
  reports : ∀ ⦃s t⦄, R s t → left.reports s.run = right.reports t.run
  label : ∀ position,
    F (.alreadySelected (left.problem.label (left.problem.candidates.element position)))
      (.alreadySelected (right.problem.label (right.problem.candidates.element position)))
  isFeasible : ∀ positions, Lockstep F R (left.isFeasible positions) (right.isFeasible positions)
  select : ∀ eligible, Lockstep F R (left.select eligible) (right.select eligible)
  put : ∀ ⦃s t⦄ selection, R s t →
    R { s with run := { s.run with selection } } { t with run := { t.run with selection } }
  turn : ∀ ⦃s t⦄ direction, R s t →
    R { s with run := { s.run with direction } } { t with run := { t.run with direction } }
  note : ∀ ⦃s t⦄ record, R s t →
    R { s with run := { s.run with history := s.run.history ++ [record] } }
      { t with run := { t.run with history := t.run.history ++ [record] } }
  tell : ∀ ⦃s t⦄ notice, R s t →
    R { s with notices := s.notices ++ [notice] } { t with notices := t.notices ++ [notice] }

namespace Matched

variable {R : Stage σ n → Stage τ n → Prop} {left : Scene σ δ α n} {right : Scene τ δ' α' n}

/-- Matched scenes have coupled steps. -/
theorem coupled (matched : Matched F R left right) : Coupled (Act.lockstep F R) left right where
  selection := matched.selection
  direction := matched.direction
  scoreCalls := matched.scoreCalls
  feasibilityCalls := matched.feasibilityCalls
  reports := matched.reports
  isFeasible := matched.isFeasible
  selectRemaining := by
    refine Lockstep.get_bind fun s t related => ?_
    rw [matched.selection related]
    exact matched.select _
  refused refusal := by
    cases refusal with
    | selected position => exact .throw (matched.label position)
    | outOfRange number => exact .throw (matched.refl _)
  put _ _ selection _ _ := .modify fun _ _ related => matched.put selection related
  turn direction := .modify fun _ _ related => matched.turn direction related
  note record := .modify fun _ _ related => matched.note record related
  tell notice := .modify fun _ _ related => matched.tell notice related

theorem lockstep_greedy (matched : Matched F R left right) (direction : Direction) :
    Lockstep F R (left.greedy direction) (right.greedy direction) :=
  matched.coupled.greedy direction

end Matched

end Scene

/-! ## Multiplier and share

A greedy run reads neither the multiplier nor the share of its configuration. -/

namespace Stage

def retuned (s : Stage σ n) (config : Settings) : Stage σ n :=
  { s with run := { s.run with config } }

/-- The stages differ at most in the multiplier, the share and the seed that their runs go by. -/
def Retuned (s t : Stage σ n) : Prop :=
  ∃ config : Settings, config.randomTieBreak = s.run.config.randomTieBreak ∧
    config.verbose = s.run.config.verbose ∧ t = s.retuned config

end Stage

namespace Scene

open Stage (Retuned)

variable {scene : Scene σ δ α n}

theorem lockstep_call_retuned (callback : View δ → Callback σ β) :
    Lockstep Eq Retuned (scene.call callback) (scene.call callback) := by
  rintro s _ ⟨config, tieBreak, verbose, rfl⟩
  exact ⟨.of_eq (fun _ => rfl) rfl, config, tieBreak, verbose, rfl⟩

theorem lockstep_update_retuned {change : Run n → Run n}
    (config_change : ∀ run, (change run).config = run.config)
    (change_config : ∀ run config, change { run with config } = { change run with config }) :
    Lockstep Eq Retuned (update change : Act (Stage σ n) Unit) (update change) := by
  refine .modify ?_
  rintro s _ ⟨config, tieBreak, verbose, rfl⟩
  refine ⟨config, ?_, ?_, ?_⟩
  · rw [tieBreak, config_change]
  · rw [verbose, config_change]
  · exact congrArg (fun run => { s with run }) (change_config s.run config)

theorem lockstep_select_retuned (eligible : List (Fin n)) :
    Lockstep Eq Retuned (scene.select eligible) (scene.select eligible) := by
  refine .get_bind ?_
  rintro s _ ⟨_, _, _, rfl⟩
  have rated (position : Fin n) : Lockstep Eq Retuned
      (scene.rate (scene.problem.candidates.elementsAt s.run.selection.order) position)
      (scene.rate (scene.problem.candidates.elementsAt s.run.selection.order) position) :=
    .bind (lockstep_update_retuned (fun _ => rfl) fun _ _ => rfl) fun _ =>
      lockstep_call_retuned _
  -- The choice goes by the tie-breaking policy, which the stages have in common.
  refine .bind (.mapM rated _) fun scores => .get_bind ?_
  rintro s _ ⟨config, tieBreak, verbose, rfl⟩
  simp only [Stage.retuned, Settings.drawsTies, tieBreak]
  refine .bind (.lift (fun _ => rfl) _) fun chosen => .bind (.set ?_) fun _ => .pure _
  exact ⟨config, tieBreak, verbose, rfl⟩

theorem matched_retuned : Matched Eq Retuned scene scene where
  refl _ := rfl
  selection := by rintro s _ ⟨_, _, _, rfl⟩; rfl
  direction := by rintro s _ ⟨_, _, _, rfl⟩; rfl
  scoreCalls := by rintro s _ ⟨_, _, _, rfl⟩; rfl
  feasibilityCalls := by rintro s _ ⟨_, _, _, rfl⟩; rfl
  reports := by
    rintro s _ ⟨config, _, verbose, rfl⟩
    simp only [reports, Stage.retuned, Settings.reports, verbose]
  label _ := rfl
  isFeasible _ :=
    .bind (lockstep_update_retuned (fun _ => rfl) fun _ _ => rfl) fun _ =>
      lockstep_call_retuned _
  select := lockstep_select_retuned
  put := by
    rintro s _ selection ⟨config, tieBreak, verbose, rfl⟩
    exact ⟨config, tieBreak, verbose, rfl⟩
  turn := by
    rintro s _ direction ⟨config, tieBreak, verbose, rfl⟩
    exact ⟨config, tieBreak, verbose, rfl⟩
  note := by
    rintro s _ record ⟨config, tieBreak, verbose, rfl⟩
    exact ⟨config, tieBreak, verbose, rfl⟩
  tell := by
    rintro s _ notice ⟨config, tieBreak, verbose, rfl⟩
    exact ⟨config, tieBreak, verbose, rfl⟩

end Scene

end Carousel
