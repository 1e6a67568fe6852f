import Carousel.Proofs.Run.Passage
import Carousel.Proofs.Run.Upkeep

/-!
# What full runs remember

A run remembers the order of its own selection and lists taken from there.  So what is remembered
stays free of repetitions, also where a fault ends the run between two findings.
-/

namespace Carousel

open Act (Ends ends_bind ends_get_bind)
open Stage (Fit Upkeep)

variable {σ δ α β : Type} {n : Nat} {J : σ → Prop} {E : Fault → σ → Prop}

structure Memory.Distinct (memory : Memory n) : Prop where
  greedy : ∀ found ∈ memory.greedy, found.Nodup
  refined : ∀ found ∈ memory.refined, found.Nodup
  report : ∀ report ∈ memory.report,
    report.greedy.Nodup ∧ report.refined.Nodup ∧ report.best.Nodup

/-- The stage is fit, and the memory is free of repetitions if the `old` one was. -/
structure Course.Fit (old : Memory n) (P : σ → Prop) (course : Course σ n) : Prop where
  stage : course.stage.Fit P
  memory : old.Distinct → course.memory.Distinct

namespace Memory

theorem distinct_empty : ({} : Memory n).Distinct := ⟨by simp, by simp, by simp⟩

theorem Distinct.put_greedy {memory : Memory n} {found : List (Fin n)} (distinct : memory.Distinct)
    (nodup : found.Nodup) : { memory with greedy := some found }.Distinct :=
  { distinct with greedy := by simpa using nodup }

theorem Distinct.put_refined {memory : Memory n} {found : List (Fin n)} (distinct : memory.Distinct)
    (nodup : found.Nodup) : { memory with refined := some found }.Distinct :=
  { distinct with refined := by simpa using nodup }

theorem Distinct.put_report {memory : Memory n} {found : Report (Fin n)}
    (distinct : memory.Distinct)
    (nodup : found.greedy.Nodup ∧ found.refined.Nodup ∧ found.best.Nodup) :
    { memory with report := some found }.Distinct :=
  { distinct with report := by simpa using nodup }

end Memory

namespace Scene

variable {scene : Scene σ δ α n} {config : Config} {direction : Direction} {old : Memory n}

theorem upkeep_turn : Upkeep J E (turn direction : Act (Stage σ n) Unit) :=
  fun _ fit => ⟨fit.sound, fit.caller⟩

theorem ends_greedy (upholds : scene.problem.Upholds J E) {s : Stage σ n} (fit : s.Fit J) :
    (scene.greedy direction).Ends s (fun found t => t.Fit J ∧ found.Nodup)
      fun fault => Fit (E fault) := by
  have constructs : Upkeep J E scene.construction := upkeep_construction upholds
  have finish : Upkeep J E (do return (← get).run.selection.order : Act (Stage σ n) _) :=
    fun _ fit => fit
  -- Turning the direction keeps the stage fit between the two constructions.
  have kept : Upkeep J E (scene.greedy direction) := by
    cases direction with
    | minimize => exact constructs.bind fun _ => finish
    | maximize =>
      exact upkeep_turn.bind fun _ => constructs.bind fun _ => upkeep_turn.bind fun _ =>
        constructs.bind fun _ => finish
  refine (kept fit).witnessed.imp ?_ fun _ _ => id
  rintro found t ⟨kept, constructed⟩
  exact ⟨kept, order_of_greedy constructed ▸ kept.sound.nodup⟩

/-- An action on the stage of a course leaves its memory alone. -/
theorem ends_onStage {act : Act (Stage σ n) β} {course : Course σ n} {Q : β → Prop}
    (fit : course.Fit old J)
    (ends : act.Ends course.stage (fun answer t => t.Fit J ∧ Q answer) fun fault => Fit (E fault)) :
    (onStage act).Ends course (fun answer after => after.Fit old J ∧ Q answer)
      fun fault => Course.Fit old (E fault) := by
  refine Act.ends_iff.2 ⟨fun answer after completed => ?_, fun fault after failed => ?_⟩
  · obtain ⟨stage, ended, rfl⟩ := completes_onStage.1 completed
    obtain ⟨kept, found⟩ := ends.of_completes ended
    exact ⟨⟨kept, fit.memory⟩, found⟩
  · obtain ⟨stage, ended, rfl⟩ := fails_onStage.1 failed
    exact ⟨ends.of_fails ended, fit.memory⟩

theorem upkeep_onStage {act : Act (Stage σ n) β} {course : Course σ n} (fit : course.Fit old J)
    (upkeep : Upkeep J E act) :
    (onStage act).Ends course (fun _ => Course.Fit old J) fun fault => Course.Fit old (E fault) := by
  have ends : act.Ends course.stage (fun _ t => t.Fit J ∧ True) fun fault => Fit (E fault) :=
    (upkeep fit.stage).imp (fun _ _ kept => ⟨kept, trivial⟩) fun _ _ => id
  exact (ends_onStage fit ends).imp (fun _ _ kept => kept.1) fun _ _ => id

theorem ends_greedyRun (upholds : scene.problem.Upholds J E) {course : Course σ n}
    (fit : course.Fit old J) :
    (scene.greedyRun direction).Ends course (fun found after => after.Fit old J ∧ found.Nodup)
      fun fault => Course.Fit old (E fault) := by
  refine ends_bind.2 ((ends_onStage fit (ends_greedy upholds fit.stage)).imp ?_ fun _ _ => id)
  rintro found after ⟨kept, nodup⟩
  exact ⟨⟨kept.stage, fun distinct => (kept.memory distinct).put_greedy nodup⟩, nodup⟩

theorem ends_refine (upholds : scene.problem.Upholds J E) {course : Course σ n} {config : Config}
    {rounds : Nat} (terms : course.stage.run.config = config.toSettings) (fit : course.Fit old J) :
    (scene.refine rounds).Ends course (fun found after => after.Fit old J ∧ found.Nodup)
      fun fault => Course.Fit old (E fault) := by
  have removes : scene.removal.Ends course.stage (fun removed t => t.Fit J ∧ removed.Nodup)
      fun fault => Fit (E fault) := by
    refine ends_removal fit.stage fun fault uncounted => ?_
    rw [terms, Settings.countOf_toSettings] at uncounted
    cases uncounted
  refine ends_bind.2 ((ends_onStage fit removes).imp ?_ fun _ _ => id)
  rintro _ trimmed ⟨fit, _⟩
  refine ends_bind.2 ((upkeep_onStage fit (upkeep_iterative upholds _)).imp ?_ fun _ _ => id)
  intro _ rotated fit
  refine ends_bind.2 ((upkeep_onStage fit (upkeep_completion upholds)).imp ?_ fun _ _ => id)
  intro _ completed fit
  -- What is remembered is the order that the completion phase leaves.
  have nodup := fit.stage.sound.nodup
  exact ⟨⟨fit.stage, fun distinct => (fit.memory distinct).put_refined nodup⟩, nodup⟩

theorem ends_conclude (upholds : scene.problem.Upholds J E) {course : Course σ n}
    {greedy refined : List (Fin n)} (fit : course.Fit old J) (greedyNodup : greedy.Nodup)
    (refinedNodup : refined.Nodup) :
    (scene.conclude config direction greedy refined).Ends course
      (fun best after => after.Fit old J ∧ best.Nodup) fun fault => Course.Fit old (E fault) := by
  -- The better solution is one of the two that were compared.
  have nodup : (better direction greedy refined).Nodup := by
    unfold better
    split
    · exact refinedNodup
    · exact greedyNodup
  have checks : Upkeep J E (scene.isFeasible (better direction greedy refined)) := by
    intro s fit
    exact (ends_isFeasible upholds nodup ⟨rfl, fit.caller⟩).imp (fun _ _ here => here.fit fit.sound)
      fun _ _ here => here.fit fit.sound
  refine ends_bind.2 ((upkeep_onStage fit checks).imp ?_ fun _ _ => id)
  intro feasible checked fit
  have warns : Upkeep J E (warnUnless feasible direction
      (better direction greedy refined).length : Act (Stage σ n) Unit) := by
    cases feasible with
    | true => exact Stage.upkeep_pure _
    | false => exact fun _ fit => ⟨fit.sound, fit.caller⟩
  refine ends_bind.2 ((upkeep_onStage fit warns).imp ?_ fun _ _ => id)
  intro _ warned fit
  refine ends_get_bind.2 (ends_bind.2 ?_)
  have remembered : Course.Fit old J { warned with
      memory := { warned.memory with report := some (reportOf warned.stage.run config direction
        greedy refined (better direction greedy refined) (if feasible then .feasible else .infeasible)) } } :=
    ⟨fit.stage, fun distinct =>
      (fit.memory distinct).put_report ⟨greedyNodup, refinedNodup, nodup⟩⟩
  refine ends_bind.2 ((upkeep_onStage remembered (upkeep_announce _)).imp ?_ fun _ _ => id)
  exact fun _ _ fit => ⟨fit, nodup⟩

/-- However a full run ends, its selection is sound and its memory free of repetitions. -/
theorem ends_fullRun (upholds : scene.problem.Upholds J E) {course : Course σ n}
    (terms : course.stage.run.config = config.toSettings) (fit : course.Fit old J) :
    (scene.fullRun config direction).Ends course (fun best after => after.Fit old J ∧ best.Nodup)
      fun fault => Course.Fit old (E fault) := by
  refine ends_bind.2 ((ends_greedyRun upholds fit).witnessed.imp ?_ fun _ _ => id)
  rintro greedy _ ⟨⟨kept, greedyNodup⟩, completed⟩
  -- The construction has kept the configuration, with which removal does not fail.
  obtain ⟨stage, constructed, rfl⟩ := completes_greedyRun.1 completed
  have terms := (config_of_greedy fit.stage.sound constructed).trans terms
  refine ends_bind.2 ((ends_refine upholds terms kept).imp ?_ fun _ _ => id)
  rintro refined completed ⟨fit, refinedNodup⟩
  exact ends_conclude upholds fit greedyNodup refinedNodup

end Scene

end Carousel
