import Carousel.Proofs.Coupling
import Carousel.Proofs.Run.Growth
import Carousel.Run.Full

/-!
# Coupled runs

Two scenes are coupled when their steps are: the questions to the callers and the small changes of a
stage.  Their phases and their runs are then coupled as well, whatever the coupling compares.
-/

namespace Carousel

open Act (Coupling)

variable {σ τ δ δ' α α' β : Type} {n : Nat}

namespace Scene

/-- The questions and the changes of a greedy run are coupled, and the states show what it goes by. -/
structure Coupled (C : Coupling (Stage σ n) (Stage τ n)) (left : Scene σ δ α n)
    (right : Scene τ δ' α' n) : Prop where
  selection : ∀ ⦃s t⦄, C.states s t → s.run.selection = t.run.selection
  direction : ∀ ⦃s t⦄, C.states s t → s.run.direction = t.run.direction
  scoreCalls : ∀ ⦃s t⦄, C.states s t → s.run.scoreCalls = t.run.scoreCalls
  feasibilityCalls : ∀ ⦃s t⦄, C.states s t → s.run.feasibilityCalls = t.run.feasibilityCalls
  reports : ∀ ⦃s t⦄, C.states s t → left.reports s.run = right.reports t.run
  isFeasible : ∀ positions, C.Holds (left.isFeasible positions) (right.isFeasible positions)
  selectRemaining : C.Holds left.selectRemaining right.selectRemaining
  refused : ∀ refusal : Refusal n,
    C.Holds (throw (refusal.fault (left.problem.label <| left.problem.candidates.element ·)) :
        Act (Stage σ n) Unit)
      (throw (refusal.fault (right.problem.label <| right.problem.candidates.element ·)))
  put : ∀ ⦃s t⦄ selection, C.states s t → (s.run.selection.Sound → selection.Sound) →
    C.Holds (update fun run => { run with selection }) (update fun run => { run with selection })
  turn : ∀ direction, C.Holds (turn direction) (turn direction)
  note : ∀ record, C.Holds (update fun run => { run with history := run.history ++ [record] })
    (update fun run => { run with history := run.history ++ [record] })
  tell : ∀ notice, C.Holds (tell notice) (tell notice)

namespace Coupled

variable {C : Coupling (Stage σ n) (Stage τ n)} {left : Scene σ δ α n} {right : Scene τ δ' α' n}

theorem add (coupled : Coupled C left right) (position : Fin n) :
    C.Holds (left.add position) (right.add position) := by
  refine C.get_bind fun s t states => ?_
  rw [← coupled.selection states]
  cases added : s.run.selection.add position with
  | error refusal => exact coupled.refused refusal
  | ok selection => exact coupled.put selection states fun sound => sound.add added

theorem announce (coupled : Coupled C left right) (notice : Notice) :
    C.Holds (left.announce notice) (right.announce notice) := by
  refine C.get_bind fun s t states => ?_
  rw [coupled.reports states]
  split
  · exact coupled.tell notice
  · exact C.pure _

theorem recorded (coupled : Coupled C left right) (phase : Phase) {body : Act (Stage σ n) β}
    {body' : Act (Stage τ n) β} (rounds : β → Nat) (inner : C.Holds body body') :
    C.Holds (left.recorded phase body rounds) (right.recorded phase body' rounds) := by
  refine C.get_bind fun s t before => C.bind inner fun result => C.get_bind fun s' t' after => ?_
  simp only [coupled.selection before, coupled.scoreCalls before, coupled.feasibilityCalls before,
    coupled.selection after, coupled.scoreCalls after, coupled.feasibilityCalls after]
  exact C.bind (coupled.note _) fun _ => C.bind (coupled.announce _) fun _ => C.pure _

theorem isConstructed (coupled : Coupled C left right) :
    C.Holds left.isConstructed right.isConstructed := by
  refine C.get_bind fun s t states => ?_
  simp only [coupled.direction states, coupled.selection states]
  split
  · exact coupled.isFeasible _
  · exact C.pure _

theorem extend (coupled : Coupled C left right) (passes : Nat) :
    C.Holds (left.extend passes) (right.extend passes) := by
  induction passes with
  | zero => exact C.pure _
  | succ passes ih =>
    refine C.bind coupled.isConstructed fun done => ?_
    cases done with
    | true => exact C.pure _
    | false =>
      refine C.bind coupled.selectRemaining fun choice => ?_
      cases choice with
      | none => exact C.pure _
      | some position => exact C.bind (coupled.add position) fun _ => ih

theorem construction (coupled : Coupled C left right) :
    C.Holds left.construction right.construction :=
  coupled.recorded _ _ (coupled.extend _)

theorem greedy (coupled : Coupled C left right) (direction : Direction) :
    C.Holds (left.greedy direction) (right.greedy direction) := by
  have finish : C.Holds (do return (← get).run.selection.order)
      (do return (← get).run.selection.order) := by
    refine C.get_bind fun s t states => ?_
    rw [coupled.selection states]
    exact C.pure _
  cases direction with
  | minimize => exact C.bind coupled.construction fun _ => finish
  | maximize =>
    exact C.bind (coupled.turn .minimize) fun _ => C.bind coupled.construction fun _ =>
      C.bind (coupled.turn .maximize) fun _ => C.bind coupled.construction fun _ => finish

end Coupled

/-- The steps of the other phases are coupled, too, and the states show what a full run goes by and
what it reports. -/
structure CoupledThrough (C : Coupling (Stage σ n) (Stage τ n)) (left : Scene σ δ α n)
    (right : Scene τ δ' α' n) : Prop extends Coupled C left right where
  beta : ∀ ⦃s t⦄, C.states s t → s.run.config.beta = t.run.config.beta
  lift : ∀ result : Except Fault Int, C.Holds (liftM result) (liftM result)
  rounds : ∀ ⦃s t⦄, C.states s t → s.run.rounds = t.run.rounds
  history : ∀ ⦃s t⦄, C.states s t → s.run.history = t.run.history
  selectFitting : C.Holds left.selectFitting right.selectFitting
  advance : C.Holds (modify fun stage => { stage with iteration := stage.iteration + 1 })
    (modify fun stage => { stage with iteration := stage.iteration + 1 })
  pop : C.Holds (update fun run => { run with selection := run.selection.popOldest.2 })
    (update fun run => { run with selection := run.selection.popOldest.2 })
  count : ∀ begun, C.Holds (update fun run => { run with rounds := run.rounds + begun })
    (update fun run => { run with rounds := run.rounds + begun })

namespace CoupledThrough

variable {C : Coupling (Stage σ n) (Stage τ n)} {left : Scene σ δ α n} {right : Scene τ δ' α' n}

theorem removal (coupled : CoupledThrough C left right) : C.Holds left.removal right.removal := by
  refine coupled.recorded _ _ (C.get_bind fun s t states => ?_)
  have same : s.run.config.countOf = t.run.config.countOf := by
    funext size
    rw [Settings.countOf, Settings.countOf, coupled.beta states]
  simp only [← coupled.selection states, ← same]
  exact C.bind (coupled.lift _) fun _ =>
    C.bind (coupled.put _ states fun sound => sound.dropNewest _) fun _ => C.pure _

theorem mayJoin (coupled : CoupledThrough C left right) (position : Fin n) :
    C.Holds (left.mayJoin position) (right.mayJoin position) := by
  refine C.get_bind fun s t states => ?_
  simp only [coupled.direction states, coupled.selection states]
  split
  · exact C.pure _
  · exact coupled.isFeasible _

theorem round (coupled : CoupledThrough C left right) : C.Holds left.round right.round := by
  refine C.bind coupled.advance fun _ => C.bind coupled.pop fun _ => ?_
  refine C.bind coupled.selectRemaining fun choice => ?_
  cases choice with
  | none => exact C.pure _
  | some position =>
    refine C.bind (C.bind (coupled.mayJoin position) fun yes => ?_) fun _ => C.pure _
    cases yes with
    | true => exact coupled.add position
    | false => exact C.pure _

theorem rotate (coupled : CoupledThrough C left right) (rounds begun : Nat) :
    C.Holds (left.rotate rounds begun) (right.rotate rounds begun) := by
  induction rounds generalizing begun with
  | zero => exact C.pure _
  | succ rounds ih =>
    refine C.bind coupled.round fun more => ?_
    cases more with
    | true => exact ih _
    | false => exact C.pure _

theorem iterative (coupled : CoupledThrough C left right) (rounds : Nat) :
    C.Holds (left.iterative rounds) (right.iterative rounds) :=
  coupled.recorded _ _ <| C.bind (coupled.rotate rounds 0) fun _ =>
    C.bind (coupled.count _) fun _ => C.pure _

theorem repair (coupled : CoupledThrough C left right) (passes : Nat) :
    C.Holds (left.repair passes) (right.repair passes) := by
  induction passes with
  | zero => exact C.pure _
  | succ passes ih =>
    refine C.get_bind fun s t states => ?_
    rw [coupled.selection states]
    refine C.bind (coupled.isFeasible _) fun done => ?_
    cases done with
    | true => exact C.pure _
    | false =>
      refine C.bind coupled.selectRemaining fun choice => ?_
      cases choice with
      | none => exact C.pure _
      | some position => exact C.bind (coupled.add position) fun _ => ih

theorem saturate (coupled : CoupledThrough C left right) (passes : Nat) :
    C.Holds (left.saturate passes) (right.saturate passes) := by
  induction passes with
  | zero => exact C.pure _
  | succ passes ih =>
    rw [saturate_succ, saturate_succ]
    refine C.bind coupled.selectFitting fun choice => ?_
    cases choice with
    | none => exact C.pure _
    | some position => exact C.bind (coupled.add position) fun _ => ih

theorem completion (coupled : CoupledThrough C left right) :
    C.Holds left.completion right.completion := by
  refine coupled.recorded _ _ (C.get_bind fun s t states => ?_)
  rw [coupled.direction states]
  split
  · exact coupled.repair _
  · exact C.bind (coupled.saturate _) fun _ => C.pure _

end CoupledThrough

/-! ## Full runs -/

structure Lifts (C : Coupling (Stage σ n) (Stage τ n)) (D : Coupling (Course σ n) (Course τ n)) :
    Prop where
  stage : ∀ ⦃c d⦄, D.states c d → C.states c.stage d.stage
  onStage : ∀ {β : Type} {act : Act (Stage σ n) β} {act' : Act (Stage τ n) β},
    C.Holds act act' → D.Holds (onStage act) (onStage act')
  greedy : ∀ found, D.Holds (remember fun memory => { memory with greedy := some found })
    (remember fun memory => { memory with greedy := some found })
  refined : ∀ found, D.Holds (remember fun memory => { memory with refined := some found })
    (remember fun memory => { memory with refined := some found })
  report : ∀ found, D.Holds (remember fun memory => { memory with report := some found })
    (remember fun memory => { memory with report := some found })

namespace Lifts

variable {C : Coupling (Stage σ n) (Stage τ n)} {D : Coupling (Course σ n) (Course τ n)}
  {left : Scene σ δ α n} {right : Scene τ δ' α' n} {direction : Direction}

theorem greedyRun (lifts : Lifts C D) (coupled : Coupled C left right) :
    D.Holds (left.greedyRun direction) (right.greedyRun direction) :=
  D.bind (lifts.onStage (coupled.greedy direction)) fun _ =>
    D.bind (lifts.greedy _) fun _ => D.pure _

theorem refine (lifts : Lifts C D) (coupled : CoupledThrough C left right) (rounds : Nat) :
    D.Holds (left.refine rounds) (right.refine rounds) := by
  refine D.bind (lifts.onStage coupled.removal) fun _ => ?_
  refine D.bind (lifts.onStage (coupled.iterative _)) fun _ => ?_
  refine D.bind (lifts.onStage coupled.completion) fun _ => ?_
  refine D.get_bind fun c d states => ?_
  rw [coupled.selection (lifts.stage states)]
  exact D.bind (lifts.refined _) fun _ => D.pure _

theorem warnUnless (lifts : Lifts C D) (coupled : Coupled C left right) (feasible : Bool)
    (size : Nat) :
    D.Holds (Scene.onStage (Scene.warnUnless feasible direction size))
      (Scene.onStage (Scene.warnUnless feasible direction size)) := by
  cases feasible with
  | true => exact lifts.onStage (C.pure _)
  | false => exact lifts.onStage (coupled.tell _)

theorem conclude (lifts : Lifts C D) (coupled : CoupledThrough C left right)
    {config config' : Config} (alpha : config.alpha = config'.alpha) (beta : config.beta = config'.beta)
    (greedy refined : List (Fin n)) :
    D.Holds (left.conclude config direction greedy refined)
      (right.conclude config' direction greedy refined) := by
  refine D.bind (lifts.onStage (coupled.isFeasible _)) fun feasible => ?_
  refine D.bind (lifts.warnUnless coupled.toCoupled _ _) fun _ => D.get_bind fun c d states => ?_
  have stages := lifts.stage states
  simp only [reportOf, alpha, beta, coupled.rounds stages,
    coupled.scoreCalls stages, coupled.feasibilityCalls stages, coupled.history stages]
  exact D.bind (lifts.report _) fun _ => D.bind (lifts.onStage (coupled.announce _)) fun _ =>
    D.pure _

theorem fullRun (lifts : Lifts C D) (coupled : CoupledThrough C left right) {config config' : Config}
    (alpha : config.alpha = config'.alpha) (beta : config.beta = config'.beta) :
    D.Holds (left.fullRun config direction) (right.fullRun config' direction) := by
  refine D.bind (lifts.greedyRun coupled.toCoupled) fun greedy => ?_
  rw [alpha]
  exact D.bind (lifts.refine coupled _) fun _ => lifts.conclude coupled alpha beta _ _

end Lifts

end Scene

end Carousel
