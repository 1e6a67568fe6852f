import Carousel.Proofs.Run.Lockstep

/-!
# Full runs in unison

Two problems are in unison when their questions are in lockstep and leave stages that differ at most
in the states of the callers and by a fixed number of rounds.  Their phases and their full runs are then
in lockstep as well, although what was remembered before may differ.  Callbacks that answer alike, for
the same elements or for those at the same positions, make two problems that are in unison.
-/

namespace Carousel

open Act (Lockstep Parallel)

variable {σ τ δ α α' β β' : Type} {n : Nat}

/-- What was found, or else what was remembered before. -/
def Memory.over (found old : Memory n) : Memory n :=
  { greedy := found.greedy.or old.greedy
    refined := found.refined.or old.refined
    report := found.report.or old.report }

theorem Memory.over_empty (memory : Memory n) : memory.over {} = memory := by
  simp [Memory.over]

/-- The stages differ at most in the states of the callers and by a fixed number of rounds. -/
structure Stage.Alike (offset : Nat) (K : σ → τ → Prop) (s : Stage σ n) (t : Stage τ n) : Prop where
  run : s.run = t.run
  iteration : s.iteration = offset + t.iteration
  generator : s.generator = t.generator
  notices : s.notices = t.notices
  caller : K s.caller t.caller

structure Course.Alike (offset : Nat) (K : σ → τ → Prop) (old : Memory n) (c : Course σ n)
    (d : Course τ n) : Prop where
  stage : Stage.Alike offset K c.stage d.stage
  memory : c.memory = d.memory.over old

/-- In the same surroundings, the questions of both problems are in lockstep. -/
def Problem.Unison (F : Fault → Fault → Prop) (offset : Nat) (K : σ → τ → Prop)
    (left : Problem σ δ α n) (right : Problem τ δ α' n) : Prop :=
  ∀ data config front, Scene.Matched F (Stage.Alike offset K)
    { problem := left, data, config, front } { problem := right, data, config, front }

variable {F : Fault → Fault → Prop} {offset : Nat} {K : σ → τ → Prop}

namespace Scene.Matched

variable {left : Scene σ δ α n} {right : Scene τ δ α' n}

theorem lockstep_update (change : Run n → Run n) :
    Lockstep F (Stage.Alike offset K) (update change) (update change) :=
  .modify fun _ _ alike => { alike with run := congrArg change alike.run }

/-- Scenes are matched if their questions are in lockstep and they report alike. -/
theorem of_alike (refl : ∀ fault, F fault fault)
    (label : ∀ position,
      F (.alreadySelected (left.problem.label (left.problem.candidates.element position)))
        (.alreadySelected (right.problem.label (right.problem.candidates.element position))))
    (reports : ∀ run, left.reports run = right.reports run)
    (isFeasible : ∀ positions,
      Lockstep F (Stage.Alike offset K) (left.isFeasible positions) (right.isFeasible positions))
    (select : ∀ eligible,
      Lockstep F (Stage.Alike offset K) (left.select eligible) (right.select eligible)) :
    Matched F (Stage.Alike offset K) left right where
  refl := refl
  label := label
  isFeasible := isFeasible
  select := select
  selection _ _ alike := by rw [alike.run]
  direction _ _ alike := by rw [alike.run]
  scoreCalls _ _ alike := by rw [alike.run]
  feasibilityCalls _ _ alike := by rw [alike.run]
  reports _ _ alike := by rw [alike.run, reports]
  put _ _ selection alike := { alike with run := by rw [alike.run] }
  turn _ _ direction alike := { alike with run := by rw [alike.run] }
  note _ _ record alike := { alike with run := by rw [alike.run] }
  tell _ _ notice alike := { alike with notices := by rw [alike.notices] }

/-- Scenes that match up to the callers and the count of rounds have coupled phases. -/
theorem coupledThrough (matched : Matched F (Stage.Alike offset K) left right) :
    CoupledThrough (Act.lockstep F (Stage.Alike offset K)) left right where
  toCoupled := matched.coupled
  beta _ _ alike := by rw [alike.run]
  lift := .lift matched.refl
  rounds _ _ alike := by rw [alike.run]
  history _ _ alike := by rw [alike.run]
  selectFitting := by
    refine Lockstep.bind (Lockstep.get_bind fun s t alike => ?_) matched.select
    rw [alike.run]
    exact (Act.lockstep F (Stage.Alike offset K)).filterM (fun _ => matched.isFeasible _) _
  advance := .modify fun _ _ alike =>
    { alike with iteration := congrArg (· + 1) alike.iteration }
  pop := lockstep_update _
  count _ := lockstep_update _

/-! ## Full runs -/

variable {old : Memory n} {direction : Direction}

theorem lockstep_onStage {act : Act (Stage σ n) β} {act' : Act (Stage τ n) β}
    (inner : Lockstep F (Stage.Alike offset K) act act') :
    Lockstep F (Course.Alike offset K old) (onStage act) (onStage act') := by
  intro c d alike
  obtain ⟨same, after⟩ := inner alike.stage
  exact ⟨same, after, alike.memory⟩

theorem lockstep_remember {change : Memory n → Memory n}
    (commutes : ∀ found : Memory n, change (found.over old) = (change found).over old) :
    Lockstep F (Course.Alike offset K old) (remember change : Act (Course σ n) Unit)
      (remember change : Act (Course τ n) Unit) := by
  refine .modify fun c d alike => ⟨alike.stage, ?_⟩
  rw [alike.memory, commutes]

theorem lifts : Lifts (Act.lockstep F (Stage.Alike offset K))
    (Act.lockstep F (Course.Alike offset K old)) where
  stage _ _ alike := alike.stage
  onStage := lockstep_onStage
  greedy _ := lockstep_remember fun _ => rfl
  refined _ := lockstep_remember fun _ => rfl
  report _ := lockstep_remember fun _ => rfl

theorem lockstep_greedyRun (matched : Matched F (Stage.Alike offset K) left right) :
    Lockstep F (Course.Alike offset K old) (left.greedyRun direction)
      (right.greedyRun direction) :=
  lifts.greedyRun matched.coupled

theorem lockstep_fullRun (matched : Matched F (Stage.Alike offset K) left right) (config : Config) :
    Lockstep F (Course.Alike offset K old) (left.fullRun config direction)
      (right.fullRun config direction) :=
  lifts.fullRun matched.coupledThrough rfl rfl

end Scene.Matched

/-! ## Callbacks that answer alike -/

/-- Carried out at related states of the callers, the callbacks give related answers or the same fault
and leave related states. -/
def Callback.Parallel (Q : β → β' → Prop) (K : σ → τ → Prop) (left : Callback σ β)
    (right : Callback τ β') : Prop :=
  ∀ ⦃c d⦄, K c d →
    Related Eq Q (left.perform c).1 (right.perform d).1 ∧ K (left.perform c).2 (right.perform d).2

/-- The callbacks answer the same question alike, and their states stay related.  The left one sees a
count of rounds that is greater by a fixed number. -/
structure Problem.Agrees (offset : Nat) (K : σ → τ → Prop) (left : Problem σ δ α n)
    (right : Problem τ δ α n) : Prop where
  candidates : left.candidates = right.candidates
  label : left.label = right.label
  feasible : ∀ ⦃c d⦄ (view : View δ) selected, K c d →
    ((left.feasible { view with iteration := offset + view.iteration } selected).perform c).1 =
        ((right.feasible view selected).perform d).1 ∧
      K ((left.feasible { view with iteration := offset + view.iteration } selected).perform c).2
        ((right.feasible view selected).perform d).2
  score : ∀ ⦃c d⦄ (view : View δ) selected candidate, K c d →
    ((left.score { view with iteration := offset + view.iteration } selected candidate).perform
        c).1 = ((right.score view selected candidate).perform d).1 ∧
      K ((left.score { view with iteration := offset + view.iteration } selected candidate).perform
        c).2 ((right.score view selected candidate).perform d).2

/-- Asked about the same positions, the callbacks give the same verdicts and related scores.  The left
one sees a count of rounds that is greater by a fixed number. -/
structure Problem.Corresponds (Q : Score → Score → Prop) (offset : Nat) (K : σ → τ → Prop)
    (left : Problem σ δ α n) (right : Problem τ δ α' n) : Prop where
  feasible : ∀ (view : View δ) positions,
    Callback.Parallel Eq K
      (left.feasible { view with iteration := offset + view.iteration }
        (left.candidates.elementsAt positions))
      (right.feasible view (right.candidates.elementsAt positions))
  score : ∀ (view : View δ) positions position,
    Callback.Parallel Q K
      (left.score { view with iteration := offset + view.iteration }
        (left.candidates.elementsAt positions) (left.candidates.element position))
      (right.score view (right.candidates.elementsAt positions) (right.candidates.element position))

def ChosenAlike (n : Nat) (Q : Score → Score → Prop) : Prop :=
  ∀ ⦃scores scores'⦄, List.Forall₂ Q scores scores' →
    ∀ random (candidates : List (Fin n)) generator,
      chooseBest random candidates scores generator = chooseBest random candidates scores' generator

theorem chosenAlike_eq : ChosenAlike n Eq := by
  intro scores scores' equal random candidates generator
  rw [List.forall₂_eq_eq_eq] at equal
  rw [equal]

namespace Scene

variable {left : Scene σ δ α n} {right : Scene τ δ α' n}

theorem parallel_call (refl : ∀ fault, F fault fault) {Q : β → β' → Prop}
    {callback : View δ → Callback σ β} {callback' : View δ → Callback τ β'}
    (answers : ∀ ⦃s t⦄, Stage.Alike offset K s t →
      Callback.Parallel Q K (callback (left.view s)) (callback' (right.view t))) :
    Parallel F Q (Stage.Alike offset K) (left.call callback) (right.call callback') := by
  intro s t alike
  obtain ⟨related, after⟩ := answers alike alike.caller
  exact ⟨related.mapError refl Fault.raised, { alike with caller := after }⟩

end Scene

namespace Problem

variable {Q : Score → Score → Prop} {left : Problem σ δ α n} {right : Problem τ δ α' n}

/-- Callbacks that answer alike make problems that are in unison, up to the names of candidates. -/
theorem Corresponds.unison (corresponds : left.Corresponds Q offset K right)
    (chosen : ChosenAlike n Q) (refl : ∀ fault, F fault fault)
    (label : ∀ position, F (.alreadySelected (left.label (left.candidates.element position)))
      (.alreadySelected (right.label (right.candidates.element position)))) :
    left.Unison F offset K right := by
  intro data config front
  have view_eq ⦃s : Stage σ n⦄ ⦃t : Stage τ n⦄ (alike : Stage.Alike offset K s t) :
      Scene.view { problem := left, data, config, front } s =
        { Scene.view { problem := right, data, config, front } t with
          iteration := offset + t.iteration } := by
    simp only [Scene.view, Scene.direction, alike.run, alike.iteration]
  refine .of_alike refl label (fun run => rfl) (fun positions => ?_) fun eligible => ?_
  · refine .bind (Scene.Matched.lockstep_update _) fun _ => Scene.parallel_call refl ?_
    intro s t alike
    rw [view_eq alike]
    exact corresponds.feasible _ positions
  · refine .get_bind fun s t alike => ?_
    rw [alike.run]
    have rated (position : Fin n) : Parallel F Q (Stage.Alike offset K)
        (Scene.rate { problem := left, data, config, front }
          (left.candidates.elementsAt t.run.selection.order) position)
        (Scene.rate { problem := right, data, config, front }
          (right.candidates.elementsAt t.run.selection.order) position) := by
      refine Parallel.bind (Scene.Matched.lockstep_update _) fun _ _ _ =>
        Scene.parallel_call refl ?_
      intro s t alike
      rw [view_eq alike]
      exact corresponds.score _ _ position
    -- Related scores are ranked alike, and the same generator draws among the best.
    refine Parallel.bind (.mapM rated _) fun scores scores' related => Lockstep.get_bind ?_
    intro s t alike
    rw [alike.run, alike.generator, chosen related]
    exact .bind (.lift refl _) fun _ =>
      .bind (.set ⟨rfl, alike.iteration, rfl, alike.notices, alike.caller⟩) fun _ => .pure _

theorem Agrees.unison {right : Problem τ δ α n} (agrees : left.Agrees offset K right) :
    left.Unison Eq offset K right := by
  have corresponds : left.Corresponds Eq offset K right := by
    constructor
    · intro view positions c d related
      rw [agrees.candidates]
      obtain ⟨same, after⟩ := agrees.feasible view (right.candidates.elementsAt positions) related
      exact ⟨.of_eq (fun _ => rfl) same, after⟩
    · intro view positions position c d related
      rw [agrees.candidates]
      obtain ⟨same, after⟩ := agrees.score view (right.candidates.elementsAt positions)
        (right.candidates.element position) related
      exact ⟨.of_eq (fun _ => rfl) same, after⟩
  refine corresponds.unison chosenAlike_eq (fun _ => rfl) fun position => ?_
  rw [agrees.label, agrees.candidates]

end Problem

end Carousel
