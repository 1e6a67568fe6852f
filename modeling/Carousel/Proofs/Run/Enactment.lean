import Carousel.Proofs.Run.Breakage
import Carousel.Proofs.Run.Script

/-!
# Every phase follows its script

The loops of the four phases take the steps of their scripts, one pass after the other, and so do the
phases themselves, since a record asks nothing.
-/

namespace Carousel

open Act (Ends accepted accepted_sublist ends_bind ends_get_bind ends_lift)
open Stage (Follows)

variable {σ δ α β : Type} {n : Nat}

namespace Scene

variable {scene : Scene (Transcript σ α) δ α n} {s t : Stage (Transcript σ α) n} {phase : Phase}
  {direction : Direction} {config : Config}

/-! ## Growing selections -/

theorem enacts_isFeasible (transcribes : scene.Transcribes)
    (tests : ∀ order verdict, Step scene.problem.candidates phase direction order
      [.tested (scene.problem.candidates.elementsAt order) (.ok verdict)] order) :
    scene.Enacts phase direction (do scene.isFeasible (← get).run.selection.order) := by
  intro s sound headed
  rw [ends_get_bind]
  refine (follows_isFeasible transcribes sound s.run.selection.order).witnessed.imp ?_
    fun _ _ unanswered => unanswered.imp False.elim
  rintro verdict t ⟨tested, completed⟩
  refine ⟨tested.imp ?_, (asks_isFeasible _ completed).direction.trans headed⟩
  rintro _ _ ⟨rfl, rfl⟩
  exact .single (tests _ _)

theorem enacts_isConstructed (transcribes : scene.Transcribes) :
    scene.Enacts .construction direction scene.isConstructed := by
  intro s sound headed
  unfold isConstructed
  cases direction with
  | minimize =>
    simp only [ends_get_bind, headed]
    exact ends_get_bind.1 (enacts_isFeasible transcribes (fun _ => .constructed) sound headed)
  | maximize =>
    simp only [ends_get_bind, headed]
    exact enacts_pure false sound headed

/-- The choice among the candidates that are not selected is a step where the script allows it. -/
theorem enacts_joining (transcribes : scene.Transcribes)
    (joins : ∀ {order heard after}, Chooses scene.problem.candidates (unselected order) order heard
      after → Step scene.problem.candidates phase direction order heard after)
    {next : Option (Fin n) → Act (Stage (Transcript σ α) n) β}
    (stops : scene.Enacts phase direction (next none))
    (goes : ∀ position, ∃ rest, scene.Enacts phase direction rest ∧
      next (some position) = scene.add position >>= fun _ => rest) :
    scene.Enacts phase direction (scene.selectRemaining >>= next) := by
  intro s sound headed
  have begun : Follows (fun heard _ => heard = []) s s :=
    Stage.follows_nil sound (Stage.heard_nil rfl rfl rfl) rfl
  unfold selectRemaining
  rw [ends_bind, ends_get_bind, ← ends_bind, sound.remaining_eq]
  refine follows_joining transcribes begun headed (pairwise_unselected _)
    (fun position member => ?_) ?_ stops goes
  · simpa [unselected] using member
  · rintro _ _ _ rfl chosen
    exact .single (joins chosen)

theorem enacts_extend (transcribes : scene.Transcribes) (passes : Nat) :
    scene.Enacts .construction direction (scene.extend passes) := by
  induction passes with
  | zero => exact enacts_pure _
  | succ passes ih =>
    refine (enacts_isConstructed transcribes).bind fun done => ?_
    cases done with
    | true => exact enacts_pure _
    | false => exact enacts_joining transcribes .grown (enacts_pure _) fun position => ⟨_, ih, rfl⟩

theorem enacts_repair (transcribes : scene.Transcribes) (passes : Nat) :
    scene.Enacts .completion .minimize (scene.repair passes) := by
  induction passes with
  | zero => exact enacts_pure _
  | succ passes ih =>
    refine (enacts_isFeasible transcribes fun _ => .repaired).bind fun done => ?_
    cases done with
    | true => exact enacts_pure _
    | false => exact enacts_joining transcribes .mended (enacts_pure _) fun position => ⟨_, ih, rfl⟩

/-! ## Saturation -/

theorem follows_trials (transcribes : scene.Transcribes) (sound : s.run.selection.Sound)
    (order tried before : List (Fin n)) :
    (List.filterAuxM (fun position => scene.isFeasible (order ++ [position])) tried before).Ends s
      (fun kept t => ∃ verdicts, verdicts.length = tried.length ∧
        kept = (accepted tried verdicts).reverse ++ before ∧
        Follows (fun heard after => after = s.run.selection.order ∧
          heard = trial scene.problem.candidates order tried verdicts) s t)
      (Unanswered s) := by
  induction tried generalizing s before with
  | nil =>
    exact ⟨[], rfl, rfl, Stage.follows_nil sound (Stage.heard_nil rfl rfl rfl) ⟨rfl, rfl⟩⟩
  | cons position tried ih =>
    rw [List.filterAuxM, ends_bind]
    refine (follows_isFeasible transcribes sound _).imp (fun yes m first => ?_) fun _ _ => id
    refine (ih first.sound _).imp ?_ fun _ _ rest => first.trans rest fun _ => id
    rintro kept t ⟨verdicts, counted, rfl, rest⟩
    refine ⟨yes :: verdicts, congrArg (· + 1) counted, ?_, first.trans rest ?_⟩
    · cases yes <;> simp [accepted]
    · rintro _ _ _ ⟨same, rfl⟩ ⟨rfl, rfl⟩
      exact ⟨same, rfl⟩

/-- The candidates that fit are those whose trial was accepted. -/
theorem follows_fitting (transcribes : scene.Transcribes) (sound : s.run.selection.Sound) :
    scene.fitting.Ends s
      (fun fit t => ∃ verdicts, verdicts.length = (unselected s.run.selection.order).length ∧
        fit = accepted (unselected s.run.selection.order) verdicts ∧
        Follows (fun heard after => after = s.run.selection.order ∧
          heard = trial scene.problem.candidates s.run.selection.order
            (unselected s.run.selection.order) verdicts) s t)
      (Unanswered s) := by
  unfold fitting List.filterM
  rw [ends_get_bind, ends_bind, sound.remaining_eq]
  refine (follows_trials transcribes sound s.run.selection.order _ []).imp ?_ fun _ _ => id
  rintro kept t ⟨verdicts, counted, rfl, tried⟩
  exact ⟨verdicts, counted, by simp, tried⟩

theorem enacts_saturate (transcribes : scene.Transcribes) (passes : Nat) :
    scene.Enacts .completion .maximize (scene.saturate passes) := by
  -- A pass is one step of the script: trials of all who are not selected, then a choice of those that fit.
  induction passes with
  | zero => exact enacts_pure _
  | succ passes ih =>
    intro s sound headed
    refine ends_bind.2 ((follows_fitting transcribes sound).witnessed.imp ?_
      fun _ _ unanswered => unanswered.imp False.elim)
    rintro fit m ⟨⟨verdicts, counted, fits, tried⟩, completed⟩
    have asked := asks_fitting completed
    have order : m.run.selection.order = s.run.selection.order := by rw [asked.selection]
    have step {later : List (Exchange α)} {last : List (Fin n)}
        (chosen : Chooses scene.problem.candidates fit s.run.selection.order later last) :
        Steps scene.problem.candidates .completion .maximize s.run.selection.order
          (trial scene.problem.candidates s.run.selection.order
            (unselected s.run.selection.order) verdicts ++ later) last :=
      .single (.filled counted (fits ▸ chosen))
    have increasing : fit.Pairwise (· < ·) :=
      fits ▸ (pairwise_unselected _).sublist (accepted_sublist _ _)
    cases fit with
    | nil =>
      refine ⟨tried.imp ?_, asked.direction.trans headed⟩
      rintro _ _ ⟨rfl, rfl⟩
      simpa [sweep] using step ⟨⟨increasing, [], rfl, rfl⟩, .inl rfl⟩
    | cons first others =>
      have fresh (position : Fin n) (member : position ∈ first :: others) :
          position ∉ m.run.selection.order := by
        have tested := (accepted_sublist _ _).mem (fits ▸ member)
        exact order ▸ sound.mem_remaining_iff.1 (sound.remaining_eq ▸ tested)
      refine follows_joining transcribes tried (asked.direction.trans headed) increasing
        fresh ?_ ?_ fun position => ⟨_, ih, rfl⟩
      · rintro _ _ _ ⟨_, rfl⟩ chosen
        exact step (order ▸ chosen)
      · exact fun t sound headed => Stage.follows_nil sound (Stage.heard_nil rfl rfl rfl) .done

/-! ## Rounds -/

/-- The departure of the oldest candidate asks nothing. -/
theorem follows_of_turned {law : List (Exchange α) → List (Fin n) → Prop}
    (follows : Follows law s.turned t) : Follows law s t := by
  obtain ⟨sound, heard, told, lawful⟩ := follows
  exact ⟨sound, heard, ⟨told.exchanges, told.scoreCalls, told.feasibilityCalls⟩, lawful⟩

theorem follows_enter_minimize {position : Fin n} (sound : s.run.selection.Sound)
    (headed : s.run.direction = .minimize) (fresh : position ∉ s.run.selection.order) :
    (scene.enter position).Ends s
      (fun _ t => Follows (fun heard after =>
        heard = [] ∧ after = s.run.selection.order ++ [position]) s t ∧ t.run.direction = .minimize)
      fun _ _ => False := by
  unfold enter mayJoin
  rw [ends_bind, ends_get_bind]
  simp only [headed]
  refine (follows_add sound fresh).imp ?_ fun _ _ => id
  exact fun _ _ joined => ⟨joined.1, joined.2.trans headed⟩

/-- Towards a large selection the chosen candidate joins if its trial is accepted. -/
theorem follows_enter_maximize (transcribes : scene.Transcribes) {position : Fin n}
    (sound : s.run.selection.Sound) (headed : s.run.direction = .maximize)
    (fresh : position ∉ s.run.selection.order) :
    (scene.enter position).Ends s
      (fun _ t => Follows (fun heard after => ∃ verdict : Bool,
        heard = [.tested (scene.problem.candidates.elementsAt
          (s.run.selection.order ++ [position])) (.ok verdict)] ∧
        after = if verdict then s.run.selection.order ++ [position] else s.run.selection.order) s t ∧
          t.run.direction = .maximize)
      (Unanswered s) := by
  unfold enter mayJoin
  rw [ends_bind, ends_get_bind]
  simp only [headed]
  refine (follows_isFeasible transcribes sound _).witnessed.imp ?_ fun _ _ => id
  rintro (_ | _) m ⟨tested, completed⟩
  · refine ⟨tested.imp ?_, (asks_isFeasible _ completed).direction.trans headed⟩
    rintro _ _ ⟨rfl, rfl⟩
    exact ⟨false, rfl, rfl⟩
  · have asked := asks_isFeasible _ completed
    have absent : position ∉ m.run.selection.order := asked.selection ▸ fresh
    refine (follows_add tested.sound absent).imp ?_ fun _ _ => False.elim
    rintro _ t ⟨joined, turned⟩
    refine ⟨tested.trans joined ?_, turned.trans (asked.direction.trans headed)⟩
    rintro _ _ _ ⟨same, rfl⟩ ⟨rfl, rfl⟩
    exact ⟨true, rfl, by rw [same]; rfl⟩

theorem enacts_round (transcribes : scene.Transcribes) :
    scene.Enacts .iterative direction scene.round := by
  intro s sound headed
  have sound := Stage.sound_turned sound
  have swept := follows_select transcribes sound
    (pairwise_unselected s.run.selection.order.tail)
  rw [Stage.order_turned] at swept
  -- Where the scores cannot be ranked, the round ends with its sweep.
  have halted {t : Stage (Transcript σ α) n}
      (swept : Follows (fun heard after => after = s.run.selection.order.tail ∧
        Sweeps scene.problem.candidates (unselected s.run.selection.order.tail)
          s.run.selection.order.tail heard) s.turned t) :
      scene.StepsTo .iterative direction s t := by
    refine (follows_of_turned swept).imp ?_
    rintro _ _ ⟨rfl, swept⟩
    cases direction with
    | minimize => exact .single (.rotated ⟨swept, .inl rfl⟩)
    | maximize => exact .single (.unranked swept)
  refine ends_bind.2 (ends_bind.2 (ends_bind.2 (ends_get_bind.2 ?_)))
  show (scene.select s.turned.run.selection.remaining).Ends s.turned _ _
  rw [sound.remaining_eq, Stage.order_turned]
  refine swept.imp ?_ fun _ _ => halted
  rintro (_ | position) m ⟨swept, selected⟩
  · exact ⟨halted swept, (asks_select _ selected).direction.trans headed⟩
  · have asked := asks_select _ selected
    have member := mem_of_select_some selected
    have order : m.run.selection.order = s.run.selection.order.tail := by
      rw [asked.selection, Stage.order_turned]
    have fresh : position ∉ m.run.selection.order := by
      simpa [order, unselected] using member
    have turned := asked.direction.trans headed
    rw [ends_bind]
    cases direction with
    | minimize =>
      refine (follows_enter_minimize swept.sound turned fresh).imp ?_ fun _ _ => False.elim
      rintro _ t ⟨joined, kept⟩
      refine ⟨(follows_of_turned swept).trans joined ?_, kept⟩
      rintro _ _ _ ⟨_, swept⟩ ⟨rfl, rfl⟩
      rw [order, List.append_nil]
      exact .single (.rotated ⟨swept, .inr ⟨position, member, rfl⟩⟩)
    | maximize =>
      refine (follows_enter_maximize transcribes swept.sound turned fresh).imp ?_
        fun _ _ unanswered => (follows_of_turned swept).trans unanswered fun _ => False.elim
      rintro _ t ⟨joined, kept⟩
      refine ⟨(follows_of_turned swept).trans joined ?_, kept⟩
      rintro _ _ _ ⟨_, swept⟩ ⟨verdict, rfl, rfl⟩
      rw [order]
      exact .single (.retried verdict swept member)

theorem enacts_rotate (transcribes : scene.Transcribes) (rounds begun : Nat) :
    scene.Enacts .iterative direction (scene.rotate rounds begun) := by
  induction rounds generalizing begun with
  | zero => exact enacts_pure _
  | succ rounds ih =>
    refine (enacts_round transcribes).bind fun more => ?_
    cases more with
    | true => exact ih _
    | false => exact enacts_pure _

/-! ## The four phases -/

theorem Enacts.get_bind {next : Stage (Transcript σ α) n → Act (Stage (Transcript σ α) n) β}
    (rest : ∀ s, s.run.direction = direction → scene.Enacts phase direction (next s)) :
    scene.Enacts phase direction (get >>= next) :=
  fun s sound headed => ends_get_bind.2 (rest s headed sound headed)

theorem enacts_announce (notice : Notice) : scene.Enacts phase direction (scene.announce notice) := by
  refine .get_bind fun s _ => ?_
  split
  · exact fun _ sound headed =>
      ⟨Stage.follows_nil sound (Stage.heard_nil rfl rfl rfl) .done, headed⟩
  · exact enacts_pure _

theorem Enacts.recorded {body : Act (Stage (Transcript σ α) n) β} {rounds : β → Nat}
    (inner : scene.Enacts phase direction body) :
    scene.Enacts phase direction (scene.recorded phase body rounds) := by
  refine .get_bind fun s _ => inner.bind fun result => .get_bind fun t _ => ?_
  refine Enacts.bind (fun _ sound headed => ?_) fun _ =>
    (enacts_announce _).bind fun _ => enacts_pure _
  exact ⟨Stage.follows_nil sound (Stage.heard_nil rfl rfl rfl) .done, headed⟩

theorem enacts_construction (transcribes : scene.Transcribes) :
    scene.Enacts .construction direction scene.construction :=
  (enacts_extend transcribes _).recorded

theorem enacts_removal : scene.Enacts .removal direction scene.removal := by
  refine Enacts.recorded fun s sound headed => ?_
  -- A share that is no number keeps removal from its only step.
  have stuck : scene.StepsTo .removal direction s s :=
    Stage.follows_nil sound (Stage.heard_nil rfl rfl rfl) .done
  refine ends_get_bind.2 (ends_bind.2 (ends_lift (fun share _ => ?_) fun _ _ => stuck))
  refine ⟨Stage.follows_nil (sound.dropNewest _) (Stage.heard_nil rfl rfl rfl) ?_, headed⟩
  exact .single (.removed _)

theorem enacts_iterative (transcribes : scene.Transcribes) (rounds : Nat) :
    scene.Enacts .iterative direction (scene.iterative rounds) := by
  refine Enacts.recorded ((enacts_rotate transcribes rounds 0).bind fun begun => ?_)
  refine Enacts.bind (fun _ sound headed => ?_) fun _ => enacts_pure _
  exact ⟨Stage.follows_nil sound (Stage.heard_nil rfl rfl rfl) .done, headed⟩

theorem enacts_completion (transcribes : scene.Transcribes) :
    scene.Enacts .completion direction scene.completion := by
  refine Enacts.recorded (.get_bind fun s headed => ?_)
  rw [headed]
  cases direction with
  | minimize => exact enacts_repair transcribes _
  | maximize => exact (enacts_saturate transcribes _).bind fun _ => enacts_pure _

/-! ## Runs -/

abbrev PhasesTo (scene : Scene (Transcript σ α) δ α n) (plan : List (Phase × Direction))
    (s t : Stage (Transcript σ α) n) : Prop :=
  Follows (Phases scene.problem.candidates plan s.run.selection.order) s t

/-- A run begins with an empty plan. -/
theorem phasesTo_nil (sound : s.run.selection.Sound) : scene.PhasesTo [] s s :=
  Stage.follows_nil sound (Stage.heard_nil rfl rfl rfl) .done

/-- A phase comes after the phases that were carried out before. -/
theorem Enacts.next {act : Act (Stage (Transcript σ α) n) β}
    (enacts : scene.Enacts phase direction act) {m : Stage (Transcript σ α) n}
    {plan : List (Phase × Direction)} (begun : scene.PhasesTo plan s m)
    (headed : m.run.direction = direction) :
    act.Ends m
      (fun _ t => scene.PhasesTo (plan ++ [(phase, direction)]) s t ∧ t.run.direction = direction)
      fun _ => scene.PhasesTo (plan ++ [(phase, direction)]) s := by
  have later {t : Stage (Transcript σ α) n} (steps : scene.StepsTo phase direction m t) :
      scene.PhasesTo (plan ++ [(phase, direction)]) s t :=
    begun.trans steps fun earlier steps => earlier.append (.single steps)
  exact (enacts begun.sound headed).imp (fun _ _ steps => ⟨later steps.1, steps.2⟩) fun _ _ => later

/-- Turning the run to a direction asks nothing. -/
theorem phasesTo_turned {plan : List (Phase × Direction)} {m : Stage (Transcript σ α) n}
    (begun : scene.PhasesTo plan s m) (direction : Direction) :
    scene.PhasesTo plan s { m with run := { m.run with direction } } :=
  begun.moved (Stage.heard_nil rfl rfl rfl) rfl

/-- Phases that a fault keeps a run from show nothing. -/
theorem phasesTo_unreached {plan : List (Phase × Direction)} (begun : scene.PhasesTo plan s t)
    (later : List (Phase × Direction)) : scene.PhasesTo (plan ++ later) s t :=
  begun.imp fun {heard last} phases => by
    simpa using phases.append (.unreached scene.problem.candidates later last)

theorem follows_greedy (transcribes : scene.Transcribes) (sound : s.run.selection.Sound)
    (headed : s.run.direction = direction) :
    (scene.greedy direction).Ends s
      (fun _ t => scene.PhasesTo direction.constructions s t ∧ t.run.direction = direction)
      fun _ => scene.PhasesTo direction.constructions s := by
  cases direction with
  | minimize =>
    exact ends_bind.2 ((enacts_construction transcribes).next (phasesTo_nil sound) headed)
  | maximize =>
    have begun : scene.PhasesTo [] s { s with run := { s.run with direction := .minimize } } :=
      phasesTo_turned (phasesTo_nil sound) .minimize
    refine ends_bind.2 (ends_bind.2 (((enacts_construction transcribes).next begun rfl).imp ?_
      fun _ _ halted => phasesTo_unreached halted [(.construction, .maximize)]))
    rintro _ m ⟨small, _⟩
    have turned := phasesTo_turned small .maximize
    exact ends_bind.2 (ends_bind.2 ((enacts_construction transcribes).next turned rfl))

/-- A full run, as far as it goes: its phases, and then the test of the solution that it returns. -/
def FullRun (u : Universe α n) (direction : Direction) : Script α n := fun order heard last =>
  ∃ searched checked, heard = searched ++ checked ∧
    Phases u (direction.constructions ++ direction.refinements) order searched last ∧
    (checked = [] ∨ ∃ best verdict, checked = [.tested (u.elementsAt best) (.ok verdict)])

abbrev FullRunTo (scene : Scene (Transcript σ α) δ α n) (direction : Direction)
    (s t : Stage (Transcript σ α) n) : Prop :=
  Follows (FullRun scene.problem.candidates direction s.run.selection.order) s t

theorem ends_onStage_iff {act : Act (Stage σ n) β} {course : Course σ n}
    {Q : β → Course σ n → Prop} {E : Fault → Course σ n → Prop} :
    (onStage act).Ends course Q E ↔
      act.Ends course.stage (fun answer stage => Q answer { course with stage })
        fun fault stage => E fault { course with stage } := by
  unfold Ends Act.perform onStage Act.perform
  rcases act course.stage with ⟨_ | _, stage⟩ <;> rfl

theorem follows_refine (transcribes : scene.Transcribes) {course : Course (Transcript σ α) n}
    {rounds : Nat} (begun : scene.PhasesTo direction.constructions s course.stage)
    (headed : course.stage.run.direction = direction) :
    (scene.refine rounds).Ends course
      (fun _ after =>
        scene.PhasesTo (direction.constructions ++ direction.refinements) s after.stage)
      fun _ after =>
        scene.PhasesTo (direction.constructions ++ direction.refinements) s after.stage := by
  have halted {done : List (Phase × Direction)} (later : List (Phase × Direction))
      {t : Stage (Transcript σ α) n}
      (whole : done ++ later = direction.constructions ++ direction.refinements)
      (begun : scene.PhasesTo done s t) :
      scene.PhasesTo (direction.constructions ++ direction.refinements) s t :=
    whole ▸ phasesTo_unreached begun later
  refine ends_bind.2 (ends_onStage_iff.2 ?_)
  refine (enacts_removal.next begun headed).imp ?_
    fun _ _ => halted [(.iterative, direction), (.completion, direction)]
      (by simp [Direction.refinements])
  rintro _ trimmed ⟨begun, headed⟩
  refine ends_bind.2 (ends_onStage_iff.2 (((enacts_iterative transcribes _).next begun headed).imp ?_
    fun _ _ => halted [(.completion, direction)] (by simp [Direction.refinements])))
  rintro _ rotated ⟨begun, headed⟩
  refine ends_bind.2 (ends_onStage_iff.2 (((enacts_completion transcribes).next begun headed).imp ?_
    fun _ _ => halted [] (by simp [Direction.refinements])))
  exact fun _ _ begun => halted [] (by simp [Direction.refinements]) begun.1

/-- After the search a full run ends with the test of the better solution. -/
theorem follows_conclude (transcribes : scene.Transcribes) {course : Course (Transcript σ α) n}
    {greedy refined : List (Fin n)}
    (begun : scene.PhasesTo (direction.constructions ++ direction.refinements) s course.stage) :
    (scene.conclude config direction greedy refined).Ends course
      (fun _ after => scene.FullRunTo direction s after.stage)
      fun _ after => scene.FullRunTo direction s after.stage := by
  have check := follows_isFeasible transcribes begun.sound (better direction greedy refined)
  refine Act.ends_iff.2 ⟨fun best after completed => ?_, fun fault after failed => ?_⟩
  · obtain ⟨rfl, verdict, checked, tested, rfl⟩ := completes_conclude completed
    refine (begun.trans (check.of_completes tested) ?_).moved (Stage.heard_nil rfl rfl rfl) rfl
    rintro searched _ _ phases ⟨rfl, rfl⟩
    exact ⟨searched, _, rfl, phases, .inr ⟨_, verdict, rfl⟩⟩
  · obtain ⟨stage, refused, rfl⟩ := fails_conclude.1 failed
    exact begun.trans (check.of_fails refused) fun _ => False.elim

theorem follows_greedyRun (transcribes : scene.Transcribes) {course : Course (Transcript σ α) n}
    (sound : course.stage.run.selection.Sound) (headed : course.stage.run.direction = direction) :
    (scene.greedyRun direction).Ends course
      (fun _ after => scene.PhasesTo direction.constructions course.stage after.stage ∧
        after.stage.run.direction = direction)
      fun _ after => scene.PhasesTo direction.constructions course.stage after.stage :=
  ends_bind.2 (ends_onStage_iff.2 (follows_greedy transcribes sound headed))

theorem follows_fullRun (config : Config) (transcribes : scene.Transcribes)
    {course : Course (Transcript σ α) n} (sound : course.stage.run.selection.Sound)
    (headed : course.stage.run.direction = direction) :
    (scene.fullRun config direction).Ends course
      (fun _ after => scene.FullRunTo direction course.stage after.stage)
      fun _ after => scene.FullRunTo direction course.stage after.stage := by
  have unchecked {t : Stage (Transcript σ α) n}
      (searched : scene.PhasesTo (direction.constructions ++ direction.refinements) course.stage t) :
      scene.FullRunTo direction course.stage t :=
    searched.imp fun phases => ⟨_, [], (List.append_nil _).symm, phases, .inl rfl⟩
  refine ends_bind.2 ((follows_greedyRun transcribes sound headed).imp ?_
    fun _ _ failed => unchecked (phasesTo_unreached failed _))
  rintro greedy constructed ⟨begun, headed⟩
  refine ends_bind.2 ((follows_refine transcribes begun headed).imp ?_ fun _ _ => unchecked)
  exact fun refined searched begun => follows_conclude transcribes begun

end Scene

end Carousel
