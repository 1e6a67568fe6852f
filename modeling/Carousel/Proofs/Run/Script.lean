import Carousel.Proofs.Ends
import Carousel.Proofs.Run.Phase
import Carousel.Proofs.Transcript

/-!
# What each phase asks

A script says which exchanges a phase may lead to while its selection moves from one order to another.
Every choice of a candidate is one sweep: each eligible candidate is scored once, in enumeration order
and for the elements of the same selection, with no other question in between.  The script of a phase
holds wherever the phase ends, also where scores cannot be ranked, unless the caller raises something.
-/

namespace Carousel

open Act (Ends accepted ends_bind ends_get_bind)
open Stage (Heard)

variable {σ δ α β γ : Type} {n : Nat}

/-! ## Scripts -/

/-- The positions that are not in an order, in enumeration order. -/
def unselected (order : List (Fin n)) : List (Fin n) :=
  (List.finRange n).filter fun position => !order.contains position

theorem mem_unselected {order : List (Fin n)} {position : Fin n} :
    position ∈ unselected order ↔ position ∉ order := by
  simp [unselected]

theorem pairwise_unselected (order : List (Fin n)) : (unselected order).Pairwise (· < ·) :=
  (List.pairwise_lt_finRange n).filter _

theorem Selection.Sound.remaining_eq {s : Selection n} (sound : s.Sound) :
    s.remaining = unselected s.order := by
  refine List.filter_congr fun position _ => ?_
  have marked := sound.marked position
  cases contained : s.contains position with
  | true => simpa [contained] using marked
  | false => simpa [contained] using marked

def sweep (u : Universe α n) (order eligible : List (Fin n)) (scores : List Score) :
    List (Exchange α) :=
  eligible.zipWith (fun position score =>
    .scored (u.elementsAt order) (u.element position) (.ok score)) scores

/-- Each candidate is tried as the newest one of a selection. -/
def trial (u : Universe α n) (order tried : List (Fin n)) (verdicts : List Bool) :
    List (Exchange α) :=
  tried.zipWith (fun position verdict =>
    .tested (u.elementsAt (order ++ [position])) (.ok verdict)) verdicts

abbrev Script (α : Type) (n : Nat) : Type :=
  List (Fin n) → List (Exchange α) → List (Fin n) → Prop

/-- The eligible candidates are swept once, in enumeration order. -/
def Sweeps (u : Universe α n) (eligible order : List (Fin n)) (heard : List (Exchange α)) : Prop :=
  eligible.Pairwise (· < ·) ∧
    ∃ scores, scores.length = eligible.length ∧ heard = sweep u order eligible scores

def Chooses (u : Universe α n) (eligible : List (Fin n)) : Script α n := fun order heard after =>
  Sweeps u eligible order heard ∧
    (after = order ∨ ∃ position ∈ eligible, after = order ++ [position])

/-- One step of a phase.  The eligible candidates are those that are not selected, except in the
completion of a large selection: there they are those of them whose trial immediately before was
accepted. -/
inductive Step (u : Universe α n) : Phase → Direction → Script α n where
  | constructed {order} (verdict : Bool) :
      Step u .construction .minimize order [.tested (u.elementsAt order) (.ok verdict)] order
  | grown {direction order heard after} (chosen : Chooses u (unselected order) order heard after) :
      Step u .construction direction order heard after
  | removed {direction order} (kept : Nat) : Step u .removal direction order [] (order.take kept)
  | rotated {order heard after}
      (chosen : Chooses u (unselected order.tail) order.tail heard after) :
      Step u .iterative .minimize order heard after
  | unranked {order heard} (swept : Sweeps u (unselected order.tail) order.tail heard) :
      Step u .iterative .maximize order heard order.tail
  | retried {order heard position} (verdict : Bool)
      (swept : Sweeps u (unselected order.tail) order.tail heard)
      (eligible : position ∈ unselected order.tail) :
      Step u .iterative .maximize order
        (heard ++ [.tested (u.elementsAt (order.tail ++ [position])) (.ok verdict)])
        (if verdict then order.tail ++ [position] else order.tail)
  | repaired {order} (verdict : Bool) :
      Step u .completion .minimize order [.tested (u.elementsAt order) (.ok verdict)] order
  | mended {order heard after} (chosen : Chooses u (unselected order) order heard after) :
      Step u .completion .minimize order heard after
  | filled {order verdicts heard after} (tried : verdicts.length = (unselected order).length)
      (chosen : Chooses u (accepted (unselected order) verdicts) order heard after) :
      Step u .completion .maximize order (trial u order (unselected order) verdicts ++ heard) after

inductive Steps (u : Universe α n) (phase : Phase) (direction : Direction) : Script α n where
  | done {order} : Steps u phase direction order [] order
  | more {order before middle after last} (first : Step u phase direction order before middle)
      (rest : Steps u phase direction middle after last) :
      Steps u phase direction order (before ++ after) last

inductive Phases (u : Universe α n) : List (Phase × Direction) → Script α n where
  | done {order} : Phases u [] order [] order
  | more {phase direction plan order before middle after last}
      (first : Steps u phase direction order before middle) (rest : Phases u plan middle after last) :
      Phases u ((phase, direction) :: plan) order (before ++ after) last

/-- The constructions of a run: a large one continues from a small one. -/
def Direction.constructions : Direction → List (Phase × Direction)
  | minimize => [(.construction, .minimize)]
  | maximize => [(.construction, .minimize), (.construction, .maximize)]

def Direction.refinements (direction : Direction) : List (Phase × Direction) :=
  [(.removal, direction), (.iterative, direction), (.completion, direction)]

theorem Steps.single {u : Universe α n} {phase : Phase} {direction : Direction}
    {order after : List (Fin n)} {heard : List (Exchange α)}
    (step : Step u phase direction order heard after) : Steps u phase direction order heard after := by
  simpa using Steps.more step .done

theorem Steps.trans {u : Universe α n} {phase : Phase} {direction : Direction}
    {order middle last : List (Fin n)} {before after : List (Exchange α)}
    (first : Steps u phase direction order before middle)
    (second : Steps u phase direction middle after last) :
    Steps u phase direction order (before ++ after) last := by
  induction first with
  | done => exact second
  | more step _ ih =>
    rw [List.append_assoc]
    exact .more step (ih second)

/-- Phases that were not reached show nothing. -/
theorem Phases.unreached (u : Universe α n) (plan : List (Phase × Direction))
    (order : List (Fin n)) : Phases u plan order [] order := by
  induction plan with
  | nil => exact .done
  | cons _ _ ih => exact .more .done ih

theorem Phases.append {u : Universe α n} {plan later : List (Phase × Direction)}
    {order middle last : List (Fin n)} {before after : List (Exchange α)}
    (first : Phases u plan order before middle) (second : Phases u later middle after last) :
    Phases u (plan ++ later) order (before ++ after) last := by
  induction first with
  | done => exact second
  | more steps _ ih =>
    rw [List.append_assoc]
    exact .more steps (ih second)

theorem Phases.single {u : Universe α n} {phase : Phase} {direction : Direction}
    {order last : List (Fin n)} {heard : List (Exchange α)}
    (steps : Steps u phase direction order heard last) :
    Phases u [(phase, direction)] order heard last := by
  simpa using Phases.more steps .done

/-! ## Stages that follow a script -/

namespace Stage

/-- The selection is sound.  What the caller has heard since, and the order of the selection, are as
the law says, if all of it was answered. -/
structure Follows (law : List (Exchange α) → List (Fin n) → Prop) (s t : Stage (Transcript σ α) n) :
    Prop where
  sound : t.run.selection.Sound
  heard : ∃ heard, Heard heard s t ∧
    (heard.all Exchange.isAnswered = true → law heard t.run.selection.order)

variable {s m t : Stage (Transcript σ α) n} {law before after : List (Exchange α) → List (Fin n) → Prop}

theorem Follows.imp (follows : Follows before s t)
    (weaker : ∀ {heard last}, before heard last → law heard last) : Follows law s t := by
  obtain ⟨sound, heard, told, lawful⟩ := follows
  exact ⟨sound, heard, told, fun answered => weaker (lawful answered)⟩

theorem Follows.trans (first : Follows before s m) (second : Follows after m t)
    (joined : ∀ {heard later last}, before heard m.run.selection.order → after later last →
      law (heard ++ later) last) : Follows law s t := by
  obtain ⟨_, heard, told, lawful⟩ := first
  obtain ⟨sound, later, told', lawful'⟩ := second
  refine ⟨sound, heard ++ later, told.trans told', fun answered => ?_⟩
  rw [List.all_append, Bool.and_eq_true] at answered
  exact joined (lawful answered.1) (lawful' answered.2)

/-- Nothing was asked, and the law holds of that. -/
theorem follows_nil (sound : t.run.selection.Sound) (told : Heard [] s t)
    (lawful : law [] t.run.selection.order) : Follows law s t :=
  ⟨sound, [], told, fun _ => lawful⟩

/-- The law does not see what else changes. -/
theorem Follows.moved (follows : Follows law s m) (told : Heard [] m t)
    (selection : t.run.selection = m.run.selection) : Follows law s t := by
  obtain ⟨sound, heard, told', lawful⟩ := follows
  rw [← selection] at sound lawful
  exact ⟨sound, heard, List.append_nil heard ▸ told'.trans told, lawful⟩

end Stage

open Stage (Asked Follows)

namespace Scene

structure Transcribes (scene : Scene (Transcript σ α) δ α n) : Prop where
  feasible : ∀ view selected transcript, ∃ answer caller,
    (scene.problem.feasible view selected).perform transcript =
      (answer, { caller, exchanges := transcript.exchanges ++ [.tested selected answer] })
  score : ∀ view selected candidate transcript, ∃ answer caller,
    (scene.problem.score view selected candidate).perform transcript =
      (answer, { caller, exchanges := transcript.exchanges ++ [.scored selected candidate answer] })

theorem transcribes_transcribed (problem : Problem σ δ α n) (data : δ) (config : Config)
    (front : Front) :
    Transcribes { problem := problem.transcribed, data, config, front } where
  feasible _ _ _ := ⟨_, _, rfl⟩
  score _ _ _ _ := ⟨_, _, rfl⟩

variable {scene : Scene (Transcript σ α) δ α n} {s t : Stage (Transcript σ α) n}

/-- A call leaves what the callback answers and the state that it leaves to the caller. -/
theorem ends_call_iff {scene : Scene σ δ α n} {s : Stage σ n} {callback : View δ → Callback σ β}
    {Q : β → Stage σ n → Prop} {E : Fault → Stage σ n → Prop} :
    (scene.call callback).Ends s Q E ↔
      match (callback (scene.view s)).perform s.caller with
      | (.ok answer, caller) => Q answer { s with caller }
      | (.error raised, caller) => E (.raised raised) { s with caller } := by
  unfold Ends Act.perform call
  rcases (callback (scene.view s)).perform s.caller with ⟨_ | _, caller⟩ <;> rfl

abbrev Unanswered (s : Stage (Transcript σ α) n) : Fault → Stage (Transcript σ α) n → Prop :=
  fun _ => Follows (fun _ _ => False) s

theorem follows_isFeasible (transcribes : scene.Transcribes) (sound : s.run.selection.Sound)
    (positions : List (Fin n)) :
    (scene.isFeasible positions).Ends s
      (fun verdict => Follows (fun heard after => after = s.run.selection.order ∧
        heard = [.tested (scene.problem.candidates.elementsAt positions) (.ok verdict)]) s)
      (Unanswered s) := by
  refine ends_bind.2 (ends_call_iff.2 ?_)
  obtain ⟨answer, caller, performed⟩ := transcribes.feasible _ _ _
  rw [performed]
  cases answer with
  | error raised => exact ⟨sound, _, ⟨rfl, rfl, rfl⟩, nofun⟩
  | ok verdict => exact ⟨sound, _, ⟨rfl, rfl, rfl⟩, fun _ => ⟨rfl, rfl⟩⟩

theorem follows_rate (transcribes : scene.Transcribes) (sound : s.run.selection.Sound)
    (order : List (Fin n)) (position : Fin n) :
    (scene.rate (scene.problem.candidates.elementsAt order) position).Ends s
      (fun score => Follows (fun heard after => after = s.run.selection.order ∧
        heard = sweep scene.problem.candidates order [position] [score]) s)
      (Unanswered s) := by
  refine ends_bind.2 (ends_call_iff.2 ?_)
  obtain ⟨answer, caller, performed⟩ := transcribes.score _ _ _ _
  rw [performed]
  cases answer with
  | error raised => exact ⟨sound, _, ⟨rfl, rfl, rfl⟩, nofun⟩
  | ok score => exact ⟨sound, _, ⟨rfl, rfl, rfl⟩, fun _ => ⟨rfl, rfl⟩⟩

theorem follows_rates (transcribes : scene.Transcribes) (sound : s.run.selection.Sound)
    (order eligible : List (Fin n)) :
    (eligible.mapM (scene.rate (scene.problem.candidates.elementsAt order))).Ends s
      (fun scores => Follows (fun heard after => after = s.run.selection.order ∧
        scores.length = eligible.length ∧
        heard = sweep scene.problem.candidates order eligible scores) s)
      (Unanswered s) := by
  induction eligible generalizing s with
  | nil => exact Stage.follows_nil sound (Stage.heard_nil rfl rfl rfl) ⟨rfl, rfl, rfl⟩
  | cons position eligible ih =>
    rw [List.mapM_cons, ends_bind]
    refine (follows_rate transcribes sound order position).imp (fun score m first => ?_) fun _ _ => id
    rw [ends_bind]
    refine (ih first.sound).imp (fun scores t rest => ?_) fun _ _ rest =>
      first.trans rest fun _ => id
    refine first.trans rest ?_
    rintro _ _ _ ⟨same, rfl⟩ ⟨rfl, counted, rfl⟩
    exact ⟨same, congrArg (· + 1) counted, rfl⟩

/-- A selection sweeps the eligible candidates, also where their scores cannot be ranked. -/
theorem follows_select (transcribes : scene.Transcribes) (sound : s.run.selection.Sound)
    {eligible : List (Fin n)} (increasing : eligible.Pairwise (· < ·)) :
    (scene.select eligible).Ends s
      (fun choice t =>
        Follows (fun heard after => after = s.run.selection.order ∧
          Sweeps scene.problem.candidates eligible s.run.selection.order heard) s t ∧
            (scene.select eligible).Completes s choice t)
      fun _ => Follows (fun heard after => after = s.run.selection.order ∧
        Sweeps scene.problem.candidates eligible s.run.selection.order heard) s := by
  refine Ends.witnessed ?_
  unfold select
  rw [ends_get_bind, ends_bind]
  refine (follows_rates transcribes sound s.run.selection.order eligible).imp ?_
    fun _ _ unanswered => unanswered.imp False.elim
  intro scores m rated
  have swept : Follows (fun heard after => after = s.run.selection.order ∧
      Sweeps scene.problem.candidates eligible s.run.selection.order heard) s m :=
    rated.imp fun ⟨same, counted, heard⟩ => ⟨same, increasing, scores, counted, heard⟩
  rw [ends_get_bind, ends_bind]
  refine Act.ends_lift (fun chosen _ => ?_) fun _ _ => swept
  exact swept.moved (Stage.heard_nil rfl rfl rfl) rfl

/-! ## Phases that follow their script -/

abbrev StepsTo (scene : Scene (Transcript σ α) δ α n) (phase : Phase) (direction : Direction)
    (s t : Stage (Transcript σ α) n) : Prop :=
  Follows (Steps scene.problem.candidates phase direction s.run.selection.order) s t

/-- Begun in the direction of the phase, the action takes steps of the phase, however it ends. -/
def Enacts (scene : Scene (Transcript σ α) δ α n) (phase : Phase) (direction : Direction)
    (act : Act (Stage (Transcript σ α) n) β) : Prop :=
  ∀ ⦃s⦄, s.run.selection.Sound → s.run.direction = direction →
    act.Ends s
      (fun _ t => scene.StepsTo phase direction s t ∧ t.run.direction = direction)
      fun _ => scene.StepsTo phase direction s

variable {phase : Phase} {direction : Direction}

theorem enacts_pure (answer : β) : scene.Enacts phase direction (pure answer) :=
  fun _ sound headed => ⟨Stage.follows_nil sound (Stage.heard_nil rfl rfl rfl) .done, headed⟩

/-- What goes on from where steps of the phase have led, takes steps of the phase. -/
theorem Enacts.after {act : Act (Stage (Transcript σ α) n) β}
    (enacts : scene.Enacts phase direction act) {m : Stage (Transcript σ α) n}
    (begun : scene.StepsTo phase direction s m)
    (headed : m.run.direction = direction) :
    act.Ends m
      (fun _ t => scene.StepsTo phase direction s t ∧ t.run.direction = direction)
      fun _ => scene.StepsTo phase direction s := by
  refine (enacts begun.sound headed).imp ?_ fun _ _ later => begun.trans later Steps.trans
  rintro _ t ⟨later, turned⟩
  exact ⟨begun.trans later Steps.trans, turned⟩

theorem Enacts.bind {act : Act (Stage (Transcript σ α) n) β}
    {next : β → Act (Stage (Transcript σ α) n) γ} (first : scene.Enacts phase direction act)
    (rest : ∀ answer, scene.Enacts phase direction (next answer)) :
    scene.Enacts phase direction (act >>= next) := by
  intro s sound headed
  refine ends_bind.2 ((first sound headed).imp ?_ fun _ _ => id)
  exact fun answer m begun => (rest answer).after begun.1 begun.2

theorem follows_add {position : Fin n} (sound : s.run.selection.Sound)
    (fresh : position ∉ s.run.selection.order) :
    (scene.add position).Ends s
      (fun _ t => Follows (fun heard after =>
        heard = [] ∧ after = s.run.selection.order ++ [position]) s t ∧
          t.run.direction = s.run.direction)
      fun _ _ => False := by
  unfold add
  rw [ends_get_bind]
  have joined := (Selection.add_eq_ok_iff sound).2 ⟨fresh, rfl⟩
  rw [joined]
  exact ⟨Stage.follows_nil (sound.add joined) (Stage.heard_nil rfl rfl rfl) ⟨rfl, rfl⟩, rfl⟩

/-- A choice among eligible candidates of which one may join, and what goes on from there. -/
theorem follows_joining (transcribes : scene.Transcribes) {eligible : List (Fin n)}
    {m : Stage (Transcript σ α) n} {before : List (Exchange α) → List (Fin n) → Prop}
    (begun : Follows before s m) (headed : m.run.direction = direction)
    (increasing : eligible.Pairwise (· < ·))
    (fresh : ∀ position ∈ eligible, position ∉ m.run.selection.order)
    (joins : ∀ {heard later last}, before heard m.run.selection.order →
      Chooses scene.problem.candidates eligible m.run.selection.order later last →
        Steps scene.problem.candidates phase direction s.run.selection.order (heard ++ later) last)
    {next : Option (Fin n) → Act (Stage (Transcript σ α) n) β}
    (stops : scene.Enacts phase direction (next none))
    (goes : ∀ position, ∃ rest, scene.Enacts phase direction rest ∧
      next (some position) = scene.add position >>= fun _ => rest) :
    (scene.select eligible >>= next).Ends m
      (fun _ t => scene.StepsTo phase direction s t ∧ t.run.direction = direction)
      fun _ => scene.StepsTo phase direction s := by
  have without {t : Stage (Transcript σ α) n}
      (swept : Follows (fun heard after => after = m.run.selection.order ∧
        Sweeps scene.problem.candidates eligible m.run.selection.order heard) m t) :
      scene.StepsTo phase direction s t :=
    begun.trans swept fun earlier ⟨same, swept⟩ => joins earlier ⟨swept, .inl same⟩
  refine ends_bind.2 ((follows_select transcribes begun.sound increasing).imp ?_
    fun _ _ swept => without swept)
  rintro (_ | position) t ⟨swept, selected⟩
  · exact stops.after (without swept) ((asks_select _ selected).direction.trans headed)
  · have asked := asks_select _ selected
    have member := mem_of_select_some selected
    obtain ⟨rest, enacts, same⟩ := goes position
    rw [same]
    have absent : position ∉ t.run.selection.order := asked.selection ▸ fresh position member
    refine ends_bind.2 ((follows_add swept.sound absent).imp ?_ fun _ _ => False.elim)
    rintro _ a ⟨joined, turned⟩
    refine enacts.after ?_ (turned.trans (asked.direction.trans headed))
    refine begun.trans (swept.trans joined ?_) joins
    rintro heard _ _ ⟨order, swept⟩ ⟨rfl, rfl⟩
    rw [List.append_nil]
    exact ⟨swept, .inr ⟨position, member, by rw [order]⟩⟩

end Scene

end Carousel
