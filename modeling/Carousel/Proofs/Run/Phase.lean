import Carousel.Proofs.Run.Removal
import Carousel.Proofs.Run.Rotation
import Carousel.Proofs.Settings

/-!
# Completed phases

A phase is its body and the record that it leaves.  For each of the four phases the module says what
its body was, and every phase keeps the direction, the configuration, the warnings and the soundness
of the selection.
-/

namespace Carousel

open Act (Completes completes_bind completes_bind_pure completes_get_bind)
open Stage (Kept Still)

variable {σ δ α β : Type} {n : Nat}

namespace Stage

def warnings (s : Stage σ n) : List Notice := s.notices.filter Notice.isWarning

/-- What a phase keeps. -/
structure Past (s t : Stage σ n) : Prop where
  direction : t.run.direction = s.run.direction
  config : t.run.config = s.run.config
  warnings : t.warnings = s.warnings
  sound : t.run.selection.Sound

theorem Past.trans {s m t : Stage σ n} (first : Past s m) (second : Past m t) : Past s t :=
  ⟨second.direction.trans first.direction, second.config.trans first.config,
    second.warnings.trans first.warnings, second.sound⟩

end Stage

/-! ## Records -/

namespace Scene

variable {scene : Scene σ δ α n} {s t : Stage σ n}

def recordOf (phase : Phase) (before after : Run n) (rounds : Nat) : PhaseRecord :=
  { phase
    sizeBefore := before.selection.size
    sizeAfter := after.selection.size
    rounds
    scoreCalls := after.scoreCalls - before.scoreCalls
    feasibilityCalls := after.feasibilityCalls - before.feasibilityCalls }

def announced (scene : Scene σ δ α n) (notice : Notice) (s : Stage σ n) : Stage σ n :=
  { s with notices := s.notices ++ if scene.reports s.run then [notice] else [] }

def noted (scene : Scene σ δ α n) (record : PhaseRecord) (s : Stage σ n) : Stage σ n :=
  scene.announced (.phaseEnded record)
    { s with run := { s.run with history := s.run.history ++ [record] } }

@[simp] theorem selection_noted (record : PhaseRecord) :
    (scene.noted record s).run.selection = s.run.selection := rfl

@[simp] theorem warnings_noted (record : PhaseRecord) :
    (scene.noted record s).warnings = s.warnings := by
  simp only [Stage.warnings, noted, announced, List.filter_append]
  split <;> simp [Notice.isWarning]

theorem completes_announce {notice : Notice} {answer : Unit} :
    (scene.announce notice).Completes s answer t ↔ t = scene.announced notice s := by
  unfold announce announced tell
  rw [completes_get_bind]
  constructor
  · intro told
    split at told
    · rename_i reported
      rw [Act.completes_modify.1 told, if_pos reported]
    · rename_i silent
      rw [(Act.completes_pure.1 told).2, if_neg silent, List.append_nil]
  · rintro rfl
    split
    · exact Act.completes_modify.2 rfl
    · rw [Act.completes_pure, List.append_nil]
      exact ⟨rfl, rfl⟩

theorem completes_recorded {phase : Phase} {body : Act (Stage σ n) β} {rounds : β → Nat}
    {answer : β} :
    (scene.recorded phase body rounds).Completes s answer t ↔
      ∃ m, body.Completes s answer m ∧
        t = scene.noted (recordOf phase s.run m.run (rounds answer)) m := by
  unfold recorded
  simp only [completes_bind, Act.completes_get, completes_update, completes_announce,
    Act.completes_pure]
  constructor
  · rintro ⟨_, _, ⟨rfl, rfl⟩, result, m, done, _, _, ⟨rfl, rfl⟩, _, _, rfl, _, _, rfl, rfl, rfl⟩
    exact ⟨_, done, rfl⟩
  · rintro ⟨m, done, rfl⟩
    exact ⟨_, _, ⟨rfl, rfl⟩, answer, m, done, _, _, ⟨rfl, rfl⟩, (), _, rfl, (), _, rfl, rfl, rfl⟩

theorem not_fails_announce {notice : Notice} {fault : Fault} :
    ¬ (scene.announce notice).Fails s fault t := by
  unfold announce tell
  rw [Act.fails_get_bind]
  split
  · exact Act.not_fails_modify
  · exact Act.not_fails_pure

/-- A fault ends a phase where it ends the body. -/
theorem fails_recorded {phase : Phase} {body : Act (Stage σ n) β} {rounds : β → Nat}
    {fault : Fault} :
    (scene.recorded phase body rounds).Fails s fault t ↔ body.Fails s fault t := by
  unfold recorded update
  simp only [Act.fails_bind, Act.not_fails_get, Act.completes_get, Act.not_fails_modify,
    not_fails_announce, Act.not_fails_pure, and_false, exists_false, false_or, or_false]
  constructor
  · rintro ⟨_, _, ⟨rfl, rfl⟩, failed⟩
    exact failed
  · intro failed
    exact ⟨_, _, ⟨rfl, rfl⟩, failed⟩

open Stage (Past)

/-- A body that keeps what bodies keep makes a phase that keeps what phases keep. -/
theorem past_noted {m : Stage σ n} {record : PhaseRecord} (kept : Kept s m)
    (sound : m.run.selection.Sound) : Past s (scene.noted record m) := by
  refine ⟨kept.direction, kept.config, ?_, sound⟩
  rw [warnings_noted, Stage.warnings, kept.notices, Stage.warnings]

/-! ## The four phases -/

theorem grows_of_construction {answer : Unit} (sound : s.run.selection.Sound)
    (completed : scene.construction.Completes s answer t) :
    ∃ flag m, Grows scene scene.isConstructed scene.selectRemaining s flag m ∧
      t = scene.noted (recordOf .construction s.run m.run 0) m := by
  obtain ⟨m, done, rfl⟩ := completes_recorded.1 completed
  obtain ⟨flag, grows⟩ := grows_of_extend sound (by omega) done
  exact ⟨flag, m, grows, rfl⟩

theorem past_of_construction {answer : Unit} (sound : s.run.selection.Sound)
    (completed : scene.construction.Completes s answer t) : Past s t := by
  obtain ⟨flag, m, grows, rfl⟩ := grows_of_construction sound completed
  have grown := grows.grown asks_isConstructed asks_selectRemaining sound
  exact past_noted grown.toKept grown.sound

/-- The stage after the newest members have left, as many as removal takes away for a share. -/
def trimmed (share : Int) (s : Stage σ n) : Stage σ n :=
  { s with run := { s.run with selection := (s.run.selection.dropNewest
      (removalCount share s.run.selection.size)).2 } }

theorem completes_removal {removed : List (Fin n)} :
    scene.removal.Completes s removed t ↔
      ∃ share, s.run.config.countOf s.run.selection.size = .ok share ∧
        removed = (s.run.selection.dropNewest (removalCount share s.run.selection.size)).1 ∧
        t = scene.noted (recordOf .removal s.run (trimmed share s).run 0) (trimmed share s) := by
  unfold removal
  simp only [completes_recorded, completes_bind, Act.completes_get, Act.completes_lift,
    completes_update, Act.completes_pure]
  constructor
  · rintro ⟨_, ⟨_, _, ⟨rfl, rfl⟩, share, _, ⟨counted, rfl⟩, _, _, rfl, rfl, rfl⟩, rfl⟩
    exact ⟨share, counted, rfl, rfl⟩
  · rintro ⟨share, counted, rfl, rfl⟩
    exact ⟨_, ⟨_, _, ⟨rfl, rfl⟩, share, _, ⟨counted, rfl⟩, (), _, rfl, rfl, rfl⟩, rfl⟩

/-- Removal is at fault only where the share is no number, which no checked configuration allows. -/
theorem fails_removal {fault : Fault} :
    scene.removal.Fails s fault t ↔
      s.run.config.countOf s.run.selection.size = .error fault ∧ t = s := by
  unfold removal update
  rw [fails_recorded, Act.fails_get_bind]
  simp only [Act.fails_bind, Act.fails_lift, Act.not_fails_modify, Act.not_fails_pure, and_false,
    exists_false, or_false]

theorem completes_removal_of_config {config : Config} (checked : s.run.config = config.toSettings)
    {removed : List (Fin n)} :
    scene.removal.Completes s removed t ↔
      removed = (s.run.selection.dropNewest (removalCount
        (config.beta.countOf s.run.selection.size) s.run.selection.size)).1 ∧
      t = scene.noted (recordOf .removal s.run
        (trimmed (config.beta.countOf s.run.selection.size) s).run 0)
          (trimmed (config.beta.countOf s.run.selection.size) s) := by
  rw [completes_removal, checked, Settings.countOf_toSettings]
  simp

theorem order_trimmed (share : Int) (s : Stage σ n) :
    (trimmed share s).run.selection.order = s.run.selection.order.take (s.run.selection.size -
      (removalCount share s.run.selection.size).toNat) := rfl

theorem size_trimmed (beta : Share) (s : Stage σ n) :
    ((trimmed (beta.countOf s.run.selection.size) s).run.selection.size : Int) =
      survivors beta s.run.selection.size := by
  rw [← survivors_eq, Selection.size, order_trimmed, List.length_take]
  exact congrArg Nat.cast (Nat.min_eq_left (Nat.sub_le _ _))

theorem past_of_removal {removed : List (Fin n)} (sound : s.run.selection.Sound)
    (completed : scene.removal.Completes s removed t) : Past s t := by
  obtain ⟨_, _, _, rfl⟩ := completes_removal.1 completed
  exact past_noted ⟨rfl, rfl, rfl, rfl⟩ (sound.dropNewest _)

theorem rotates_of_iterative {rounds count : Nat} (nonempty : 0 < n)
    (sound : s.run.selection.Sound) (completed : (scene.iterative rounds).Completes s count t) :
    count = rounds ∧ ∃ joining m, Rotates scene rounds s joining m ∧
      t = scene.noted (recordOf .iterative s.run m.run rounds)
        { m with run := { m.run with rounds := m.run.rounds + rounds } } := by
  unfold iterative at completed
  simp only [completes_recorded, completes_bind, completes_update, Act.completes_pure]
    at completed
  obtain ⟨_, ⟨begun, m, went, _, _, rfl, rfl, rfl⟩, rfl⟩ := completed
  obtain ⟨counted, joining, rotates⟩ := rotates_of_rotate nonempty sound went
  rw [Nat.zero_add] at counted
  subst counted
  exact ⟨rfl, joining, m, rotates, rfl⟩

theorem past_of_iterative {rounds count : Nat} (nonempty : 0 < n)
    (sound : s.run.selection.Sound) (completed : (scene.iterative rounds).Completes s count t) :
    Past s t := by
  obtain ⟨_, joining, m, rotates, rfl⟩ := rotates_of_iterative nonempty sound completed
  have rotated := rotates.rotated sound
  exact past_noted
    ⟨rotated.direction, rotated.config, rotated.history, rotated.notices⟩ rotated.sound

/-- Completion towards a small selection repairs it and tells of success. -/
theorem grows_of_completion_minimize {flag : Bool} (small : s.run.direction = .minimize)
    (sound : s.run.selection.Sound) (completed : scene.completion.Completes s flag t) :
    ∃ m, Grows scene scene.isRepaired scene.selectRemaining s flag m ∧
      t = scene.noted (recordOf .completion s.run m.run 0) m := by
  obtain ⟨m, body, rfl⟩ := completes_recorded.1 completed
  have done := completes_get_bind.1 body
  rw [small] at done
  exact ⟨m, grows_of_repair sound (by omega) done, rfl⟩

/-- Completion towards a large selection saturates it. -/
theorem grows_of_completion_maximize {flag : Bool} (large : s.run.direction = .maximize)
    (sound : s.run.selection.Sound) (completed : scene.completion.Completes s flag t) :
    flag = true ∧ ∃ m, Grows scene (pure false) scene.selectFitting s false m ∧
      t = scene.noted (recordOf .completion s.run m.run 0) m := by
  obtain ⟨m, body, rfl⟩ := completes_recorded.1 completed
  have done := completes_get_bind.1 body
  rw [large] at done
  obtain ⟨_, saturated, same⟩ := completes_bind_pure.1 done
  exact ⟨same, _, grows_of_saturate sound (by omega) saturated, rfl⟩

theorem past_of_completion {flag : Bool} (sound : s.run.selection.Sound)
    (completed : scene.completion.Completes s flag t) : Past s t := by
  cases direction : s.run.direction with
  | minimize =>
    obtain ⟨m, grows, rfl⟩ := grows_of_completion_minimize direction sound completed
    have grown := grows.grown asks_isRepaired asks_selectRemaining sound
    exact past_noted grown.toKept grown.sound
  | maximize =>
    obtain ⟨_, m, grows, rfl⟩ := grows_of_completion_maximize direction sound completed
    have grown := grows.grown (asks_pure _) asks_selectFitting sound
    exact past_noted grown.toKept grown.sound

end Scene

end Carousel
