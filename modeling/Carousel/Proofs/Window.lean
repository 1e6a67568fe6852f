import Carousel.Proofs.Run.Partway
import Carousel.Proofs.Run.Preference
import Carousel.Proofs.Solver

/-!
# The iterative phase is a sliding window

A round evicts the oldest member, if there is one, and lets the best candidate outside the rest join at the
other end, if it may.  Over any number of rounds the selection is therefore a window on the start followed
by all who have joined, and as many members have left at its front as rounds began with one.
-/

namespace Carousel

open Act (fails_bind)
open Stage (Kept)

variable {σ δ α : Type} {n : Nat}

/-- One round, as the selection sees it: who was selected when it began, who was chosen, and whether the
chosen one has joined. -/
structure Turn (n : Nat) where
  before : List (Fin n)
  chosen : Fin n
  joins : Bool

namespace Turn

variable {turn : Turn n} {turns : List (Turn n)}

def after (turn : Turn n) : List (Fin n) :=
  turn.before.tail ++ if turn.joins then [turn.chosen] else []

def joiners (turns : List (Turn n)) : List (Fin n) := (turns.filter Turn.joins).map Turn.chosen

def evictions (turns : List (Turn n)) : Nat := turns.countP fun turn => !turn.before.isEmpty

theorem after_append_joiners :
    turn.after ++ joiners turns = turn.before.tail ++ joiners (turn :: turns) := by
  cases joins : turn.joins <;> simp [after, joiners, joins]

theorem evictions_cons :
    evictions (turn :: turns) = evictions turns + if turn.before = [] then 0 else 1 := by
  rw [evictions, List.countP_cons]
  cases turn.before <;> rfl

theorem length_after_le : turn.after.length ≤ max turn.before.length 1 := by
  cases joins : turn.joins with
  | true =>
    simp [after, joins]
    omega
  | false => simp [after, joins]

theorem length_after_of_joins (joins : turn.joins = true) :
    turn.after.length = max turn.before.length 1 := by
  simp [after, joins]
  omega

end Turn

open Turn (joiners evictions)

namespace Scene

variable {scene : Scene σ δ α n} {s t : Stage σ n} {turn : Turn n} {turns : List (Turn n)} {rounds : Nat}

/-- The turn is what one round does between two stages.  The chosen one is best among those who are outside
after the eviction; towards a small selection it joins, and towards a large one if the test of the selection
with it says yes. -/
structure Took (scene : Scene σ δ α n) (s : Stage σ n) (turn : Turn n) (t : Stage σ n) : Prop
    extends Kept s t where
  went : scene.round.Completes s true t
  before : turn.before = s.run.selection.order
  chosen : ∃ m, scene.Prefers (unselected turn.before.tail) s.turned turn.chosen m ∧
    (s.run.direction = .minimize → turn.joins = true) ∧
    (s.run.direction = .maximize → ∃ w,
      (scene.isFeasible (turn.before.tail ++ [turn.chosen])).Completes m turn.joins w)
  after : t.run.selection.order = turn.after

/-- The turns are what several rounds do, one after the other. -/
inductive Turns (scene : Scene σ δ α n) : Stage σ n → List (Turn n) → Stage σ n → Prop where
  | rest {s : Stage σ n} : Turns scene s [] s
  | turn {s m t : Stage σ n} {turn : Turn n} {turns : List (Turn n)} (first : Took scene s turn m)
      (later : Turns scene m turns t) : Turns scene s (turn :: turns) t

/-- A fault ends a round after some turns: in its choice, or in the test that only a large selection asks
for. -/
inductive RoundFault (scene : Scene σ δ α n) (s : Stage σ n) (turns : List (Turn n)) (fault : Fault)
    (t : Stage σ n) : Prop where
  | unchosen {m : Stage σ n} (went : Turns scene s turns m)
      (balks : Balks scene (unselected m.run.selection.order.tail) m.turned fault t)
  | untested {m w : Stage σ n} {chosen : Fin n} (went : Turns scene s turns m)
      (large : s.run.direction = .maximize)
      (prefers : scene.Prefers (unselected m.run.selection.order.tail) m.turned chosen w)
      (raised : (scene.isFeasible (m.run.selection.order.tail ++ [chosen])).Fails w fault t)

/-! ## Rounds are turns -/

section

variable {position : Fin n} {m w a : Stage σ n}

theorem chosen_of_answered {yes : Bool} (sound : s.run.selection.Sound)
    (selected : scene.selectRemaining.Completes s.turned (some position) m)
    (answered : (scene.mayJoin position).Completes m yes w) :
    ∃ m, scene.Prefers (unselected s.run.selection.order.tail) s.turned position m ∧
      (s.run.direction = .minimize → yes = true) ∧
      (s.run.direction = .maximize → ∃ w,
        (scene.isFeasible (s.run.selection.order.tail ++ [position])).Completes m yes w) := by
  have asked := asks_selectRemaining selected
  have prefers := prefers_of_select (completes_selectRemaining.1 selected)
  rw [(Stage.sound_turned sound).remaining_eq, Stage.order_turned] at prefers
  -- Who is asked whether the chosen one may join depends on the direction alone.
  refine ⟨m, prefers, fun small => ?_, fun large => ⟨w, ?_⟩⟩
  · exact ((mayJoin_minimize (asked.direction.trans small)).1 answered).1
  · rw [mayJoin_maximize (asked.direction.trans large), asked.selection] at answered
    exact Stage.order_turned ▸ answered

theorem took_of_taken (sound : s.run.selection.Sound)
    (selected : scene.selectRemaining.Completes s.turned (some position) m)
    (allowed : (scene.mayJoin position).Completes m true w)
    (added : (scene.add position).Completes w () a) :
    Took scene s ⟨s.run.selection.order, position, true⟩ a := by
  have joined := joined_of_taken sound selected allowed added
  have entered : (scene.enter position).Completes m () a :=
    completes_enter.2 (.inl ⟨w, allowed, added⟩)
  refine ⟨⟨joined.direction, joined.config, joined.history, joined.notices⟩,
    completes_round.2 ⟨_, m, selected, entered, rfl⟩, rfl, chosen_of_answered sound selected allowed, ?_⟩
  rw [joined.order, Stage.order_turned]
  rfl

theorem took_of_refused (sound : s.run.selection.Sound)
    (selected : scene.selectRemaining.Completes s.turned (some position) m)
    (denied : (scene.mayJoin position).Completes m false a) :
    Took scene s ⟨s.run.selection.order, position, false⟩ a := by
  have asked := asked_of_refused selected denied
  have entered : (scene.enter position).Completes m () a := completes_enter.2 (.inr denied)
  refine ⟨⟨asked.direction, asked.config, asked.history, asked.notices⟩,
    completes_round.2 ⟨_, m, selected, entered, rfl⟩, rfl, chosen_of_answered sound selected denied, ?_⟩
  rw [asked.selection, Stage.order_turned]
  exact (List.append_nil _).symm

end

theorem turns_of_rotates {joining : List (Fin n)} (rotates : Rotates scene rounds s joining t)
    (sound : s.run.selection.Sound) : ∃ turns, turns.length = rounds ∧ Turns scene s turns t := by
  induction rotates with
  | rest => exact ⟨[], rfl, .rest⟩
  | taken selected allowed added _ ih =>
    obtain ⟨turns, counted, went⟩ := ih (joined_of_taken sound selected allowed added).sound
    exact ⟨_ :: turns, congrArg (· + 1) counted, .turn (took_of_taken sound selected allowed added) went⟩
  | refused selected denied _ ih =>
    have asked := asked_of_refused selected denied
    obtain ⟨turns, counted, went⟩ := ih (asked.sound (Stage.sound_turned sound))
    exact ⟨_ :: turns, congrArg (· + 1) counted, .turn (took_of_refused sound selected denied) went⟩

/-! ## What turns amount to -/

namespace Turns

theorem window (went : Turns scene s turns t) :
    t.run.selection.order = (s.run.selection.order ++ joiners turns).drop (evictions turns) := by
  induction went with
  | rest => simp [joiners, evictions]
  | @turn s m t turn turns first _ ih =>
    rw [ih, first.after, Turn.after_append_joiners, Turn.evictions_cons, ← first.before]
    cases turn.before <;> simp

theorem min_le_evictions (went : Turns scene s turns t) :
    min turns.length s.run.selection.size ≤ evictions turns := by
  induction went with
  | rest => simp
  | @turn s m t turn turns first _ ih =>
    have left : turn.before.length - 1 ≤ m.run.selection.size := by
      simp [Selection.size, first.after, Turn.after]
    rw [Turn.evictions_cons, List.length_cons, Selection.size, ← first.before]
    cases before : turn.before with
    | nil => simp
    | cons oldest rest =>
      -- A member leaves, so the later rounds have one less to evict.
      rw [before, List.length_cons] at left
      simp only [List.length_cons, reduceCtorEq, if_false]
      omega

theorem renewed (went : Turns scene s turns t) (enough : s.run.selection.size ≤ turns.length) :
    t.run.selection.order <:+ joiners turns := by
  have gone := went.min_le_evictions
  have none : s.run.selection.order.drop (evictions turns) = [] :=
    List.drop_eq_nil_of_le (show s.run.selection.size ≤ _ by omega)
  rw [went.window, List.drop_append, none, List.nil_append]
  exact List.drop_suffix _ _

theorem size_le (went : Turns scene s turns t) :
    (∀ turn ∈ turns, turn.after.length ≤ max s.run.selection.size 1) ∧
      t.run.selection.size ≤ max s.run.selection.size 1 := by
  induction went with
  | rest => exact ⟨by simp, by omega⟩
  | @turn s m t turn turns first _ ih =>
    have bound : turn.after.length ≤ max s.run.selection.size 1 := by
      rw [Selection.size, ← first.before]
      exact Turn.length_after_le
    have size : m.run.selection.size = turn.after.length := congrArg List.length first.after
    refine ⟨fun other member => ?_, by omega⟩
    rcases List.mem_cons.1 member with rfl | member
    · exact bound
    · have := ih.1 other member
      omega

theorem joins_of_minimize (went : Turns scene s turns t) (small : s.run.direction = .minimize) :
    ∀ turn ∈ turns, turn.joins = true := by
  induction went with
  | rest => simp
  | @turn s m t turn turns first _ ih =>
    intro other member
    rcases List.mem_cons.1 member with rfl | member
    · obtain ⟨_, _, joins, _⟩ := first.chosen
      exact joins small
    · exact ih (first.direction.trans small) other member

theorem size_eq (went : Turns scene s turns t) (joins : ∀ turn ∈ turns, turn.joins = true)
    (nonempty : 0 < s.run.selection.size) :
    (∀ turn ∈ turns, turn.after.length = s.run.selection.size) ∧
      t.run.selection.size = s.run.selection.size := by
  induction went with
  | rest => exact ⟨by simp, rfl⟩
  | @turn s m t turn turns first _ ih =>
    have grown := Turn.length_after_of_joins (joins turn List.mem_cons_self)
    have size : m.run.selection.size = turn.after.length := congrArg List.length first.after
    have start : turn.before.length = s.run.selection.size := congrArg List.length first.before
    obtain ⟨each, last⟩ := ih (fun other member => joins other (.tail _ member)) (by omega)
    refine ⟨fun other member => ?_, by omega⟩
    rcases List.mem_cons.1 member with rfl | member
    · omega
    · have := each other member
      omega

end Turns

/-! ## Why the phase ends -/

variable {fault : Fault}

theorem fails_mayJoin {position : Fin n} (failed : (scene.mayJoin position).Fails s fault t) :
    s.run.direction = .maximize ∧
      (scene.isFeasible (s.run.selection.extended position)).Fails s fault t := by
  have asking := Act.fails_get_bind.1 failed
  cases direction : s.run.direction with
  | minimize =>
    simp only [direction] at asking
    exact absurd asking Act.not_fails_pure
  | maximize =>
    simp only [direction] at asking
    exact ⟨rfl, asking⟩

theorem fault_of_round (went : Turns scene s turns t) (headed : t.run.direction = s.run.direction)
    (sound : t.run.selection.Sound) {a : Stage σ n} (failed : scene.round.Fails t fault a) :
    RoundFault scene s turns fault a := by
  have turned := Stage.sound_turned sound
  unfold round at failed
  rcases fails_bind.1 failed with impossible | ⟨_, _, counted, failed⟩
  · exact absurd impossible Act.not_fails_modify
  rcases fails_bind.1 failed with impossible | ⟨_, _, evicted, failed⟩
  · exact absurd impossible Act.not_fails_modify
  -- Counting the round and the eviction are never at fault, and lead to the stage of the choice.
  rw [completes_update.1 evicted, Act.completes_modify.1 counted] at failed
  change (scene.selectRemaining >>= _).Fails t.turned fault a at failed
  rcases fails_bind.1 failed with choosing | ⟨choice, m, selected, failed⟩
  · have balks := fails_selectRemaining.1 choosing
    rw [turned.remaining_eq, Stage.order_turned] at balks
    exact .unchosen went balks
  cases choice with
  | none => exact absurd failed Act.not_fails_pure
  | some position =>
    have asked := asks_selectRemaining selected
    rcases fails_bind.1 failed with entering | ⟨_, _, _, impossible⟩
    · rcases fails_bind.1 entering with asking | ⟨yes, w, answered, joining⟩
      · obtain ⟨large, raised⟩ := fails_mayJoin asking
        have prefers := prefers_of_select (completes_selectRemaining.1 selected)
        rw [turned.remaining_eq, Stage.order_turned] at prefers
        rw [Selection.extended, asked.selection, Stage.order_turned] at raised
        exact .untested went (headed.symm.trans (asked.direction.symm.trans large)) prefers raised
      · cases yes with
        | false => exact absurd joining Act.not_fails_pure
        | true =>
          -- The chosen one was outside, so it can join.
          have asked := asked.trans (asks_mayJoin answered)
          have fresh := fresh_of_selectRemaining turned selected
          rw [← asked.selection] at fresh
          exact absurd joining (not_fails_add (asked.sound turned) fresh)
    · exact absurd impossible Act.not_fails_pure

theorem fault_of_iterative (sound : s.run.selection.Sound)
    (failed : (scene.iterative rounds).Fails s fault t) :
    ∃ turns, turns.length < rounds ∧ RoundFault scene s turns fault t := by
  rcases fails_bind.1 (fails_recorded.1 failed) with rotating | ⟨_, _, _, counting⟩
  · obtain ⟨_, _, m, fewer, rotates, failed⟩ :=
      fails_rotate scene.problem.candidates.nonempty sound rotating
    have rotated := rotates.rotated sound
    obtain ⟨turns, rfl, went⟩ := turns_of_rotates rotates sound
    exact ⟨turns, fewer, fault_of_round went rotated.direction rotated.sound failed⟩
  · -- What follows the rounds only counts them.
    rcases fails_bind.1 counting with impossible | ⟨_, _, _, impossible⟩
    · exact absurd impossible Act.not_fails_modify
    · exact absurd impossible Act.not_fails_pure

theorem turns_of_iterative {count : Nat} (sound : s.run.selection.Sound)
    (completed : (scene.iterative rounds).Completes s count t) :
    count = rounds ∧ ∃ turns m, turns.length = rounds ∧ Turns scene s turns m ∧
      t.run.selection = m.run.selection := by
  obtain ⟨rfl, joining, m, rotates, rfl⟩ :=
    rotates_of_iterative scene.problem.candidates.nonempty sound completed
  obtain ⟨turns, counted, went⟩ := turns_of_rotates rotates sound
  exact ⟨rfl, turns, m, counted, went, rfl⟩

end Scene

/-! ## Main result -/

structure Slides (direction : Direction) (start : List (Fin n)) (turns : List (Turn n))
    (order : List (Fin n)) : Prop where
  window : order = (start ++ joiners turns).drop (evictions turns)
  joins : direction = .minimize → ∀ turn ∈ turns, turn.joins = true
  kept : direction = .minimize → start ≠ [] →
    order <:+ start ++ joiners turns ∧ order.length = start.length ∧
      ∀ turn ∈ turns, turn.after.length = start.length
  single : direction = .minimize → start = [] → turns ≠ [] →
    ∃ last, (joiners turns).getLast? = some last ∧ order = [last]
  bounded : order.length ≤ max start.length 1 ∧ ∀ turn ∈ turns, turn.after.length ≤ max start.length 1
  renewed : start.length ≤ turns.length → order <:+ joiners turns

namespace Scene

variable {scene : Scene σ δ α n} {s t : Stage σ n} {turns : List (Turn n)}

theorem Turns.single (went : Turns scene s turns t) (small : s.run.direction = .minimize)
    (empty : s.run.selection.order = []) (some_turn : turns ≠ []) :
    ∃ last, (joiners turns).getLast? = some last ∧ t.run.selection.order = [last] := by
  have joins := went.joins_of_minimize small
  have size : t.run.selection.size = 1 := by
    cases went with
    | rest => exact absurd rfl some_turn
    | @turn _ m _ turn _ first later =>
      -- The first round fills the one place that all later ones keep.
      have start : turn.before = [] := first.before.trans empty
      have one : m.run.selection.size = 1 := by
        rw [Selection.size, first.after, Turn.length_after_of_joins (joins turn List.mem_cons_self), start]
        rfl
      rw [(later.size_eq (fun other member => joins other (.tail _ member)) (by omega)).2, one]
  obtain ⟨last, order⟩ := List.length_eq_one_iff.1 size
  obtain ⟨earlier, joined⟩ := went.renewed (by simp [Selection.size, empty])
  exact ⟨last, by rw [← joined, order, List.getLast?_concat], order⟩

theorem Turns.slides (went : Turns scene s turns t) :
    Slides s.run.direction s.run.selection.order turns t.run.selection.order where
  window := went.window
  joins := went.joins_of_minimize
  kept small nonempty := by
    obtain ⟨each, last⟩ := went.size_eq (went.joins_of_minimize small) (List.length_pos_iff.2 nonempty)
    exact ⟨went.window ▸ List.drop_suffix _ _, last, each⟩
  single := went.single
  bounded := ⟨went.size_le.2, went.size_le.1⟩
  renewed := went.renewed

/-- The iterative phase carries out its rounds unless a call or the ranking of the scores is at fault, and
its selection slides over the start and those who have joined. -/
theorem iterative_slides (scene : Scene σ δ α n) (sound : s.run.selection.Sound) (rounds : Nat) :
    (∃ turns m t, Turns scene s turns m ∧ turns.length = rounds ∧
      (scene.iterative rounds).Completes s rounds t ∧ t.run.selection = m.run.selection ∧
      Slides s.run.direction s.run.selection.order turns t.run.selection.order) ∨
    ∃ fault t, (scene.iterative rounds).Fails s fault t ∧
      ∃ turns, turns.length < rounds ∧ RoundFault scene s turns fault t := by
  rcases Act.completes_or_fails (scene.iterative rounds) s with
    ⟨count, t, completed⟩ | ⟨fault, t, failed⟩
  · obtain ⟨rfl, turns, m, counted, went, same⟩ := turns_of_iterative sound completed
    exact .inl ⟨turns, m, t, went, counted, completed, same, same ▸ went.slides⟩
  · exact .inr ⟨fault, t, failed, fault_of_iterative sound failed⟩

/-- Two numbers that are evicted come back one after the other, and nobody from the start is left. -/
theorem iterative_slides_of_any_two :
    let scene := (Solver.plain 3).scene .anyTwo .itself
    let s : Stage Unit 3 := .holding .maximize [0, 1]
    ∃ (turns : List (Turn 3)) (t : Stage Unit 3), turns.length = 2 ∧ (scene.iterative 2).Completes s 2 t ∧
      t.run.selection.order = [0, 1] ∧ [0, 1] <:+ joiners turns := by
  intro scene s
  have completed : (scene.iterative 2).Completes s 2 ((scene.iterative 2).perform s).2 :=
    Act.completes_of_fst (eq_ok_of_toOption (by decide +kernel))
  have left : ((scene.iterative 2).perform s).2.run.selection.order = [0, 1] := by decide +kernel
  have sound : s.run.selection.Sound := Selection.sound_holding (by decide)
  rcases iterative_slides scene sound 2 with ⟨turns, _, t, _, counted, again, _, slides⟩ | ⟨_, _, failed, _⟩
  · rw [← (again.unique completed).2] at left
    refine ⟨turns, t, counted, again, left, ?_⟩
    exact left ▸ slides.renewed (Nat.le_of_eq counted.symm)
  · exact absurd completed failed.not_completes

end Scene

end Carousel
