import Carousel.Proofs.Run.Growth

/-!
# Rotating selections

A round takes the oldest member away before it looks for a candidate, so there is always one to
choose and the iterative phase carries out all its rounds.  Towards a small selection every chosen
candidate joins and the size stays; towards a large one a candidate joins only on a yes, and members
that were never tested leave one by one.
-/

namespace Carousel

open Act (Completes completes_bind completes_bind_pure completes_get_bind)
open Stage (Asked Asks Kept Joined)

variable {σ δ α : Type} {n : Nat}

/-- A predicate that accepts the empty list, and with a list also the list without its oldest
member. -/
structure Hereditary (accepts : List α → Bool) : Prop where
  empty : accepts [] = true
  tail : ∀ oldest rest, accepts (oldest :: rest) = true → accepts rest = true

namespace Stage

variable {s m t : Stage σ n}

/-- The stage at which a round looks for a candidate: the round is counted and the oldest member has
left. -/
def turned (s : Stage σ n) : Stage σ n :=
  { s with
    iteration := s.iteration + 1
    run := { s.run with selection := s.run.selection.popOldest.2 } }

@[simp] theorem order_turned : s.turned.run.selection.order = s.run.selection.order.tail :=
  Selection.order_popOldest _

theorem sound_turned (sound : s.run.selection.Sound) : s.turned.run.selection.Sound :=
  sound.popOldest

theorem size_turned : s.turned.run.selection.size = s.run.selection.size - 1 := by
  simp [Selection.size]

/-- Some rounds have been carried out, and nothing else has happened but questions. -/
structure Rotated (rounds : Nat) (s t : Stage σ n) : Prop extends Kept s t where
  rounds_eq : t.run.rounds = s.run.rounds
  iteration : t.iteration = s.iteration + rounds
  sound : t.run.selection.Sound

theorem Rotated.refl (sound : s.run.selection.Sound) : Rotated 0 s s := ⟨.refl s, rfl, rfl, sound⟩

theorem Rotated.turn {rounds : Nat} (still : Still s.turned m) (rest : Rotated rounds m t) :
    Rotated (rounds + 1) s t := by
  have kept : Kept s m :=
    ⟨still.direction, still.config, still.history, still.notices⟩
  refine ⟨kept.trans rest.toKept, rest.rounds_eq.trans still.rounds, ?_, rest.sound⟩
  have counted : m.iteration = s.iteration + 1 := still.iteration
  have := rest.iteration
  omega

end Stage

open Stage (Rotated)

namespace Scene

variable {scene : Scene σ δ α n} {s m t : Stage σ n} {position : Fin n} {rounds : Nat}

/-- Rounds, one after the other, with the candidates that join in them. -/
inductive Rotates (scene : Scene σ δ α n) : Nat → Stage σ n → List (Fin n) → Stage σ n → Prop where
  | rest {s : Stage σ n} : Rotates scene 0 s [] s
  | taken {s m w a t : Stage σ n} {position : Fin n} {rounds : Nat} {joining : List (Fin n)}
      (chosen : scene.selectRemaining.Completes s.turned (some position) m)
      (allowed : (scene.mayJoin position).Completes m true w)
      (added : (scene.add position).Completes w () a)
      (later : Rotates scene rounds a joining t) :
      Rotates scene (rounds + 1) s (position :: joining) t
  | refused {s m a t : Stage σ n} {position : Fin n} {rounds : Nat} {joining : List (Fin n)}
      (chosen : scene.selectRemaining.Completes s.turned (some position) m)
      (denied : (scene.mayJoin position).Completes m false a)
      (later : Rotates scene rounds a joining t) : Rotates scene (rounds + 1) s joining t

/-! ## One round -/

theorem mayJoin_minimize {yes : Bool} (small : s.run.direction = .minimize) :
    (scene.mayJoin position).Completes s yes t ↔ yes = true ∧ t = s := by
  unfold mayJoin
  simp only [completes_get_bind, small, Act.completes_pure]

theorem mayJoin_maximize {yes : Bool} (large : s.run.direction = .maximize) :
    (scene.mayJoin position).Completes s yes t ↔
      (scene.isFeasible (s.run.selection.extended position)).Completes s yes t := by
  unfold mayJoin
  simp only [completes_get_bind, large]

theorem asks_mayJoin : Asks (scene.mayJoin position) := by
  intro s yes t asked
  cases direction : s.run.direction with
  | minimize =>
    obtain ⟨_, rfl⟩ := (mayJoin_minimize direction).1 asked
    exact .refl _
  | maximize => exact asks_isFeasible _ ((mayJoin_maximize direction).1 asked)

theorem selectRemaining_turned_ne_none (nonempty : 0 < n) (sound : s.run.selection.Sound) :
    ¬ scene.selectRemaining.Completes s.turned none t := by
  intro selected
  have nothing := eq_nil_of_select_none (completes_selectRemaining.1 selected)
  have room := (Stage.sound_turned sound).size_add_length_remaining
  have bound := sound.size_le
  rw [nothing, List.length_nil, Stage.size_turned] at room
  omega

theorem completes_round {more : Bool} :
    scene.round.Completes s more t ↔
      ∃ choice m, scene.selectRemaining.Completes s.turned choice m ∧
        match choice with
        | none => more = false ∧ t = m
        | some position => (scene.enter position).Completes m () t ∧ more = true := by
  unfold round
  simp only [completes_bind, Act.completes_modify, completes_update]
  constructor
  · rintro ⟨_, _, rfl, _, _, rfl, choice, m, selected, entered⟩
    refine ⟨choice, m, selected, ?_⟩
    cases choice with
    | none => exact Act.completes_pure.1 entered
    | some position =>
      obtain ⟨_, entered, same⟩ := completes_bind_pure.1 entered
      exact ⟨entered, same⟩
  · rintro ⟨choice, m, selected, entered⟩
    refine ⟨⟨⟩, _, rfl, ⟨⟩, _, rfl, choice, m, selected, ?_⟩
    cases choice with
    | none => exact Act.completes_pure.2 entered
    | some position =>
      exact completes_bind_pure.2 ⟨_, entered⟩

theorem completes_enter {answer : Unit} :
    (scene.enter position).Completes s answer t ↔
      (∃ w, (scene.mayJoin position).Completes s true w ∧
        (scene.add position).Completes w answer t) ∨
      (scene.mayJoin position).Completes s false t := by
  unfold enter
  rw [completes_bind]
  constructor
  · rintro ⟨yes, w, asked, added⟩
    cases yes with
    | true => exact .inl ⟨w, asked, added⟩
    | false =>
      obtain ⟨_, rfl⟩ := Act.completes_pure.1 added
      exact .inr asked
  · rintro (⟨w, asked, added⟩ | asked)
    · exact ⟨true, w, asked, added⟩
    · exact ⟨false, t, asked, Act.completes_pure.2 ⟨rfl, rfl⟩⟩

/-! ## All rounds -/

theorem joined_of_taken {w a : Stage σ n} {answer : Unit} (sound : s.run.selection.Sound)
    (chosen : scene.selectRemaining.Completes s.turned (some position) m)
    (allowed : (scene.mayJoin position).Completes m true w)
    (added : (scene.add position).Completes w answer a) : Joined s.turned position a :=
  ((asks_selectRemaining chosen).trans (asks_mayJoin allowed)).joined
    (Stage.sound_turned sound) added

theorem asked_of_refused {a : Stage σ n} {yes : Bool}
    (chosen : scene.selectRemaining.Completes s.turned (some position) m)
    (denied : (scene.mayJoin position).Completes m yes a) : Asked s.turned a :=
  (asks_selectRemaining chosen).trans (asks_mayJoin denied)

/-- A round that completes had a candidate to choose, and other rounds can follow it. -/
theorem rotates_of_round {more : Bool} {a : Stage σ n} (nonempty : 0 < n)
    (sound : s.run.selection.Sound) (went : scene.round.Completes s more a) :
    more = true ∧ a.run.selection.Sound ∧
      ∀ {rounds joining t}, Rotates scene rounds a joining t →
        ∃ joined, Rotates scene (rounds + 1) s joined t := by
  obtain ⟨choice, m, chosen, entered⟩ := completes_round.1 went
  cases choice with
  | none => exact absurd chosen (selectRemaining_turned_ne_none nonempty sound)
  | some position =>
    obtain ⟨entered, rfl⟩ := entered
    rcases completes_enter.1 entered with ⟨w, allowed, added⟩ | denied
    · have joined := joined_of_taken sound chosen allowed added
      exact ⟨rfl, joined.sound, fun later => ⟨_, .taken chosen allowed added later⟩⟩
    · have asked := asked_of_refused chosen denied
      exact ⟨rfl, asked.sound (Stage.sound_turned sound),
        fun later => ⟨_, .refused chosen denied later⟩⟩

/-- The iterative phase never ends early. -/
theorem rotates_of_rotate {begun total : Nat} (nonempty : 0 < n) (sound : s.run.selection.Sound)
    (completed : (scene.rotate rounds begun).Completes s total t) :
    total = begun + rounds ∧ ∃ joining, Rotates scene rounds s joining t := by
  -- The induction is on the rounds; the next round needs no more than a sound selection.
  induction rounds generalizing s begun with
  | zero =>
    obtain ⟨rfl, rfl⟩ := Act.completes_pure.1 completed
    exact ⟨rfl, [], .rest⟩
  | succ rounds ih =>
    obtain ⟨more, a, went, completed⟩ := completes_bind.1 completed
    obtain ⟨rfl, sound, before⟩ := rotates_of_round nonempty sound went
    obtain ⟨count, joining, later⟩ := ih sound completed
    exact ⟨by omega, before later⟩

/-- A fault ends the iterative phase in a round, and all rounds before it were carried out. -/
theorem fails_rotate {begun : Nat} {fault : Fault} (nonempty : 0 < n)
    (sound : s.run.selection.Sound) (failed : (scene.rotate rounds begun).Fails s fault t) :
    ∃ done joining m, done < rounds ∧ Rotates scene done s joining m ∧
      scene.round.Fails m fault t := by
  induction rounds generalizing s begun with
  | zero => exact absurd failed Act.not_fails_pure
  | succ rounds ih =>
    rcases Act.fails_bind.1 failed with first | ⟨more, a, went, later⟩
    · exact ⟨0, [], s, by omega, .rest, first⟩
    · obtain ⟨rfl, sound, before⟩ := rotates_of_round nonempty sound went
      obtain ⟨done, joining, m, fewer, rotates, failed⟩ := ih sound later
      obtain ⟨joined, rotates⟩ := before rotates
      exact ⟨done + 1, joined, m, by omega, rotates, failed⟩

namespace Rotates

variable {joining : List (Fin n)}

theorem rotated (rotates : Rotates scene rounds s joining t) (sound : s.run.selection.Sound) :
    Rotated rounds s t := by
  induction rotates with
  | rest => exact .refl sound
  | taken chosen allowed added _ ih =>
    have joined := joined_of_taken sound chosen allowed added
    exact .turn joined.toStill (ih joined.sound)
  | refused chosen denied _ ih =>
    have asked := asked_of_refused chosen denied
    exact .turn asked.toStill (ih (asked.sound (Stage.sound_turned sound)))

/-- Towards a small selection, a selection that is not empty keeps its size, and an empty one gets
one member. -/
theorem size_of_minimize (rotates : Rotates scene rounds s joining t)
    (small : s.run.direction = .minimize) (sound : s.run.selection.Sound) :
    t.run.selection.size = max s.run.selection.size (min rounds 1) := by
  induction rotates with
  | rest => omega
  | taken chosen allowed added _ ih =>
    have joined := joined_of_taken sound chosen allowed added
    have counted := joined.size_eq
    rw [Stage.size_turned] at counted
    rw [ih (joined.direction.trans small) joined.sound]
    omega
  | refused chosen denied _ _ =>
    -- Towards a small selection nobody is asked, and nobody refused.
    have direction := (asks_selectRemaining chosen).direction.trans small
    exact absurd ((mayJoin_minimize direction).1 denied).1 (by decide)

variable {accepts : List α → Bool}

/-- Towards a large selection, an accepted selection stays accepted: leaving keeps it so, and nobody
joins untested. -/
theorem accepted_of_maximize (decides : scene.problem.Decides accepts)
    (hereditary : Hereditary accepts) (rotates : Rotates scene rounds s joining t)
    (large : s.run.direction = .maximize) (sound : s.run.selection.Sound)
    (start : accepts (scene.problem.candidates.elementsAt s.run.selection.order) = true) :
    accepts (scene.problem.candidates.elementsAt t.run.selection.order) = true := by
  -- A round that takes a candidate has asked about the result, and one that refuses it only drops the oldest.
  induction rotates with
  | rest => exact start
  | @taken s m w a t position rounds joining chosen allowed added _ ih =>
    have joined := joined_of_taken sound chosen allowed added
    have asked := asks_selectRemaining chosen
    rw [mayJoin_maximize (asked.direction.trans large), asked.selection] at allowed
    refine ih (joined.direction.trans large) joined.sound ?_
    rw [joined.order]
    exact (verdict_eq decides allowed).symm
  | @refused s m a t position rounds joining chosen denied _ ih =>
    have asked := asked_of_refused chosen denied
    refine ih (asked.direction.trans large) (asked.sound (Stage.sound_turned sound)) ?_
    rw [asked.selection, Stage.order_turned]
    cases order : s.run.selection.order with
    | nil => exact hereditary.empty
    | cons oldest rest =>
      rw [order] at start
      exact hereditary.tail _ _ start

/-- Towards a large selection, the selection is accepted from the first joining on; until then it
consists of what the evictions have left of the start. -/
theorem accepted_or_drop (decides : scene.problem.Decides accepts)
    (hereditary : Hereditary accepts) (rotates : Rotates scene rounds s joining t)
    (large : s.run.direction = .maximize) (sound : s.run.selection.Sound) :
    accepts (scene.problem.candidates.elementsAt t.run.selection.order) = true ∨
      t.run.selection.order = s.run.selection.order.drop rounds := by
  induction rotates with
  | rest => exact .inr rfl
  | @taken s m w a t position rounds joining chosen allowed added later ih =>
    have joined := joined_of_taken sound chosen allowed added
    have asked := asks_selectRemaining chosen
    rw [mayJoin_maximize (asked.direction.trans large), asked.selection] at allowed
    -- The selection with the newcomer was tested, and stays accepted for the rest of the rounds.
    have start := verdict_eq decides allowed
    refine .inl (accepted_of_maximize decides hereditary later (joined.direction.trans large)
      joined.sound ?_)
    rw [joined.order]
    exact start.symm
  | @refused s m a t position rounds joining chosen denied _ ih =>
    have asked := asked_of_refused chosen denied
    rcases ih (asked.direction.trans large) (asked.sound (Stage.sound_turned sound)) with
      accepted | left
    · exact .inl accepted
    · -- The induction hypothesis starts after the eviction of this round.
      right
      rw [left, asked.selection, Stage.order_turned, List.drop_tail]

end Rotates

end Scene

end Carousel
