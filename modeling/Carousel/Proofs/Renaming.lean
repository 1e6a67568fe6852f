import Carousel.Proofs.Membership

/-!
# Candidates can be renamed

A solver knows its candidates by their positions and hands their elements to the callbacks alone.  With
other elements and callbacks that answer alike about the same positions, every call asks about the same
positions, gives the same answer and leaves the same session.  Only the refusal to append a candidate
twice names the candidate.
-/

namespace Carousel

variable {σ τ δ α α' : Type} {n : Nat} {K : σ → τ → Prop}

def Query.map (f : α → α') : Query α → Query α'
  | .feasible selected => .feasible (selected.map f)
  | .score selected candidate => .score (selected.map f) (f candidate)

def Logged.Renamed (K : σ → τ → Prop) (u : Universe α n) (v : Universe α' n) (left : Logged σ α)
    (right : Logged τ α') : Prop :=
  K left.caller right.caller ∧ ∃ asked : List (Query (Fin n)),
    left.log = asked.map (Query.map u.element) ∧ right.log = asked.map (Query.map v.element)

theorem Universe.map_elementsAt {u : Universe α n} {v : Universe α' n} {rename : α → α'}
    (renames : ∀ position, rename (u.element position) = v.element position)
    (positions : List (Fin n)) : (u.elementsAt positions).map rename = v.elementsAt positions := by
  simp [elementsAt, Function.comp_def, renames]

namespace Problem

/-- Asked about the same positions, the callbacks give the same verdict, the same score or the same
fault, and the states of the callers stay related. -/
structure Renamed (K : σ → τ → Prop) (left : Problem σ δ α n) (right : Problem τ δ α' n) : Prop where
  feasible : ∀ ⦃c d⦄ (view : View δ) positions, K c d →
    ((left.feasible view (left.candidates.elementsAt positions)).perform c).1 =
        ((right.feasible view (right.candidates.elementsAt positions)).perform d).1 ∧
      K ((left.feasible view (left.candidates.elementsAt positions)).perform c).2
        ((right.feasible view (right.candidates.elementsAt positions)).perform d).2
  score : ∀ ⦃c d⦄ (view : View δ) positions position, K c d →
    ((left.score view (left.candidates.elementsAt positions)
        (left.candidates.element position)).perform c).1 =
        ((right.score view (right.candidates.elementsAt positions)
          (right.candidates.element position)).perform d).1 ∧
      K ((left.score view (left.candidates.elementsAt positions)
          (left.candidates.element position)).perform c).2
        ((right.score view (right.candidates.elementsAt positions)
          (right.candidates.element position)).perform d).2

/-- The faults are the same, or both refuse the same candidate by its own name. -/
def SameFault (left : Problem σ δ α n) (right : Problem τ δ α' n) (fault fault' : Fault) : Prop :=
  fault = fault' ∨ ∃ position,
    fault = .alreadySelected (left.label (left.candidates.element position)) ∧
      fault' = .alreadySelected (right.label (right.candidates.element position))

variable {left : Problem σ δ α n} {right : Problem τ δ α' n}

theorem Renamed.unison (renamed : left.Renamed K right) :
    left.Unison (left.SameFault right) 0 K right := by
  have corresponds : left.Corresponds Eq 0 K right := by
    constructor
    · intro view positions c d related
      rw [Nat.zero_add]
      obtain ⟨same, after⟩ := renamed.feasible view positions related
      exact ⟨.of_eq (fun _ => rfl) same, after⟩
    · intro view positions position c d related
      rw [Nat.zero_add]
      obtain ⟨same, after⟩ := renamed.score view positions position related
      exact ⟨.of_eq (fun _ => rfl) same, after⟩
  exact corresponds.unison chosenAlike_eq (fun _ => .inl rfl) fun position =>
    .inr ⟨position, rfl, rfl⟩

/-- With both problems on record, the logs go on telling of the same positions. -/
theorem Renamed.logged (renamed : left.Renamed K right) :
    left.logged.Renamed (Logged.Renamed K left.candidates right.candidates) right.logged where
  feasible := by
    rintro c d view positions ⟨callers, asked, log, log'⟩
    obtain ⟨same, after⟩ := renamed.feasible view positions callers
    refine ⟨same, after, .feasible positions :: asked, ?_, ?_⟩
    · exact congrArg (Query.feasible (left.candidates.elementsAt positions) :: ·) log
    · exact congrArg (Query.feasible (right.candidates.elementsAt positions) :: ·) log'
  score := by
    rintro c d view positions position ⟨callers, asked, log, log'⟩
    obtain ⟨same, after⟩ := renamed.score view positions position callers
    refine ⟨same, after, .score positions position :: asked, ?_, ?_⟩
    · exact congrArg (Query.score (left.candidates.elementsAt positions)
        (left.candidates.element position) :: ·) log
    · exact congrArg (Query.score (right.candidates.elementsAt positions)
        (right.candidates.element position) :: ·) log'

/-- Faults that are the same up to names, and no refusals, are the same. -/
theorem SameFault.eq {fault fault' : Fault} (same : left.SameFault right fault fault')
    (unrefused : fault.isRefusal = false) : fault = fault' := by
  obtain equal | ⟨_, rfl, _⟩ := same
  · exact equal
  · cases unrefused

end Problem

namespace Session

variable {left : Problem σ δ α n} {right : Problem τ δ α' n}

/-- New solvers for problems in unison stay alike through any calls. -/
theorem alike_reached {F : Fault → Fault → Prop} (unison : left.Unison F 0 K right) {caller : σ}
    {caller' : τ} (callers : K caller caller') (config : Config) (data : δ)
    (calls : List (Call δ)) :
    Session.Alike True 0 K {} (reached left config data caller calls)
      (reached right config data caller' calls) := by
  have start : Session.Alike True 0 K {} ({ solver := .fresh config data caller } : Session σ δ n)
      { solver := .fresh config data caller' } :=
    ⟨⟨rfl, rfl, rfl, callers, rfl, rfl⟩, fun _ => rfl, fun _ => rfl⟩
  exact (start.performAll unison fun _ _ => .inr trivial).2

/-- The remembered lists of positions are read in either universe. -/
theorem remembered_renamed {s : Session σ δ n} {t : Session τ δ n} {u : Universe α n}
    {v : Universe α' n} (memory : t.solver.memory = s.solver.memory) {rename : α → α'}
    (renames : ∀ position, rename (u.element position) = v.element position) :
    t.greedy? v = (s.greedy? u).map (List.map rename) ∧
      t.refined? v = (s.refined? u).map (List.map rename) ∧
      t.report? v = (s.report? u).map (Report.map rename) := by
  have lists : List.map rename ∘ u.elementsAt = v.elementsAt :=
    funext (Universe.map_elementsAt renames)
  have reports : Report.map rename ∘ Report.map u.element = Report.map v.element := by
    funext report
    simp [Report.map, Function.comp_def, renames]
  rw [greedy?, greedy?, refined?, refined?, report?, report?, memory, Option.map_map,
    Option.map_map, Option.map_map, lists, reports]
  exact ⟨rfl, rfl, rfl⟩

/-- Two new solvers whose callbacks answer alike about the same positions stay in step through any
calls.  They ask about the same positions, in the same order, and leave sessions that differ in
the callers alone: the remembered lists, the report with its counts and its history, the generator, the
count of rounds and the runs by hand are the same, so that their elements are the same up to the
renaming.  Every further call gives the same notices and the same answer, and only where a candidate is
appended twice, the fault names it in both ways. -/
theorem same_under_renaming (renamed : left.Renamed K right) {caller : σ} {caller' : τ}
    (callers : K caller caller') (config : Config) (data : δ) (calls : List (Call δ)) :
    let s := reached left config data caller calls
    let t := reached right config data caller' calls
    (∃ asked : List (Query (Fin n)),
      questions left config data caller calls = asked.map (.map left.candidates.element) ∧
        questions right config data caller' calls = asked.map (.map right.candidates.element)) ∧
    K s.solver.caller t.solver.caller ∧
    (t.through fun _ => ()) = s.through (fun _ => ()) ∧
    (∀ rename : α → α',
      (∀ position, rename (left.candidates.element position) = right.candidates.element position) →
        t.greedy? right.candidates = (s.greedy? left.candidates).map (List.map rename) ∧
          t.refined? right.candidates = (s.refined? left.candidates).map (List.map rename) ∧
          t.report? right.candidates = (s.report? left.candidates).map (Report.map rename)) ∧
    ∀ call,
      Related (left.SameFault right) Eq (s.perform left call).answer (t.perform right call).answer ∧
        (¬ call.IsAppend → (t.perform right call).answer = (s.perform left call).answer) ∧
        (t.perform right call).notices = (s.perform left call).notices := by
  intro s t
  have alike : Session.Alike True 0 K {} s t := alike_reached renamed.unison callers config data calls
  have blind : (t.through fun _ => ()) = s.through fun _ => () := through_eq_through alike rfl
  have recorded : Logged.Renamed K left.candidates right.candidates { caller } { caller := caller' } :=
    ⟨callers, [], rfl, rfl⟩
  have logged := alike_reached renamed.logged.unison recorded config data calls
  have fit := fit_reached left config data caller calls
  refine ⟨logged.solver.caller.2, alike.solver.caller, blind,
    fun rename => remembered_renamed (congrArg (·.solver.memory) blind), fun call => ?_⟩
  have outcomes := alike.perform renamed.unison (.inr trivial : call.IsWhole ∨ True)
  refine ⟨outcomes.answer, fun own => ?_, outcomes.notices.symm⟩
  -- Only a refusal names a candidate, and a call other than an append is never refused.
  have unrefused (fault : Fault) (failed : (s.perform left call).answer = .error fault) :
      fault.isRefusal = false := not_isRefusal_of_perform fit.runs fit.memory own failed
  have related := outcomes.answer
  generalize (s.perform left call).answer = answer at related unrefused
  generalize (t.perform right call).answer = answer' at related
  cases related with
  | answered equal => rw [equal]
  | faulted same => rw [same.eq (unrefused _ rfl)]

end Session

/-- Three numbers of which two are enough; the caller counts the questions, and scores by the count. -/
def Problem.numbered : Problem Nat Unit Nat 3 where
  candidates := ⟨#v[0, 1, 2], by decide⟩
  feasible _ selected := do
    modify (· + 1)
    return decide (2 ≤ selected.length)
  score _ _ _ := do
    modify (· + 1)
    return .int ((← get) % 4 : Nat)
  label := toString

/-- Three letters of which two are enough; the caller lists the questions, and scores by their number. -/
def Problem.lettered : Problem (List String) Unit String 3 where
  candidates := ⟨#v["c", "a", "b"], by decide⟩
  feasible _ selected := do
    modify ("enough?" :: ·)
    return decide (2 ≤ selected.length)
  score _ _ letter := do
    modify (letter :: ·)
    return .int ((← get).length % 4 : Nat)
  label letter := letter

/-- A candidate is appended twice before a large run; the run finds the same numbers and letters. -/
theorem Session.same_for_numbers_and_letters :
    let calls : List (Call Unit) :=
      [.newRun .minimize none, .append 0 [2, 2], .optimize .maximize .absent .absent]
    let s := reached .numbered default () 0 calls
    let t := reached .lettered default () [] calls
    s.greedy? Problem.numbered.candidates = some [1, 2, 0] ∧
      t.greedy? Problem.lettered.candidates = some ["a", "b", "c"] ∧
      s.solver.caller = t.solver.caller.length ∧
      (t.through fun _ => ()) = s.through (fun _ => ()) ∧
      ∀ call, ¬ call.IsAppend →
        (t.perform .lettered call).answer = (s.perform .numbered call).answer := by
  intro calls s t
  have renamed : Problem.numbered.Renamed (fun count asked => count = asked.length) .lettered := by
    constructor
    · rintro _ asked view positions rfl
      refine ⟨?_, rfl⟩
      show Except.ok (decide (2 ≤ (Universe.elementsAt _ positions).length)) =
        Except.ok (decide (2 ≤ (Universe.elementsAt _ positions).length))
      rw [Universe.length_elementsAt, Universe.length_elementsAt]
    · rintro _ asked view positions position rfl
      exact ⟨rfl, rfl⟩
  have begun : 0 = ([] : List String).length := rfl
  obtain ⟨_, callers, blind, remembered, later⟩ :=
    same_under_renaming renamed begun default () calls
  have found : s.greedy? Problem.numbered.candidates = some [1, 2, 0] := by decide +kernel
  have letters := (remembered (fun number => ["c", "a", "b"].getD number "") (by decide)).1
  refine ⟨found, ?_, callers, blind, fun call => (later call).2.1⟩
  rw [letters, found]
  rfl

end Carousel
