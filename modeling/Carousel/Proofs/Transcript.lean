import Carousel.Proofs.Session

/-!
# Transcripts

What passes between a solver and its caller can be written down: every question together with its
answer, the oldest first.  Between two stages of a run the transcript grows by the exchanges that the
run has counted meanwhile, and writing it down changes nothing else.
-/

namespace Carousel

variable {σ δ α β : Type} {n : Nat}

/-- A question to the caller with the answer that it got. -/
inductive Exchange (α : Type) where
  | tested (selected : List α) (answer : Except Raised Bool)
  | scored (selected : List α) (candidate : α) (answer : Except Raised Score)

namespace Exchange

/-- The caller has answered without raising anything. -/
def isAnswered : Exchange α → Bool
  | tested _ (.ok _) | scored _ _ (.ok _) => true
  | _ => false

def isScored : Exchange α → Bool
  | scored .. => true
  | tested .. => false

def isTested (exchange : Exchange α) : Bool := !exchange.isScored

end Exchange

/-- A state of the caller with what has passed, the oldest exchange first. -/
structure Transcript (σ α : Type) where
  caller : σ
  exchanges : List (Exchange α) := []

def Transcript.record (exchange : Except Raised β → Exchange α) (callback : Callback σ β) :
    Callback (Transcript σ α) β := fun transcript =>
  let (answer, caller) := callback.perform transcript.caller
  (answer, { caller, exchanges := transcript.exchanges ++ [exchange answer] })

def Problem.transcribed (problem : Problem σ δ α n) : Problem (Transcript σ α) δ α n :=
  { problem with
    feasible := fun view selected =>
      Transcript.record (.tested selected) (problem.feasible view selected)
    score := fun view selected candidate =>
      Transcript.record (.scored selected candidate) (problem.score view selected candidate) }

theorem Problem.agrees_transcribed (problem : Problem σ δ α n) :
    problem.Agrees 0 (fun caller (transcript : Transcript σ α) => transcript.caller = caller)
      problem.transcribed :=
  agrees_of_read rfl rfl (fun _ _ _ => ⟨rfl, rfl⟩) fun _ _ _ _ => ⟨rfl, rfl⟩

namespace Session

def transcribed (s : Session σ δ n) : Session (Transcript σ α) δ n :=
  s.through fun caller => { caller }

def transcript (problem : Problem σ δ α n) (s : Session σ δ n) (call : Call δ) :
    List (Exchange α) :=
  (s.transcribed.perform problem.transcribed call).after.solver.caller.exchanges

/-- The transcript changes nothing else. -/
theorem perform_transcribed (problem : Problem σ δ α n) (s : Session σ δ n) (call : Call δ) :
    (s.transcribed.perform problem.transcribed call).answer = (s.perform problem call).answer ∧
      (s.transcribed.perform problem.transcribed call).after.through Transcript.caller =
        (s.perform problem call).after ∧
      (s.transcribed.perform problem.transcribed call).notices =
        (s.perform problem call).notices :=
  perform_through problem.agrees_transcribed.unison s.transcribed call

end Session

/-! ## What stages have heard -/

namespace Stage

/-- Between the stages these questions were put to the caller, and every one was counted. -/
structure Heard (heard : List (Exchange α)) (s t : Stage (Transcript σ α) n) : Prop where
  exchanges : t.caller.exchanges = s.caller.exchanges ++ heard
  scoreCalls : t.run.scoreCalls = s.run.scoreCalls + heard.countP Exchange.isScored
  feasibilityCalls :
    t.run.feasibilityCalls = s.run.feasibilityCalls + heard.countP Exchange.isTested

variable {s m t : Stage (Transcript σ α) n} {before after : List (Exchange α)}

theorem Heard.trans (first : Heard before s m) (second : Heard after m t) :
    Heard (before ++ after) s t := by
  refine ⟨?_, ?_, ?_⟩
  · rw [second.exchanges, first.exchanges, List.append_assoc]
  · rw [second.scoreCalls, first.scoreCalls, List.countP_append, Nat.add_assoc]
  · rw [second.feasibilityCalls, first.feasibilityCalls, List.countP_append, Nat.add_assoc]

/-- Nothing was asked between stages that agree in the transcript and in both counts. -/
theorem heard_nil (caller : t.caller = s.caller) (scoreCalls : t.run.scoreCalls = s.run.scoreCalls)
    (feasibilityCalls : t.run.feasibilityCalls = s.run.feasibilityCalls) : Heard [] s t :=
  ⟨by rw [caller, List.append_nil], scoreCalls, feasibilityCalls⟩

end Stage

end Carousel
