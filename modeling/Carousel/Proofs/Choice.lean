import Carousel.Proofs.Except
import Carousel.Score

/-!
# What is chosen

The best of some candidates is one of them, and there is a choice unless there is no candidate.  The
only faults of a choice are those of scores that cannot be ranked.
-/

namespace Carousel

open Draw (Generator)

variable {γ : Type}

/-- A fault of scores that cannot be ranked: one is no number, or they are sequences. -/
def Fault.isRanking : Fault → Bool
  | .notANumber _ | .integerTooLarge | .noNumberValue _ => true
  | .unevenScores _ | .noGreatestScore | .noSuchEntry => true
  | _ => false

theorem eq_of_orFault {β : Type} {fault cause : Fault} {found : Option β}
    (refused : orFault cause found = .error fault) : cause = fault := by
  cases found with
  | some _ => cases refused
  | none => exact Except.error.inj refused

theorem isRanking_of_toBinary64 {value : Value} {fault : Fault}
    (refused : value.toBinary64 = .error fault) : fault.isRanking = true := by
  cases value with
  | scalar scalar =>
    cases scalar with
    | bool b => cases refused
    | int i => exact eq_of_orFault refused ▸ rfl
    | real x => cases refused
    | text s => exact eq_of_orFault refused ▸ rfl
    | absent => cases refused; rfl
  | _ => cases refused; rfl

theorem isRanking_of_rating {score : Score} {fault : Fault}
    (refused : Column.rating score = .error fault) : fault.isRanking = true := by
  unfold Column.rating at refused
  split at refused
  · cases refused
  · rcases bind_eq_error.1 refused with refused | ⟨_, _, refused⟩
    · exact isRanking_of_toBinary64 refused
    · cases refused

theorem isRanking_of_mapM_rating {scores : List Score} {fault : Fault}
    (refused : scores.mapM Column.rating = .error fault) : fault.isRanking = true := by
  induction scores with
  | nil => cases refused
  | cons score scores ih =>
    rw [List.mapM_cons] at refused
    rcases bind_eq_error.1 refused with refused | ⟨_, _, refused⟩
    · exact isRanking_of_rating refused
    · rcases bind_eq_error.1 refused with refused | ⟨_, _, refused⟩
      · exact ih refused
      · cases refused

theorem isRanking_of_ofScores {scores : List Score} {fault : Fault}
    (refused : Column.ofScores scores = .error fault) : fault.isRanking = true := by
  unfold Column.ofScores at refused
  split at refused
  · cases refused
  · simp only at refused
    split at refused
    · cases refused
      rfl
    · rcases bind_eq_error.1 refused with refused | ⟨_, _, refused⟩
      · exact isRanking_of_mapM_rating refused
      · cases refused

theorem Column.tied_ne_nil {column : Column} {candidates : List γ}
    (aligned : column.keys.length = candidates.length) (nonempty : candidates ≠ []) :
    column.tied candidates ≠ [] := by
  have hasKeys : column.keys ≠ [] := by
    rw [← List.length_pos_iff] at nonempty ⊢
    omega
  obtain ⟨best, found⟩ := Option.isSome_iff_exists.1 (List.isSome_max?_of_ne_nil hasKeys)
  obtain ⟨place, bound, reached⟩ := List.mem_iff_getElem.1 (List.max?_mem found)
  have inside : place < candidates.length := by omega
  have member : (candidates[place], best) ∈ candidates.zip column.keys := by
    rw [← reached]
    exact List.mem_iff_getElem.2 ⟨place, by simp; omega, List.getElem_zip⟩
  have kept : candidates[place] ∈ column.tied candidates := by
    rw [Column.tied, Column.best?, found]
    exact List.mem_map.2 ⟨_, List.mem_filter.2 ⟨member, beq_self_eq_true _⟩, rfl⟩
  exact List.ne_nil_of_mem kept

theorem Column.mem_of_mem_tied {column : Column} {candidates : List γ} {candidate : γ}
    (kept : candidate ∈ column.tied candidates) : candidate ∈ candidates := by
  unfold Column.tied at kept
  split at kept
  · cases kept
  · obtain ⟨entry, member, rfl⟩ := List.mem_map.1 kept
    exact (List.of_mem_zip (List.mem_filter.1 member).1).1

/-- One of the tied candidates is picked, whatever the generator draws. -/
theorem pick_mem {tied : List γ} (nonempty : tied ≠ []) (random : Bool) (g : Generator) :
    ∃ chosen ∈ tied, (pick random tied g).1 = some chosen := by
  unfold pick
  split
  · have bound := Draw.Generator.below_lt (List.length_pos_iff.2 nonempty) g
    exact ⟨_, List.getElem_mem bound, List.getElem?_eq_getElem bound⟩
  · exact ⟨_, List.head_mem nonempty, List.head?_eq_some_head nonempty⟩

theorem chooseBest_mem {random : Bool} {candidates : List γ} {scores : List Score}
    {g after : Generator} {choice : Option γ} (nonempty : candidates ≠ [])
    (chosen : chooseBest random candidates scores g = .ok (choice, after)) :
    ∃ candidate ∈ candidates, choice = some candidate := by
  have notEmpty : candidates.isEmpty = false := by simpa using nonempty
  rw [chooseBest, notEmpty] at chosen
  cases made : Column.ofScores scores with
  | error fault => simp [made, bind, Except.bind] at chosen
  | ok column =>
    simp only [made, bind, Except.bind, Bool.false_eq_true, if_false] at chosen
    split at chosen
    · rename_i aligned
      obtain ⟨candidate, member, picked⟩ :=
        pick_mem (Column.tied_ne_nil aligned nonempty) random g
      have same : (pick random (column.tied candidates) g).1 = choice :=
        congrArg Prod.fst (Except.ok.inj chosen)
      exact ⟨candidate, Column.mem_of_mem_tied member, same ▸ picked⟩
    · -- Scores that are sequences have more leaves than candidates, and only a place counts that
      -- belongs to one.
      split at chosen
      · cases chosen
      · split at chosen
        · rename_i candidate located
          cases chosen
          obtain ⟨place, _, looked⟩ := Option.bind_eq_some_iff.1 located
          exact ⟨candidate, List.mem_of_getElem? looked, rfl⟩
        · cases chosen

theorem isRanking_of_tiedPlaces {column : Column} {fault : Fault}
    (refused : column.tiedPlaces = .error fault) : fault.isRanking = true := by
  unfold Column.tiedPlaces at refused
  split at refused <;> cases refused
  rfl

theorem isRanking_of_chooseBest {random : Bool} {candidates : List γ} {scores : List Score}
    {g : Generator} {fault : Fault}
    (refused : chooseBest random candidates scores g = .error fault) : fault.isRanking = true := by
  unfold chooseBest at refused
  split at refused
  · cases refused
  · rcases bind_eq_error.1 refused with refused | ⟨column, _, refused⟩
    · exact isRanking_of_ofScores refused
    · simp only at refused
      split at refused
      · cases refused
      · rcases bind_eq_error.1 refused with refused | ⟨places, _, refused⟩
        · exact isRanking_of_tiedPlaces refused
        · split at refused <;> cases refused
          rfl

end Carousel
