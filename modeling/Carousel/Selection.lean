import Carousel.Universe

/-!
# Selections

The working solution of a run: positions of candidates in the order of their choice, the oldest
first, with a mark for every position that is selected.  New candidates join at the end, the oldest
one leaves at the front, and the newest ones are trimmed from the end.
-/

namespace Carousel

/-- Candidates in the order of their selection, and a mark for each that is selected. -/
structure Selection (n : Nat) where
  order : List (Fin n)
  marks : Vector Bool n
deriving DecidableEq

inductive Refusal (n : Nat) where
  | selected (position : Fin n)
  | outOfRange (position : Int)
deriving DecidableEq

namespace Selection

variable {n : Nat}

def empty (n : Nat) : Selection n := ⟨[], Vector.replicate n false⟩

instance : Inhabited (Selection n) := ⟨empty n⟩

def size (s : Selection n) : Nat := s.order.length

def contains (s : Selection n) (position : Fin n) : Bool := s.marks.get position

def holds (s : Selection n) (number : Int) : Bool :=
  if h : 0 ≤ number ∧ number < n then s.contains ⟨number.toNat, by omega⟩ else false

def mark (marks : Vector Bool n) (position : Fin n) (selected : Bool) : Vector Bool n :=
  marks.set position selected

/-- The candidate joins as the newest one; it must not be selected already. -/
def add (s : Selection n) (position : Fin n) : Except (Refusal n) (Selection n) :=
  if s.contains position then .error (.selected position)
  else .ok ⟨s.order ++ [position], mark s.marks position true⟩

def append (s : Selection n) (position : Int) : Except (Refusal n) (Selection n) :=
  if h : 0 ≤ position ∧ position < n then s.add ⟨position.toNat, by omega⟩
  else .error (.outOfRange position)

def popOldest (s : Selection n) : Option (Fin n) × Selection n :=
  match s.order with
  | [] => (none, s)
  | oldest :: rest => (some oldest, ⟨rest, mark s.marks oldest false⟩)

/-- The newest candidates leave, as many as asked for and not more than there are. -/
def dropNewest (s : Selection n) (count : Int) : List (Fin n) × Selection n :=
  let kept := s.size - count.toNat
  let removed := s.order.drop kept
  (removed, ⟨s.order.take kept, removed.foldl (mark · · false) s.marks⟩)

/-- The positions with one more at the end; the selection itself does not change. -/
def extended (s : Selection n) (position : Fin n) : List (Fin n) := s.order ++ [position]

def preview {α : Type} (s : Selection n) (u : Universe α n) (index : Int) :
    Except Fault (List α) := do
  return u.elementsAt s.order ++ [← u.itemAt index]

/-- The candidates that are not selected, in enumeration order. -/
def remaining (s : Selection n) : List (Fin n) :=
  (List.finRange n).filter fun position => !s.contains position

def written (s : Selection n) : String := "Solution(size=" ++ toString s.size ++ ")"

/-! ## What each operation does to the order -/

@[simp] theorem popOldest_fst (s : Selection n) : s.popOldest.1 = s.order.head? := by
  unfold popOldest; split <;> simp_all

@[simp] theorem order_popOldest (s : Selection n) : s.popOldest.2.order = s.order.tail := by
  unfold popOldest; split <;> simp_all

@[simp] theorem dropNewest_fst (s : Selection n) (count : Int) :
    (s.dropNewest count).1 = s.order.drop (s.size - count.toNat) := rfl

theorem mem_remaining (s : Selection n) (position : Fin n) :
    position ∈ s.remaining ↔ s.contains position = false := by
  simp [remaining]

end Selection

def Refusal.fault {n : Nat} (label : Fin n → String) : Refusal n → Fault
  | .selected position => .alreadySelected (label position)
  | .outOfRange position => .positionOutOfRange position

end Carousel
