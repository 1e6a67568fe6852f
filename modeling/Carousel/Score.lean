import Carousel.Draw
import Carousel.Value.Conversion
import Carousel.Value.Basic

/-!
# Scores and the choice among them

The scores of one sweep are ranked together.  When all are integers they are compared exactly;
otherwise all are rounded to floating point, where a missing score is not-a-number and
not-a-number ranks with negative infinity.  Among the candidates that reach the best score one is
drawn, or the first is taken.

A score is meant to be a scalar.  Scores that are sequences must all have one extent; then their
leaves are ranked one by one, and a leaf can reach the best score that belongs to no candidate.
-/

namespace Carousel

abbrev Score := Value

/-- The scores of one sweep in the form in which they are compared. -/
inductive Column where
  | exact (scores : List Int)
  | rounded (scores : List Binary64)
deriving DecidableEq

/-- The scores of some candidates, which are given in the order of the candidates.  Of several
scores for one candidate the last one counts, and scores behind the last candidate belong to
none. -/
def scoresOf (candidates : List Int) (scores : List Score) : Except Fault (List Score) :=
  let entries := (candidates.zip scores).reverse
  candidates.mapM fun candidate =>
    match entries.find? fun entry => entry.1 == candidate with
    | some entry => .ok entry.2
    | none => .error (.unscored candidate)

namespace Column

def integer? : Score → Option Int
  | .scalar (.bool b) => some (if b then 1 else 0)
  | .scalar (.int i) => some i
  | _ => none

/-- The floating-point number that a score counts as. -/
def rating : Score → Except Fault Binary64
  | .scalar .absent => .ok Binary64.nan.rankable
  | score => do return (← score.toBinary64).rankable

def ofScores (scores : List Score) : Except Fault Column :=
  match scores.mapM integer? with
  | some integers => .ok (.exact integers)
  | none => do
    let common := Value.commonExtent scores
    if !common.even then throw (.unevenScores (common.under scores.length).lengths)
    return .rounded (← (Value.leavesOfAll scores).mapM rating)

def keys : Column → List Int
  | exact scores => scores
  | rounded scores => scores.map Binary64.rankKey

def best? (column : Column) : Option Int := column.keys.max?

/-- The candidates whose entries reach the greatest one, in order. -/
def tied {γ : Type} (column : Column) (candidates : List γ) : List γ :=
  match column.best? with
  | none => []
  | some best => ((candidates.zip column.keys).filter fun entry => entry.2 == best).map Prod.fst

def tiedPlaces (column : Column) : Except Fault (List Nat) :=
  if column.keys.isEmpty then .error .noGreatestScore
  else .ok (column.tied (List.range column.keys.length))

end Column

open Draw (Generator)

/-- One of several candidates: drawn with equal chances, or simply the first.  A single candidate
needs no draw. -/
def pick {γ : Type} (random : Bool) (tied : List γ) (g : Generator) : Option γ × Generator :=
  if random ∧ 1 < tied.length then
    let (place, g) := g.below tied.length
    (tied[place]?, g)
  else (tied.head?, g)

/-- The best of the candidates with the given scores; none if there are no candidates. -/
def chooseBest {γ : Type} (random : Bool) (candidates : List γ) (scores : List Score)
    (g : Generator) : Except Fault (Option γ × Generator) :=
  if candidates.isEmpty then .ok (none, g)
  else do
    let column ← Column.ofScores scores
    if column.keys.length = candidates.length then return pick random (column.tied candidates) g
    else
      let (place, g) := pick random (← column.tiedPlaces) g
      match place.bind (candidates[·]?) with
      | some candidate => return (some candidate, g)
      | none => throw .noSuchEntry

end Carousel
