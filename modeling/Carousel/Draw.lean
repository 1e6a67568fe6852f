import Carousel.Fault

/-!
# Random numbers

Two generators are started from a seed: one breaks ties, the other one draws graphs.
-/

namespace Carousel

/-! ## Seeds

A seed of any size is mixed into a pool of four words, from which the starting words of a
generator are drawn.  All arithmetic on words wraps. -/

namespace Draw

/-- The 32-bit words of a number, the low word first; zero has one word. -/
def words (n : Nat) : List UInt32 :=
  (List.range (Nat.log2 n / 32 + 1)).map fun (k : Nat) => UInt32.ofNat (n / Nat.pow 2 (32 * k))

abbrev Pool := Vector UInt32 4

namespace Pool

/-- Stirs one word.  The running multiplier, which is the state, changes with every word. -/
def stir (word : UInt32) : StateM UInt32 UInt32 := do
  let word := word ^^^ (← get)
  modify (· * 0x931e8875)
  let word := word * (← get)
  return word ^^^ (word >>> 16)

def join (x y : UInt32) : UInt32 :=
  let joined := x * 0xca01f9dd - y * 0x4973f715
  joined ^^^ (joined >>> 16)

def absorb (pool : Pool) (place : Fin 4) (word : UInt32) : StateM UInt32 Pool := do
  return pool.set place (join pool[place] (← stir word))

def mixingOrder : List (Fin 4 × Fin 4) :=
  (List.finRange 4).flatMap fun source =>
    ((List.finRange 4).filter (· ≠ source)).map (source, ·)

/-- The pool of a seed: its first four words are stirred and mixed with each other, and every
further word is stirred into all places. -/
def ofSeed (seed : Nat) : Pool :=
  let entropy := words seed
  let fill : StateM UInt32 Pool := do
    let first ← (List.range 4).mapM fun (k : Nat) => stir (entropy.getD k 0)
    let pool : Pool := Vector.ofFn fun (place : Fin 4) => first.getD place 0
    let pool ← mixingOrder.foldlM (fun pool pair => absorb pool pair.2 pool[pair.1]) pool
    (entropy.drop 4).foldlM
      (fun pool word => (List.finRange 4).foldlM (fun pool place => absorb pool place word) pool)
      pool
  (fill.run 0x43b0d7e5).1

def output (pool : Pool) (count : Nat) : List UInt32 :=
  let draw (k : Nat) : StateM UInt32 UInt32 := do
    let word := pool.get (Fin.ofNat 4 k) ^^^ (← get)
    modify (· * 0x58f38ded)
    let word := word * (← get)
    return word ^^^ (word >>> 16)
  (((List.range count).mapM draw).run 0x8b51f9dd).1

end Pool

/-! ## The graph generator

A twisted feedback shift register of 624 words, from which random graphs are drawn. -/

structure Twister where
  register : Array UInt32
  place : Nat

namespace Twister

def size : Nat := 624

def distance : Nat := 397

def initialRegister : Array UInt32 :=
  let step (filled : Array UInt32 × UInt32) (k : Nat) : Array UInt32 × UInt32 :=
    let word := (1812433253 : UInt32) * (filled.2 ^^^ (filled.2 >>> 30)) + UInt32.ofNat (k + 1)
    (filled.1.push word, word)
  ((List.range (size - 1)).foldl step (#[19650218], 19650218)).1

/-- A pass over the register, from the second place on and cyclically over all but the first.
Each word is mixed with its predecessor and an addend that depends on the count of steps and on
the place; the first place repeats the last. -/
def pass (factor : UInt32) (addend : Nat → Nat → UInt32) (count : Nat)
    (start : Array UInt32 × Nat) : Array UInt32 × Nat :=
  (List.range count).foldl (fun (register, place) step =>
    let before := register.getD (place - 1) 0
    let mixed := (register.getD place 0 ^^^ ((before ^^^ (before >>> 30)) * factor))
      + addend step place
    let register := register.setIfInBounds place mixed
    if place + 1 < size then (register, place + 1)
    else (register.setIfInBounds 0 (register.getD (size - 1) 0), 1)) start

def ofSeed (seed : Int) : Twister :=
  let key := (words seed.natAbs).toArray
  let seedAddend (step _place : Nat) : UInt32 :=
    let index := step % key.size
    key.getD index 0 + UInt32.ofNat index
  let placeAddend (_step place : Nat) : UInt32 := 0 - UInt32.ofNat place
  let mixed := pass 1664525 seedAddend (max size key.size) (initialRegister, 1)
  let (register, _) := pass 1566083941 placeAddend (size - 1) mixed
  { register := register.setIfInBounds 0 0x80000000, place := size }

def renew (register : Array UInt32) : Array UInt32 :=
  (List.range size).foldl (fun register place =>
    let joined := (register.getD place 0 &&& 0x80000000) |||
      (register.getD ((place + 1) % size) 0 &&& 0x7fffffff)
    let feedback : UInt32 := if joined &&& 1 = 0 then 0 else 0x9908b0df
    register.setIfInBounds place
      (register.getD ((place + distance) % size) 0 ^^^ (joined >>> 1) ^^^ feedback)) register

def temper (word : UInt32) : UInt32 :=
  let word := word ^^^ (word >>> 11)
  let word := word ^^^ ((word <<< 7) &&& 0x9d2c5680)
  let word := word ^^^ ((word <<< 15) &&& 0xefc60000)
  word ^^^ (word >>> 18)

def next32 (t : Twister) : UInt32 × Twister :=
  let t := if t.place < size then t else { register := renew t.register, place := 0 }
  (temper (t.register.getD t.place 0), { t with place := t.place + 1 })

/-- The next random fraction in `[0, 1)`, as a numerator over `2 ^ 53`. -/
def nextFraction (t : Twister) : Nat × Twister :=
  let (high, t) := t.next32
  let (low, t) := t.next32
  ((high >>> 5).toNat * Nat.pow 2 26 + (low >>> 6).toNat, t)

end Twister

/-! ## The tie-breaking generator

A permuted congruential generator with 128 bits of state.  It hands out 64 random bits at a time,
split into two halves of which the second is kept for the next request. -/

/-- A generator: its state, the odd increment, and a half that was not used yet. -/
structure Generator where
  state : BitVec 128
  increment : BitVec 128
  spare : Option UInt32
deriving DecidableEq

instance : Inhabited Generator := ⟨⟨0, 1, none⟩⟩

namespace Generator

def multiplier : BitVec 128 := 0x2360ED051FC65DA44385DF649FCCF645#128

def advance (g : Generator) : Generator :=
  { g with state := g.state * multiplier + g.increment }

def join128 (a b c d : UInt32) : BitVec 128 :=
  BitVec.ofNat 128
    ((a.toNat + b.toNat * Nat.pow 2 32) * Nat.pow 2 64 + (c.toNat + d.toNat * Nat.pow 2 32))

def ofSeed (seed : Nat) : Generator :=
  let word (k : Nat) : UInt32 := ((Pool.ofSeed seed).output 8).getD k 0
  let start : Generator :=
    { state := 0
      increment := join128 (word 4) (word 5) (word 6) (word 7) <<< 1 ||| 1
      spare := none }
  let stepped := start.advance
  { stepped with state := stepped.state + join128 (word 0) (word 1) (word 2) (word 3) }.advance

/-- The next 64 bits: the two halves of the state joined and rotated by its leading bits. -/
def next64 (g : Generator) : BitVec 64 × Generator :=
  let g := g.advance
  let folded := (g.state >>> 64).truncate 64 ^^^ g.state.truncate 64
  (folded.rotateRight (g.state >>> 122).toNat, g)

/-- The next 32 bits: the spare half if there is one, otherwise the low half of 64 new bits. -/
def next32 (g : Generator) : UInt32 × Generator :=
  match g.spare with
  | some half => (half, { g with spare := none })
  | none =>
    let (bits, g) := g.next64
    (UInt32.ofNat bits.toNat, { g with spare := some (UInt32.ofNat (bits.toNat / Nat.pow 2 32)) })

/-- A multiple of `n` whose low word is not below the threshold, drawn anew at most `fuel` times
while it is. -/
def unbiased (n threshold : Nat) : Nat → Generator → Nat × Generator
  | 0, g =>
    let (word, g) := g.next32
    (word.toNat * n, g)
  | fuel + 1, g =>
    let (word, g) := g.next32
    let product := word.toNat * n
    if product % Nat.pow 2 32 < threshold then unbiased n threshold fuel g else (product, g)

/-- How often a biased draw is repeated.  A draw is biased with a chance of less than one half. -/
def maxRepeats : Nat := 256

/-- A number below `n`, every one equally likely.  The only number below one needs no draw. -/
def below (n : Nat) (g : Generator) : Nat × Generator :=
  if n ≤ 1 then (0, g)
  else
    let (product, g) := unbiased n ((Nat.pow 2 32 - n) % n) maxRepeats g
    (product / Nat.pow 2 32, g)

theorem unbiased_lt {n : Nat} (hn : 0 < n) (threshold fuel : Nat) (g : Generator) :
    (unbiased n threshold fuel g).1 < Nat.pow 2 32 * n := by
  induction fuel generalizing g with
  | zero => exact Nat.mul_lt_mul_of_pos_right (UInt32.toNat_lt _) hn
  | succ fuel ih =>
    simp only [unbiased]
    split
    · exact ih _
    · exact Nat.mul_lt_mul_of_pos_right (UInt32.toNat_lt _) hn

/-- A number drawn below `n` is below `n`. -/
theorem below_lt {n : Nat} (hn : 0 < n) (g : Generator) : (g.below n).1 < n := by
  unfold below
  split
  · exact hn
  · exact Nat.div_lt_of_lt_mul (unbiased_lt hn _ _ _)

end Generator

end Draw

/-! ## Seeds and bounds of a caller

A seed or a bound that comes from a caller is any integer.  A seed must not be negative.  A bound
must be positive and at most `2 ^ 63`; numbers below a bound of more than 32 bits are drawn from 64
random bits at a time. -/

namespace Draw.Generator

def ofInteger (seed : Int) : Except Fault Generator :=
  if seed < 0 then .error .negativeSeed else .ok (ofSeed seed.toNat)

/-- A multiple of `n` whose low 64 bits are not below the threshold, drawn anew at most `fuel` times
while they are. -/
def unbiasedWide (n threshold : Nat) : Nat → Generator → Nat × Generator
  | 0, g =>
    let (bits, g) := g.next64
    (bits.toNat * n, g)
  | fuel + 1, g =>
    let (bits, g) := g.next64
    let product := bits.toNat * n
    if product % Nat.pow 2 64 < threshold then unbiasedWide n threshold fuel g else (product, g)

def belowWide (n : Nat) (g : Generator) : Nat × Generator :=
  if n < Nat.pow 2 32 then g.below n
  else if n = Nat.pow 2 32 then
    let (word, g) := g.next32
    (word.toNat, g)
  else
    let (product, g) := unbiasedWide n ((Nat.pow 2 64 - n) % n) maxRepeats g
    (product / Nat.pow 2 64, g)

def draw (bound : Int) (g : Generator) : Except Fault (Nat × Generator) :=
  if bound ≤ 0 then .error .emptyDraw
  else if Nat.pow 2 63 < bound then .error .boundTooLarge
  else .ok (g.belowWide bound.toNat)

end Draw.Generator

end Carousel
