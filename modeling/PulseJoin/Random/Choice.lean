import PulseJoin.Random

/-!
# Random choices

Choices that are made with the words of a stream: whether something of a given probability happens,
a number below a bound, and the order of a list.
-/

namespace PulseJoin.Random

/-! ## Chances -/

inductive Chance where
  | never
  | always
  /-- The number of 64-bit values out of `2 ^ 64` for which it happens. -/
  | below (values : UInt64)
  deriving DecidableEq, Repr

/-- The chance of a probability: none at zero or less; more than one is no probability. -/
def Chance.ofFloat? (p : Float) : Option Chance :=
  if p ≤ 0 then some .never
  else if p == 1 then some .always
  else if p < 1 then some (.below (p * 18446744073709551616).toUInt64)
  else none

def Stream.happens (s : Stream) : Chance → Bool × Stream
  | .never => (false, s)
  | .always => (true, s)
  | .below values =>
    let (x, s) := s.next64
    (x < values, s)

/-! ## Numbers -/

/-- A number below a bound of at most `2 ^ 32`; a second word decides the few that are in doubt. -/
def Stream.below (s : Stream) (bound : Nat) : Nat × Stream :=
  let (x, s) := s.next32
  let product := x.toNat * bound
  let high := product / UInt32.size
  let low := product % UInt32.size
  if UInt32.size - bound < low then
    let (y, s) := s.next32
    (if low + y.toNat * bound / UInt32.size < UInt32.size then high else high + 1, s)
  else (high, s)

/-! ## Orders -/

/--
Extends a product `product` of `count` numbers up to `last` by those that follow, as long as it fits
into 32 bits.
-/
def extendGroup : Nat → Nat → Nat → Nat → Nat × Nat
  | 0, product, _, count => (product, count)
  | fuel + 1, product, last, count =>
    if product * (last + 1) < UInt32.size then
      extendGroup fuel (product * (last + 1)) (last + 1) (count + 1)
    else (product, count)

/-- The greatest product of numbers from `m` on that fits into 32 bits, and how many they are. -/
def group (m : Nat) : Nat × Nat := extendGroup 32 m m 1

/--
A source of indices, each of them no greater than the number of indices before it.  One random
number serves a whole group of them.
-/
structure Picker where
  stream : Stream
  count : Nat := 0
  /-- What is left of the number drawn for the group. -/
  chunk : Nat := 0
  /-- Number of indices the group still serves; the first index is zero and needs no number. -/
  left : Nat := 1

namespace Picker

def refill (p : Picker) : Picker :=
  if p.left = 0 then
    let (bound, left) := group (p.count + 1)
    let (chunk, stream) := p.stream.below bound
    { p with stream, chunk, left }
  else p

def pick (p : Picker) : Nat × Picker :=
  let p := p.refill
  let m := p.count + 1
  if p.left = 1 then (p.chunk, { p with count := m, left := 0 })
  else (p.chunk % m, { p with count := m, chunk := p.chunk / m, left := p.left - 1 })

end Picker

variable {α : Type}

/-- Swaps every item in turn with one that is not behind it. -/
def swapEach (p : Picker) (xs : Array α) : Array α × Picker :=
  (List.range xs.size).foldl
    (fun (xs, p) i =>
      let (j, p) := p.pick
      (xs.swapIfInBounds i j, p))
    (xs, p)

def Stream.shuffle (s : Stream) (xs : List α) : List α × Stream :=
  match xs with
  | [] | [_] => (xs, s)
  | _ =>
    let (ys, p) := swapEach { stream := s } xs.toArray
    (ys.toList, p.stream)

def Stream.shuffleBlocksAfter (s : Stream) (window : Nat) (done : Array α) :
    List α → Array α × Stream
  | [] => (done, s)
  | x :: xs =>
    if _h : window = 0 then (done ++ x :: xs, s)
    else
      let (block, s) := s.shuffle ((x :: xs).take window)
      s.shuffleBlocksAfter window (done ++ block) ((x :: xs).drop window)
termination_by xs => xs.length
decreasing_by simp only [List.length_drop, List.length_cons]; omega

/-- Puts every block of `window` items into a random order; the last one may be shorter. -/
def Stream.shuffleBlocks (s : Stream) (window : Nat) (xs : List α) : List α × Stream :=
  let (ys, s) := s.shuffleBlocksAfter window #[] xs
  (ys.toList, s)

end PulseJoin.Random
