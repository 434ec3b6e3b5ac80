/-!
# Random numbers

A stream of 32-bit words from a seed: the keystream of ChaCha with twelve rounds and a block counter
of 64 bits, under a key that a small generator draws from the seed.
-/

namespace PulseJoin.Random

structure Row where
  x : UInt32
  y : UInt32
  z : UInt32
  w : UInt32
  deriving DecidableEq, Repr, Inhabited

namespace Row

def zipWith (f : UInt32 → UInt32 → UInt32) (a b : Row) : Row :=
  ⟨f a.x b.x, f a.y b.y, f a.z b.z, f a.w b.w⟩

def map (f : UInt32 → UInt32) (a : Row) : Row := ⟨f a.x, f a.y, f a.z, f a.w⟩

def turn (a : Row) : Row := ⟨a.y, a.z, a.w, a.x⟩

def toList (a : Row) : List UInt32 := [a.x, a.y, a.z, a.w]

end Row

def rotate (n : UInt32) (v : UInt32) : UInt32 := v <<< n ||| v >>> (32 - n)

structure Block where
  a : Row
  b : Row
  c : Row
  d : Row
  deriving DecidableEq, Repr, Inhabited

namespace Block

def toList (s : Block) : List UInt32 := s.a.toList ++ s.b.toList ++ s.c.toList ++ s.d.toList

def add (s t : Block) : Block :=
  ⟨.zipWith (· + ·) s.a t.a, .zipWith (· + ·) s.b t.b, .zipWith (· + ·) s.c t.c,
    .zipWith (· + ·) s.d t.d⟩

/-- Half of a quarter round on all columns: the rotations are by `m` and by `n` bits. -/
def mix (m n : UInt32) (s : Block) : Block :=
  let a := Row.zipWith (· + ·) s.a s.b
  let d := (Row.zipWith (· ^^^ ·) s.d a).map (rotate m)
  let c := Row.zipWith (· + ·) s.c d
  let b := (Row.zipWith (· ^^^ ·) s.b c).map (rotate n)
  ⟨a, b, c, d⟩

def round (s : Block) : Block := (s.mix 16 12).mix 8 7

/-- Turns the rows so that diagonals become columns. -/
def skew (s : Block) : Block := ⟨s.a, s.b.turn, s.c.turn.turn, s.d.turn.turn.turn⟩

def unskew (s : Block) : Block := ⟨s.a, s.b.turn.turn.turn, s.c.turn.turn, s.d.turn⟩

def doubleRound (s : Block) : Block := s.round.skew.round.unskew

/-- The block that a block stands for in the keystream. -/
def scramble (s : Block) : Block :=
  s.add s.doubleRound.doubleRound.doubleRound.doubleRound.doubleRound.doubleRound

end Block

structure Key where
  low : Row
  high : Row
  deriving DecidableEq, Repr, Inhabited

/-- The next state of the generator that keys are drawn from. -/
def advance (state : UInt64) : UInt64 := state * 6364136223846793005 + 11634580027462260723

def word (state : UInt64) : UInt32 :=
  let mixed := (((state >>> 18) ^^^ state) >>> 27).toUInt32
  let amount := (state >>> 59).toUInt32
  mixed >>> amount ||| mixed <<< ((32 - amount) % 32)

def drawRow (state : UInt64) : Row × UInt64 :=
  let s₁ := advance state
  let s₂ := advance s₁
  let s₃ := advance s₂
  let s₄ := advance s₃
  (⟨word s₁, word s₂, word s₃, word s₄⟩, s₄)

def Key.ofSeed (seed : UInt64) : Key :=
  let (low, state) := drawRow seed
  let (high, _) := drawRow state
  ⟨low, high⟩

def Key.words (k : Key) (counter : UInt64) : List UInt32 :=
  (Block.scramble ⟨⟨0x61707865, 0x3320646e, 0x79622d32, 0x6b206574⟩, k.low, k.high,
    ⟨counter.toUInt32, (counter >>> 32).toUInt32, 0, 0⟩⟩).toList

structure Stream where
  key : Key
  counter : UInt64 := 0
  pending : List UInt32 := []
  deriving DecidableEq, Repr, Inhabited

namespace Stream

def ofSeed (seed : UInt64) : Stream := { key := .ofSeed seed }

def next32 (s : Stream) : UInt32 × Stream :=
  match s.pending with
  | w :: rest => (w, { s with pending := rest })
  | [] =>
    let words := s.key.words s.counter
    (words.headD 0, { s with counter := s.counter + 1, pending := words.tail })

/-- The next two words as one number, the low one first. -/
def next64 (s : Stream) : UInt64 × Stream :=
  let (low, s) := s.next32
  let (high, s) := s.next32
  (high.toUInt64 <<< 32 ||| low.toUInt64, s)

end Stream

end PulseJoin.Random
