import PulseJoin.Random.Choice
import PulseJoin.Schedule

/-!
# Plans of producers

A producer emits a value for every pulse on its schedule.  It may drop some at random, and it may
emit those it keeps in a random order within windows.  Its plan is the list of pulses it will emit.
-/

namespace PulseJoin.Replay

open PulseJoin.Random

/--
Adds the pulses at the next `n` offsets to those found, up to the first offset that leads out of the
range.  An offset counts as a signed number, so those from `2 ^ 63` on go backwards.
-/
def pulsesAt (start : PulseId) (offset : Nat) : Nat → Array PulseId → Array PulseId
  | 0, found => found
  | n + 1, found =>
    match PulseId.add? start (.ofNat offset) with
    | some p => pulsesAt start (offset + 1) n (found.push p)
    | none => found

def pulsesFrom (start : PulseId) (count : Nat) : List PulseId :=
  (pulsesAt start 0 count #[]).toList

structure Plan where
  pulses : List PulseId
  dropped : UInt64
  deriving DecidableEq, Repr

structure Sieve where
  stream : Random.Stream
  kept : Array PulseId := #[]
  dropped : UInt64 := 0

def Sieve.add (s : Sieve) (chance : Chance) (p : PulseId) : Sieve :=
  let (happens, stream) := s.stream.happens chance
  if happens then { s with stream, dropped := s.dropped + 1 }
  else { s with stream, kept := s.kept.push p }

/-- The plan of the values of some pulses: those that are dropped, then the order of the others. -/
def planOf (chance : Chance) (window : Nat) (stream : Random.Stream) (pulses : List PulseId) :
    Plan :=
  let s := pulses.foldl (fun s p => s.add chance p) { stream : Sieve }
  let kept := s.kept.toList
  ⟨if 1 < window then (s.stream.shuffleBlocks window kept).1 else kept, s.dropped⟩

/--
The plan of a channel for `count` pulses from `start` on.  There is none if a pulse has to be asked
about with a period of zero, or a value with a drop rate that is no probability.
-/
def plan? (schedule : Schedule) (start : PulseId) (count : UInt64) (dropRate : Float)
    (window : UInt64) (seed : UInt64) : Option Plan :=
  let all := pulsesFrom start count.toNat
  if schedule.period = 0 then if all.isEmpty then some ⟨[], 0⟩ else none
  else
    let pulses := all.filter schedule.expects
    match Chance.ofFloat? dropRate with
    | some chance => some (planOf chance window.toNat (.ofSeed seed) pulses)
    | none => if pulses.isEmpty then some ⟨[], 0⟩ else none

end PulseJoin.Replay
