import PulseJoin.Pulse
import PulseJoin.SortedMap

/-!
# Messages and bundles

A message is one channel's value for one pulse; a bundle is what the synchronizer hands out for a
pulse: the values of the channels that reported it and how many were expected.
-/

namespace PulseJoin

universe u

structure Message (α : Type u) where
  channel : String
  pulse : PulseId
  payload : α
  deriving DecidableEq, Repr

abbrev ChannelMap (α : Type u) := SortedMap String α

structure Bundle (α : Type u) where
  pulse : PulseId
  values : ChannelMap α
  expected : Nat

namespace Bundle

variable {α : Type u}

def size (b : Bundle α) : Nat := b.values.size

def isEmpty (b : Bundle α) : Bool := b.values.isEmpty

def get? (b : Bundle α) (channel : String) : Option α := b.values.get? channel

def channels (b : Bundle α) : List String := b.values.keys

def isComplete (b : Bundle α) : Bool := b.expected ≤ b.size

/-- The part of the expected channels that has a value; all of them when none is expected. -/
def fillRatio (b : Bundle α) : Float :=
  if b.expected = 0 then 1 else b.size.toFloat / b.expected.toFloat

end Bundle

end PulseJoin
