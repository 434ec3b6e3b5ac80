import PulseJoin.Schedule

/-!
# Configuration

What a synchronizer is set up with: the channels, the limits on what it holds back, and the way
bundles reach their consumers.
-/

namespace PulseJoin

inductive DeliveryMode where
  /-- Bundles enter a queue of bounded size; a full queue refuses the newest one. -/
  | push (capacity : UInt64)
  /-- Bundles wait without bound until a consumer asks. -/
  | pull
  deriving DecidableEq, Repr

def DeliveryMode.standard : DeliveryMode := .push 1000

instance : Inhabited DeliveryMode := ⟨.standard⟩

structure Config where
  channels : List Schedule
  maxBuffered : UInt64 := 100
  /-- Longest time in milliseconds a pulse is held back. -/
  maxAge? : Option UInt64 := none
  /-- Whether a pulse that had to leave early is delivered as it is. -/
  sendIncomplete : Bool := false
  /-- Whether the first complete pulse sets aside all older ones. -/
  sendFirstComplete : Bool := false
  delivery : DeliveryMode := .standard
  deriving DecidableEq, Repr, Inhabited

def DeliveryMode.describe : DeliveryMode → String
  | .push capacity => s!"push (queue {capacity})"
  | .pull => "pull"

end PulseJoin
