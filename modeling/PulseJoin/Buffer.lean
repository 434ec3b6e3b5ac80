import PulseJoin.Bundle

/-!
# The pulse buffer

Pulses that wait for their channels, by id.  The buffer is a sorted map, so its first entry is the
oldest pulse.  A pulse remembers when its first value came; later values do not make it younger.
-/

namespace PulseJoin

universe u

structure Pending (α : Type u) where
  pulse : PulseId
  /-- Clock reading in milliseconds at the first value. -/
  createdAt : UInt64
  values : ChannelMap α

namespace Pending

variable {α : Type u}

def size (w : Pending α) : Nat := w.values.size

/-- Milliseconds since the first value; none on a clock that went back behind it. -/
def age (w : Pending α) (now : UInt64) : UInt64 :=
  if now ≤ w.createdAt then 0 else now - w.createdAt

end Pending

abbrev PulseBuffer (α : Type u) := SortedMap PulseId (Pending α)

structure Stored where
  /-- Number of channels the pulse has now. -/
  filled : Nat
  replaced : Bool
  deriving DecidableEq, Repr

namespace PulseBuffer

variable {α : Type u}

def entry (b : PulseBuffer α) (p : PulseId) (now : UInt64) : Pending α :=
  (b.get? p).getD ⟨p, now, .empty⟩

def storing (b : PulseBuffer α) (p : PulseId) (channel : String) (value : α) (now : UInt64) :
    Stored :=
  let old := (b.entry p now).values
  ⟨(old.insert channel value).size, old.contains channel⟩

def store (b : PulseBuffer α) (p : PulseId) (channel : String) (value : α) (now : UInt64) :
    PulseBuffer α :=
  let old := b.entry p now
  b.insert p { old with values := old.values.insert channel value }

def oldest? (b : PulseBuffer α) : Option PulseId := b.first?.map (·.1)

def newest? (b : PulseBuffer α) : Option PulseId := b.last?.map (·.1)

end PulseBuffer

end PulseJoin
