import PulseJoin.Pulse

/-!
# Watermarks

Two ids that only move one way: the smallest id ever accepted, which falls, and the highest id
resolved, which rises.  Before their first move they stand at the far ends of the range.
-/

namespace PulseJoin

structure Watermarks where
  /-- The smallest id accepted so far, the greatest id before the first. -/
  smallestSeen : PulseId := Int64.maxValue
  /-- The highest id resolved so far, the least id before the first. -/
  boundary : PulseId := Int64.minValue
  deriving DecidableEq, Repr, Inhabited

namespace Watermarks

def observe (w : Watermarks) (p : PulseId) : Watermarks :=
  { w with smallestSeen := min w.smallestSeen p }

def lowers (w : Watermarks) (p : PulseId) : Bool := p < w.smallestSeen

def advance (w : Watermarks) (p : PulseId) : Watermarks :=
  { w with boundary := max w.boundary p }

def raises (w : Watermarks) (p : PulseId) : Bool := w.boundary < p

def unresolved (w : Watermarks) : Bool := w.boundary == Int64.minValue

def jump (w : Watermarks) (p : PulseId) : Watermarks :=
  if w.unresolved then { w with boundary := p } else w

def passed (w : Watermarks) (p : PulseId) : Bool := p ≤ w.boundary

/-- The pulse behind which the next one must not leave a gap. -/
def reference (w : Watermarks) : PulseId := max w.smallestSeen w.boundary

def smallest? (w : Watermarks) : Option PulseId :=
  if w.smallestSeen = Int64.maxValue then none else some w.smallestSeen

def boundary? (w : Watermarks) : Option PulseId :=
  if w.unresolved then none else some w.boundary

end Watermarks

end PulseJoin
