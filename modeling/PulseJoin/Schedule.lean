import PulseJoin.Pulse

/-!
# Channel schedules

A channel publishes on the pulses whose distance from its phase is a multiple of its period.  The
rule is exact integer arithmetic, also for negative ids and at the ends of the range.
-/

namespace PulseJoin

structure Schedule where
  name : String
  period : Int64 := 1
  phase : Int64 := 0
  deriving DecidableEq, Repr, Inhabited

namespace Schedule

def everyPulse (name : String) : Schedule := { name }

def expects (s : Schedule) (p : PulseId) : Bool :=
  (p.toInt - s.phase.toInt) % s.period.toInt == 0

/-- Whether the channel publishes on pulse `p`; a period of zero has no answer. -/
def expects? (s : Schedule) (p : PulseId) : Option Bool :=
  if s.period = 0 then none else some (s.expects p)

theorem expects?_of_period_ne_zero {s : Schedule} (h : s.period ≠ 0) (p : PulseId) :
    s.expects? p = some (s.expects p) := by
  simp [expects?, h]

def expectedCount (schedules : List Schedule) (p : PulseId) : Nat :=
  schedules.countP (·.expects p)

def expectedCount? (schedules : List Schedule) (p : PulseId) : Option Nat :=
  (schedules.mapM fun s : Schedule => s.expects? p).map fun answers => answers.count true

end Schedule

end PulseJoin
