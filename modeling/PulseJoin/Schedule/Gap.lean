import PulseJoin.Schedule

/-!
# Pulses between two pulses

A complete pulse has to wait while an earlier pulse may still arrive.  Whether one may is a question
about schedules only: is some channel expected on a pulse strictly between two given ones?  It is
answered by counting the channel's own pulses up to either end, without walking the interval.
-/

namespace PulseJoin.Schedule

/-- Number of periods from the channel's phase up to pulse `p`, shifted by one. -/
def hops (s : Schedule) (p : PulseId) : Int :=
  (p.toInt + s.period.toInt - s.phase.toInt) / s.period.toInt

/--
Whether the channel is expected strictly between two pulses that are `gap > 1` apart.  An interval
longer than the period always holds one; else the channel's pulses up to either end are compared,
and one hop counts only if it lands on neither end.
-/
def expectsWithin (s : Schedule) (last next : PulseId) (gap : Int) : Bool :=
  if gap > s.period.toInt then true
  else
    let passed := s.hops next - s.hops last
    if passed > 1 then true
    else if passed = 1 then !s.expects last && !s.expects next
    else false

def pulseMissing (schedules : List Schedule) (last next : PulseId) : Bool :=
  let gap := next.toInt - last.toInt
  if gap ≤ 1 then false else schedules.any (·.expectsWithin last next gap)

/-! ## The same test with divisions that can fail -/

def quotient? (n d : Int) : Option Int := if d = 0 then none else some (n / d)

def hops? (s : Schedule) (p : PulseId) : Option Int :=
  quotient? (p.toInt + s.period.toInt - s.phase.toInt) s.period.toInt

def expectsWithin? (s : Schedule) (last next : PulseId) (gap : Int) : Option Bool :=
  if gap > s.period.toInt then some true
  else do
    let passed := (← s.hops? next) - (← s.hops? last)
    if passed > 1 then some true
    else if passed = 1 then
      if ← s.expects? last then some false else (! ·) <$> s.expects? next
    else some false

/-- Asks the schedules in turn and stops at the first that is expected. -/
def anyWithin? (last next : PulseId) (gap : Int) : List Schedule → Option Bool
  | [] => some false
  | s :: rest => do
    if ← s.expectsWithin? last next gap then some true else anyWithin? last next gap rest

/-- Like `pulseMissing`, on schedules of any periods; `none` would be a division by zero. -/
def pulseMissing? (schedules : List Schedule) (last next : PulseId) : Option Bool :=
  let gap := next.toInt - last.toInt
  if gap ≤ 1 then some false else anyWithin? last next gap schedules

end PulseJoin.Schedule
