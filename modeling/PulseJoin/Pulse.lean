/-!
# Pulse ids

A pulse id is a signed 64-bit number.  The two ends of the range are ordinary ids, so arithmetic on
ids is held at the ends, or is done on integers and `ofInt?` says whether the result is an id.
-/

namespace PulseJoin

/-- The number under which all channels report one pulse of the machine. -/
abbrev PulseId := Int64

namespace PulseId

def clamp (n : Int) : Int64 :=
  if n < Int64.minValue.toInt then Int64.minValue
  else if Int64.maxValue.toInt < n then Int64.maxValue
  else Int64.ofInt n

def ofInt? (n : Int) : Option Int64 :=
  if Int64.minValue.toInt ≤ n ∧ n ≤ Int64.maxValue.toInt then some (Int64.ofInt n) else none

def add? (p q : Int64) : Option Int64 := ofInt? (p.toInt + q.toInt)

def saturatingSub (p q : Int64) : Int64 := clamp (p.toInt - q.toInt)

/-- The id before `p`; the least id is its own predecessor. -/
def pred (p : PulseId) : PulseId := saturatingSub p 1

end PulseId

end PulseJoin
