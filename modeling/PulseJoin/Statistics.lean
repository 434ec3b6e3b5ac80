import PulseJoin.Text.Fixed

/-!
# Running statistics

Extremes, mean and variance of a stream of doubles, updated value by value without keeping the
stream.  The order of the operations is part of the result.
-/

namespace PulseJoin

/-- The lesser of two doubles, the second of equal ones; a NaN gives way to the other. -/
def lesser (a b : Float) : Float := if a < b || b.isNaN then a else b

/-- The greater of two doubles, the second of equal ones; a NaN gives way to the other. -/
def greater (a b : Float) : Float := if b < a || b.isNaN then a else b

structure RunningStats where
  count : UInt64 := 0
  runningMean : Float := 0
  /-- Sum of the squared distances from the mean. -/
  squares : Float := 0
  least : Float := 0
  greatest : Float := 0
  deriving Inhabited

namespace RunningStats

def push (s : RunningStats) (x : Float) : RunningStats :=
  let count := s.count + 1
  if count = 1 then { count, runningMean := x, squares := 0, least := x, greatest := x }
  else
    let delta := x - s.runningMean
    let mean := s.runningMean + delta / count.toFloat
    { count
      runningMean := mean
      squares := s.squares + delta * (x - mean)
      least := lesser s.least x
      greatest := greater s.greatest x }

def ofList (xs : List Float) : RunningStats := xs.foldl push {}

def mean (s : RunningStats) : Float := if s.count = 0 then 0 else s.runningMean

def variance (s : RunningStats) : Float :=
  if s.count < 2 then 0 else s.squares / (s.count - 1).toFloat

def deviation (s : RunningStats) : Float := s.variance.sqrt

end RunningStats

structure StatsSummary where
  count : UInt64 := 0
  least : Float := 0
  greatest : Float := 0
  mean : Float := 0
  deviation : Float := 0
  deriving Inhabited

def RunningStats.summary (s : RunningStats) : StatsSummary where
  count := s.count
  least := s.least
  greatest := s.greatest
  mean := s.mean
  deviation := s.deviation

def figureText (x : Float) : String := Text.Fixed.text 3 x

def StatsSummary.text (s : StatsSummary) : String :=
  if s.count = 0 then "N/A"
  else
    s!"min={figureText s.least}, max={figureText s.greatest}, mean={figureText s.mean}, " ++
    s!"std={figureText s.deviation} (n={s.count})"

end PulseJoin
