import PulseJoin.Config

/-!
# Advice on a configuration

Settings that are allowed and still worth a word to the operator.
-/

namespace PulseJoin.Config

inductive Advice where
  | noAgeLimit
  | startupDiscards
  | shortBuffer (maxBuffered : UInt64) (longest : Int64)
  | shortQueue (capacity maxBuffered : UInt64)
  deriving DecidableEq, Repr

def Advice.text : Advice → String
  | .noAgeLimit => "max_pulse_age_ms not set - incomplete pulses are only evicted by buffer size"
  | .startupDiscards => "send_first_complete enabled - " ++
      "pending pulses older than the first complete pulse are discarded"
  | .shortBuffer maxBuffered longest =>
      s!"max_buffered_pulses ({maxBuffered}) is smaller than the longest channel period " ++
      s!"({longest}) - pulses of that channel may be evicted before it publishes"
  | .shortQueue capacity maxBuffered =>
      s!"delivery.queue_capacity ({capacity}) is smaller than max_buffered_pulses " ++
      s!"({maxBuffered}) - a slow consumer will lose bundles"

/-- The longest period; without channels that of a channel on every pulse. -/
def longestPeriod (c : Config) : Int64 := (c.channels.map (·.period)).max?.getD 1

/--
The remarks on a configuration.  The buffer limit is compared with periods as a signed 64-bit
number, so a limit in the upper half of its range counts as negative.
-/
def advice (c : Config) : List Advice :=
  (if c.maxAge?.isNone then [.noAgeLimit] else []) ++
  (if c.sendFirstComplete then [.startupDiscards] else []) ++
  (if c.maxBuffered.toInt64 < c.longestPeriod then
    [.shortBuffer c.maxBuffered c.longestPeriod] else []) ++
  (match c.delivery with
    | .push capacity =>
      if capacity < c.maxBuffered then [.shortQueue capacity c.maxBuffered] else []
    | .pull => [])

def warnings (c : Config) : List String := c.advice.map (·.text)

end PulseJoin.Config
