import PulseJoin.Config
import PulseJoin.Count
import PulseJoin.Telemetry

/-!
# Events of a synchronizer

Everything a synchronizer does that an operator can see is an event.  An event has three readings:
what it adds to the counters (`Counters.count`), what it tells the metrics (`Event.samples`) and the
line it writes into the log (`Event.line?`).
-/

namespace PulseJoin

/-- Why a pulse had to leave the buffer before it was complete and next. -/
inductive Pressure where
  | size | age
  deriving DecidableEq, Repr

inductive Event where
  | created (config : Config)
  | received
  | ignored
  | unknownChannel (channel : String) (pulse : PulseId)
  | offSchedule (schedule : Schedule) (pulse : PulseId)
  | stale (channel : String) (pulse boundary : PulseId)
  | replaced (pulse : PulseId)
  | startupDiscarded (pulse : PulseId) (count : Nat) (oldest : PulseId)
  | buffered
  | occupancy (pulses : Nat)
  | waiting (pulse reference : PulseId)
  | cutShort (pulse : PulseId) (expected received : Nat) (pressure : Option Pressure) (kept : Bool)
  | delivered (pulse : PulseId) (complete : Bool)
  | queueFull (pulse : PulseId) (complete : Bool)
  | outletClosed (pulse : PulseId) (complete : Bool)
  | pullWithoutQueue
  | closed (buffered : Nat) (boundary : Option PulseId)
  deriving DecidableEq, Repr

/-! ## Counters -/

structure Counters where
  received : UInt64 := 0
  buffered : UInt64 := 0
  stale : UInt64 := 0
  unknownChannel : UInt64 := 0
  offSchedule : UInt64 := 0
  duplicates : UInt64 := 0
  complete : UInt64 := 0
  incomplete : UInt64 := 0
  evicted : UInt64 := 0
  startupDiscarded : UInt64 := 0
  queueFull : UInt64 := 0
  deriving DecidableEq, Repr, Inhabited

namespace Counters

def count (c : Counters) : Event → Counters
  | .received => { c with received := c.received + 1 }
  | .buffered => { c with buffered := c.buffered + 1 }
  | .stale .. => { c with stale := c.stale + 1 }
  | .unknownChannel .. => { c with unknownChannel := c.unknownChannel + 1 }
  | .offSchedule .. => { c with offSchedule := c.offSchedule + 1 }
  | .replaced _ => { c with duplicates := c.duplicates + 1 }
  | .delivered _ true => { c with complete := c.complete + 1 }
  | .delivered _ false => { c with incomplete := c.incomplete + 1 }
  | .cutShort _ _ _ _ false => { c with evicted := c.evicted + 1 }
  | .startupDiscarded _ n _ => { c with startupDiscarded := c.startupDiscarded + .ofNat n }
  | .queueFull .. => { c with queueFull := c.queueFull + 1 }
  | .created _ | .ignored | .occupancy _ | .waiting .. | .cutShort .. | .outletClosed ..
  | .pullWithoutQueue | .closed .. => c

def delivered? (c : Counters) : Option UInt64 := Count.add? c.complete c.incomplete

def rejected? (c : Counters) : Option UInt64 := do
  Count.add? (← Count.add? c.stale c.unknownChannel) c.offSchedule

end Counters

namespace Event

/-! ## Metrics -/

open Telemetry in
def samples : Event → List Sample
  | .unknownChannel .. => [.count (.messagesDropped .unknownChannel) 1]
  | .offSchedule .. => [.count (.messagesDropped .offSchedule) 1]
  | .stale .. => [.count (.messagesDropped .stale) 1]
  | .startupDiscarded _ n _ => [.count .startupDiscarded (.ofNat n)]
  | .occupancy n => [.set .bufferedPulses n.toFloat]
  | .cutShort _ _ _ _ false => [.count (.bundles .evicted) 1]
  | .delivered _ complete => [.count (.bundles (if complete then .complete else .incomplete)) 1]
  | .queueFull .. => [.count .queueFull 1]
  | _ => []

end Event

/-! ## Log lines -/

inductive Level where
  | trace | debug | info | warn
  deriving DecidableEq, Repr

def Level.name : Level → String
  | .trace => "TRACE"
  | .debug => "DEBUG"
  | .info => "INFO"
  | .warn => "WARN"

structure LogLine where
  level : Level
  message : String
  fields : List (String × String) := []
  deriving DecidableEq, Repr

def optionText {α : Type} [ToString α] : Option α → String
  | none => "None"
  | some a => s!"Some({a})"

def DeliveryMode.text : DeliveryMode → String
  | .push capacity => s!"Push \x7b queue_capacity: {capacity} \x7d"
  | .pull => "Pull"

def Pressure.label : Option Pressure → String
  | some .size => "size"
  | some .age => "age"
  | none => "unknown"

def statusLabel (complete : Bool) : String := if complete then "complete" else "incomplete"

namespace Event

def line? : Event → Option LogLine
  | .created c => some ⟨.info, "pulse synchronizer created",
      [("channels", toString c.channels.length),
        ("max_buffered_pulses", toString c.maxBuffered),
        ("max_pulse_age_ms", optionText c.maxAge?),
        ("send_incomplete", toString c.sendIncomplete),
        ("send_first_complete", toString c.sendFirstComplete),
        ("delivery", c.delivery.text)]⟩
  | .ignored => some ⟨.debug, "synchronizer closed, message ignored", []⟩
  | .unknownChannel channel p => some ⟨.info, "message from unconfigured channel dropped",
      [("channel", channel), ("pulse_id", toString p)]⟩
  | .offSchedule s p => some ⟨.debug, "pulse not on channel schedule, message dropped",
      [("channel", s.name), ("pulse_id", toString p), ("period", toString s.period),
        ("phase", toString s.phase)]⟩
  | .stale channel p boundary => some ⟨.info, "stale pulse dropped",
      [("channel", channel), ("pulse_id", toString p), ("boundary", toString boundary)]⟩
  | .replaced p => some ⟨.debug, "duplicate channel value replaced", [("pulse_id", toString p)]⟩
  | .startupDiscarded p n oldest =>
      some ⟨.info, "first complete pulse, older pending pulses discarded",
        [("pulse_id", toString p), ("discarded", toString n), ("oldest", toString oldest)]⟩
  | .waiting p reference => some ⟨.trace, "complete pulse waits for an earlier pulse",
      [("pulse_id", toString p), ("reference", toString reference)]⟩
  | .cutShort p expected got pressure kept =>
      some ⟨.info,
        if kept then "pulse evicted, delivering incomplete bundle"
        else "pulse evicted incomplete, dropped",
        [("pulse_id", toString p), ("expected", toString expected),
          ("received", toString got), ("reason", Pressure.label pressure)]⟩
  | .queueFull p complete => some ⟨.warn, "output queue full, bundle dropped",
      [("pulse_id", toString p), ("status", statusLabel complete)]⟩
  | .outletClosed p complete => some ⟨.debug, "synchronizer closed, bundle discarded",
      [("pulse_id", toString p), ("status", statusLabel complete)]⟩
  | .pullWithoutQueue => some ⟨.warn, "next_message called on a push-mode synchronizer", []⟩
  | .closed left boundary => some ⟨.info, "pulse synchronizer closed",
      [("buffered", toString left), ("boundary", optionText boundary)]⟩
  | .received | .buffered | .occupancy _ | .delivered .. => none

end Event

end PulseJoin
