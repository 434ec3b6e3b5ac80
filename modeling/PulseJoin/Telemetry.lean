/-!
# Telemetry

Readings of counters, gauges and histograms.  A reading exists once its instrument was used: a
counter holds the sum of its increments modulo `2 ^ 64`, a gauge its last value, a histogram all
values in order.
-/

namespace PulseJoin.Telemetry

inductive DropReason where
  | unknownChannel | offSchedule | stale
  deriving DecidableEq, Repr

inductive BundleStatus where
  | complete | incomplete | evicted
  deriving DecidableEq, Repr

inductive Counter where
  | messagesDropped (reason : DropReason)
  | bundles (status : BundleStatus)
  | queueFull
  | startupDiscarded
  | bundlesConsumed (complete : Bool)
  | messagesReceived (channel : String)
  deriving DecidableEq, Repr

inductive Gauge where
  | bufferedPulses | lastPulse | pendingBundles
  deriving DecidableEq, Repr

inductive Histogram where
  | fillRatio | bundleChannels
  deriving DecidableEq, Repr

def DropReason.label : DropReason → String
  | .unknownChannel => "unknown_channel"
  | .offSchedule => "off_schedule"
  | .stale => "stale"

def BundleStatus.label : BundleStatus → String
  | .complete => "complete"
  | .incomplete => "incomplete"
  | .evicted => "evicted"

def labelled (name label value : String) : String :=
  name ++ "\x7b" ++ label ++ "=" ++ value ++ "\x7d"

def Counter.name : Counter → String
  | .messagesDropped r => labelled "pulse_sync_messages_dropped_total" "reason" r.label
  | .bundles s => labelled "pulse_sync_bundles_total" "status" s.label
  | .queueFull => "pulse_sync_queue_full_total"
  | .startupDiscarded => "pulse_sync_startup_discarded_total"
  | .bundlesConsumed complete =>
    labelled "pulse_syncer_bundles_consumed_total" "status"
      (if complete then "complete" else "incomplete")
  | .messagesReceived channel =>
    labelled "pulse_syncer_messages_received_total" "channel" channel

def Gauge.name : Gauge → String
  | .bufferedPulses => "pulse_sync_buffered_pulses"
  | .lastPulse => "pulse_syncer_last_pulse_id"
  | .pendingBundles => "pulse_syncer_pending_bundles"

def Histogram.name : Histogram → String
  | .fillRatio => "pulse_syncer_bundle_fill_ratio"
  | .bundleChannels => "pulse_syncer_bundle_channels"

inductive Sample where
  | count (counter : Counter) (increment : UInt64)
  | set (gauge : Gauge) (value : Float)
  | observe (histogram : Histogram) (value : Float)

/-- All readings, in the order of first use. -/
structure Readings where
  counters : List (Counter × UInt64) := []
  gauges : List (Gauge × Float) := []
  histograms : List (Histogram × List Float) := []
  deriving Inhabited

/-- Rewrites the entry of a key where it stands, or adds it at the end. -/
def revise {κ β : Type} [BEq κ] (k : κ) (f : Option β → β) : List (κ × β) → List (κ × β)
  | [] => [(k, f none)]
  | e :: rest => if k == e.1 then (k, f (some e.2)) :: rest else e :: revise k f rest

theorem lookup_revise_self {κ β : Type} [BEq κ] [LawfulBEq κ] (k : κ) (f : Option β → β)
    (l : List (κ × β)) : (revise k f l).lookup k = some (f (l.lookup k)) := by
  induction l with
  | nil => simp [revise]
  | cons e rest ih =>
    obtain ⟨i, b⟩ := e
    cases h : k == i <;> simp [revise, List.lookup_cons, h, ih]

theorem lookup_revise_of_ne {κ β : Type} [BEq κ] [LawfulBEq κ] {k j : κ} (f : Option β → β)
    (h : j ≠ k) (l : List (κ × β)) : (revise k f l).lookup j = l.lookup j := by
  have apart : (j == k) = false := by simpa using h
  induction l with
  | nil => simp [revise, List.lookup_cons, apart]
  | cons e rest ih =>
    obtain ⟨i, b⟩ := e
    cases hi : k == i with
    | true =>
      have same : i = k := (eq_of_beq hi).symm
      simp [revise, same, List.lookup_cons, apart]
    | false => simp [revise, hi, List.lookup_cons, ih]

namespace Readings

def add (r : Readings) : Sample → Readings
  | .count c n => { r with counters := revise c (fun old => old.getD 0 + n) r.counters }
  | .set g x => { r with gauges := revise g (fun _ => x) r.gauges }
  | .observe h x => { r with histograms := revise h (fun old => old.getD [] ++ [x]) r.histograms }

def counter? (r : Readings) (c : Counter) : Option UInt64 := r.counters.lookup c

def gauge? (r : Readings) (g : Gauge) : Option Float := r.gauges.lookup g

def ofSamples (samples : List Sample) : Readings := samples.foldl add {}

end Readings

end PulseJoin.Telemetry
