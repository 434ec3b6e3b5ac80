import PulseJoin.Bundle
import PulseJoin.Telemetry

/-!
# Telemetry around a synchronizer

What consumers and producers tell the metrics.
-/

namespace PulseJoin

open Telemetry

def Bundle.samples {α : Type} (b : Bundle α) : List Sample :=
  [.count (.bundlesConsumed b.isComplete) 1,
    .set .lastPulse b.pulse.toFloat,
    .observe .fillRatio b.fillRatio,
    .observe .bundleChannels b.size.toFloat]

def receivedSamples (channel : String) : List Sample := [.count (.messagesReceived channel) 1]

def lagSamples (pending : UInt64) : List Sample := [.set .pendingBundles pending.toFloat]

end PulseJoin
