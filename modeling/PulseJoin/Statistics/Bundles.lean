import PulseJoin.Bundle
import PulseJoin.Count
import PulseJoin.Statistics

/-!
# Statistics of delivered bundles

What a consumer can say about the bundles it received: how many were complete, how far their pulses
were apart, and how often each channel took part.  Bundles whose pulses skip more than can be
counted have no statistics.
-/

namespace PulseJoin

structure BundleStats where
  total : UInt64 := 0
  complete : UInt64 := 0
  incomplete : UInt64 := 0
  /-- Pulses left out between a bundle and the next. -/
  skipped : UInt64 := 0
  /-- Bundles whose pulse does not come after the one before. -/
  violations : UInt64 := 0
  fill : RunningStats := {}
  gaps : RunningStats := {}
  channels : ChannelMap UInt64 := .empty
  last? : Option PulseId := none
  deriving Inhabited

structure BundleSummary where
  total : UInt64
  complete : UInt64
  incomplete : UInt64
  skipped : UInt64
  violations : UInt64
  /-- Part of the bundles that is incomplete, in percent. -/
  incompleteRate : Float
  fill : StatsSummary
  gaps : StatsSummary
  channels : ChannelMap UInt64

namespace BundleStats

variable {α : Type}

def addGap? (s : BundleStats) (p : PulseId) : Option BundleStats :=
  match s.last? with
  | none => some s
  | some last =>
    let gap := PulseId.saturatingSub p last
    if gap ≤ 0 then some { s with violations := s.violations + 1 }
    else do
      return { s with
        gaps := s.gaps.push gap.toFloat
        skipped := ← Count.add? s.skipped (gap - 1).toUInt64 }

def countChannel (counts : ChannelMap UInt64) (channel : String) : ChannelMap UInt64 :=
  counts.alter channel fun n? => n?.getD 0 + 1

def add? (s : BundleStats) (b : Bundle α) : Option BundleStats := do
  let s := { s with
    total := s.total + 1
    complete := if b.isComplete then s.complete + 1 else s.complete
    incomplete := if b.isComplete then s.incomplete else s.incomplete + 1
    fill := s.fill.push b.fillRatio }
  let s ← s.addGap? b.pulse
  return { s with last? := some b.pulse, channels := b.channels.foldl countChannel s.channels }

def ofList? (bs : List (Bundle α)) : Option BundleStats := bs.foldlM add? {}

def summary (s : BundleStats) : BundleSummary where
  total := s.total
  complete := s.complete
  incomplete := s.incomplete
  skipped := s.skipped
  violations := s.violations
  incompleteRate := if s.total = 0 then 0 else s.incomplete.toFloat / s.total.toFloat * 100
  fill := s.fill.summary
  gaps := s.gaps.summary
  channels := s.channels

end BundleStats

def BundleSummary.lines (s : BundleSummary) : List String :=
  ["=== Pulse Sync Summary ===",
    s!"Total bundles: {s.total}",
    s!"Complete bundles: {s.complete}",
    s!"Incomplete bundles: {s.incomplete} ({Text.Fixed.text 2 s.incompleteRate}%)",
    s!"Skipped pulses: {s.skipped}",
    s!"Order violations: {s.violations}",
    s!"Fill ratio: {s.fill.text}",
    s!"Pulse gap: {s.gaps.text}"] ++
  if s.channels.isEmpty then []
  else "Channel counts:" :: s.channels.toList.map fun (channel, n) => s!"  {channel}: {n}"

def BundleSummary.text (s : BundleSummary) : String :=
  .join (s.lines.map (· ++ "\n"))

end PulseJoin
