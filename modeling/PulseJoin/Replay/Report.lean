import PulseJoin.Replay

/-!
# The report of a replay

The figures of a replay, its synchronizer and its consumer, as trees of lines.
-/

namespace PulseJoin.Replay

/-- A span of time in nanoseconds. -/
structure Duration where
  nanoseconds : Nat
  deriving DecidableEq, Repr

def Duration.seconds (d : Duration) : Float :=
  (d.nanoseconds / 1000000000).toFloat + (d.nanoseconds % 1000000000).toFloat / 1000000000

/-- Bundles the consumer received for each second; none if no time passed. -/
def Result.rate (r : Result) (d : Duration) : Float :=
  if 0 < d.seconds then r.bundles.summary.total.toFloat / d.seconds else 0

def branches : List String → List String
  | [] => []
  | [line] => ["   └─ " ++ line]
  | line :: lines => ("   ├─ " ++ line) :: branches lines

def title : List String :=
  ["",
    "╔══════════════════════════════════════════════════════════════╗",
    "║                     Replay Statistics                        ║",
    "╚══════════════════════════════════════════════════════════════╝",
    ""]

def Result.overview (r : Result) (d : Duration) : List String :=
  "📊 Overview" :: branches [
    s!"Duration: {Text.Fixed.text 2 d.seconds}s",
    s!"Seed: {r.seed}",
    s!"Channels: {r.channels}",
    s!"Values sent: {r.sent}",
    s!"Values dropped at source: {r.dropped}",
    s!"Values rejected: {r.rejected}",
    s!"Bundles/s: {Text.Fixed.text 2 (r.rate d)}"]

def Result.synchronizerLines (r : Result) : List String :=
  "⚙️  Synchronizer" :: branches [
    s!"Complete bundles: {r.counters.complete}",
    s!"Incomplete bundles: {r.counters.incomplete}",
    s!"Evicted pulses: {r.counters.evicted}",
    s!"Startup discarded: {r.counters.startupDiscarded}",
    s!"Stale values: {r.counters.stale}",
    s!"Duplicate values: {r.counters.duplicates}",
    s!"Queue full drops: {r.counters.queueFull}",
    s!"Left buffered: {r.leftBuffered}"]

def consumerLines (s : BundleSummary) : List String :=
  "📈 Consumer" :: branches [
    s!"Bundles received: {s.total}",
    s!"Incomplete: {s.incomplete} ({Text.Fixed.text 2 s.incompleteRate}%)",
    s!"Skipped pulses: {s.skipped}",
    s!"Order violations: {s.violations}",
    s!"Mean fill ratio: {Text.Fixed.text 3 s.fill.mean}"]

def channelLines (s : BundleSummary) : List String :=
  if s.channels.isEmpty then []
  else "" :: "📡 Values per Channel" ::
    branches (s.channels.toList.map fun (channel, n) => s!"{channel}: {n}")

def Result.report (r : Result) (d : Duration) : String :=
  let s := r.bundles.summary
  .join ((title ++ r.overview d ++ "" :: r.synchronizerLines ++ "" :: consumerLines s ++
    channelLines s ++ [""]).map (· ++ "\n"))

end PulseJoin.Replay
