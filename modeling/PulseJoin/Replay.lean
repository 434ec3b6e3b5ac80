import PulseJoin.Config.Source
import PulseJoin.Replay.Plan
import PulseJoin.Statistics.Bundles
import PulseJoin.Synchronizer.Session

/-!
# Replays

A replay sends the plans of one producer for each channel through a synchronizer and counts what a
consumer receives.  The producers take turns pulse by pulse; the consumer takes a bundle as soon as
there is one.
-/

namespace PulseJoin.Replay

structure Setup where
  config : Config
  pulses : UInt64
  start : PulseId
  dropRate : Float
  window : UInt64
  seed : UInt64

structure Producer where
  channel : String
  todo : List PulseId

/-- The channel that is to send pulse `p` next, and the producers after that. -/
def takeTurn (p : PulseId) : List Producer → Option (String × List Producer)
  | [] => none
  | a :: rest =>
    if a.todo.head? = some p then some (a.channel, { a with todo := a.todo.tail } :: rest)
    else (takeTurn p rest).map fun (channel, rest) => (channel, a :: rest)

/-- The messages of at most `limit` turns; the smallest pulse that is up goes first. -/
def turns : Nat → List Producer → Array (String × PulseId) → Array (String × PulseId)
  | 0, _, sent => sent
  | limit + 1, producers, sent =>
    match (producers.filterMap (·.todo.head?)).min? with
    | none => sent
    | some p =>
      match takeTurn p producers with
      | none => sent
      | some (channel, producers) => turns limit producers (sent.push (channel, p))

/-- The producers of a setup and how many values they withhold; each has a seed of its own. -/
def producers? (r : Setup) : Option (List Producer × UInt64) := do
  let plans ← r.config.channels.zipIdx.mapM fun (s, i) => do
    return (s.name, ← plan? s r.start r.pulses r.dropRate r.window (r.seed + .ofNat i))
  return (plans.map fun (name, plan) => ⟨name, plan.pulses⟩,
    plans.foldl (fun n (_, plan) => n + plan.dropped) 0)

structure Result where
  seed : UInt64
  channels : Nat
  sent : UInt64 := 0
  dropped : UInt64 := 0
  rejected : UInt64 := 0
  leftBuffered : Nat := 0
  counters : Counters := {}
  bundles : BundleStats := {}

structure Course where
  session : Session Unit
  sent : UInt64 := 0
  rejected : UInt64 := 0
  /-- What the consumer says of the bundles, as long as it can. -/
  bundles? : Option BundleStats := some {}

namespace Course

def consume : Nat → Course → Course
  | 0, c => c
  | limit + 1, c =>
    let s := c.session.synchronizer
    match s.outlet.queue.head? with
    | none => c
    | some b =>
      let session := { c.session with synchronizer := { s with outlet := s.outlet.drop } }
      consume limit { c with session, bundles? := c.bundles?.bind (·.add? b) }

def consumeAll (c : Course) : Course := c.consume c.session.synchronizer.pending

def send (c : Course) (channel : String) (p : PulseId) : Course :=
  let (outcome, synchronizer) :=
    c.session.synchronizer.add c.session.clock ⟨channel, p, ()⟩
  let synchronizer := { synchronizer with journal := [] }
  consumeAll { c with
    session := { c.session with synchronizer }
    sent := c.sent + 1
    rejected := if outcome = .buffered then c.rejected else c.rejected + 1 }

/-- At the end, waiting for longer than the age limit makes the rest leave. -/
def flush (c : Course) : Course :=
  match c.session.synchronizer.config.maxAge? with
  | none => c
  | some age =>
    let clock := age + 1
    let (_, synchronizer) := c.session.synchronizer.evictExpired clock
    consumeAll { c with session := { synchronizer, clock } }

end Course

inductive RunError where
  | creation (why : Synchronizer.CreateError)
  | noPlan
  | noStatistics
  deriving DecidableEq, Repr

def run (r : Setup) : Except RunError Result := do
  let session ← (Session.create r.config 0).mapError .creation
  let some (producers, dropped) := producers? r | throw .noPlan
  let total := producers.foldl (fun n a => n + a.todo.length) 0
  let messages := turns total producers #[]
  let c := messages.foldl (fun c (channel, p) => c.send channel p) { session : Course }
  let c := c.flush
  let some bundles := c.bundles? | throw .noStatistics
  return {
    seed := r.seed
    channels := r.config.channels.length
    sent := c.sent
    dropped
    rejected := c.rejected
    leftBuffered := c.session.synchronizer.buffer.size
    counters := c.session.synchronizer.close.counters
    bundles }

end PulseJoin.Replay
