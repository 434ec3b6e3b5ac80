import PulseJoin.Buffer
import PulseJoin.Config.Fault
import PulseJoin.Event
import PulseJoin.Outlet
import PulseJoin.Schedule.Gap
import PulseJoin.Watermarks

/-!
# The synchronizer

Values of many channels arrive in any order; the synchronizer hands out one bundle per pulse, in
ascending order of pulse ids.

An arrival is taken in by `accept`, after `add` has found that the message is welcome.  A resolution
pass (`resolve`) then takes pulses from the oldest end of the buffer, one `resolveOldest` and one
`settle` after the other, until the oldest pulse has to wait: it is resolved when it is complete and
no earlier pulse may still come, or when the buffer is over its limit of size or age.
-/

namespace PulseJoin

universe u

inductive Outcome where
  | buffered
  | stale
  | unknownChannel
  | offSchedule
  | closed
  deriving DecidableEq, Repr

structure Synchronizer (α : Type u) where
  config : Config
  schedules : ScheduleSet
  buffer : PulseBuffer α := .empty
  marks : Watermarks := {}
  outlet : Outlet α
  closed : Bool := false
  counters : Counters := {}
  readings : Telemetry.Readings := {}
  /-- The events so far, the latest first. -/
  journal : List Event := []

structure Resolution (α : Type u) where
  bundle : Bundle α
  pressure : Option Pressure

inductive Verdict where
  | incomplete
  /-- An earlier pulse may still come, after the reference. -/
  | gap (reference : PulseId)
  | ready (pressure : Option Pressure)
  deriving DecidableEq, Repr

namespace Synchronizer

inductive CreateError where
  | invalid (fault : Config.Fault)
  /-- The push queue is larger than any memory. -/
  | hugeQueue
  deriving DecidableEq, Repr

variable {α : Type u}

def note (s : Synchronizer α) (e : Event) : Synchronizer α :=
  { s with
    counters := s.counters.count e
    readings := e.samples.foldl .add s.readings
    journal := e :: s.journal }

def create (c : Config) : Except CreateError (Synchronizer α) :=
  match h : c.fault? with
  | some fault => .error (.invalid fault)
  | none =>
    if c.delivery.fits then
      .ok (note { config := c, schedules := ⟨c.channels, Config.schedules_faultless h⟩,
                  outlet := { mode := c.delivery } } (.created c))
    else .error .hugeQueue

/-! ## Arrival -/

/--
The startup rule: while nothing is resolved, the pulse that is the first to be complete sets aside
all older ones, which will never be delivered.
-/
def discardBacklog (s : Synchronizer α) (p : PulseId) : Synchronizer α :=
  if s.marks.unresolved then
    let discarded := s.buffer.below p
    let s := { s with buffer := s.buffer.above p, marks := s.marks.jump p.pred }
    match discarded.first? with
    | some (_, oldest) => s.note (.startupDiscarded p discarded.size oldest.pulse)
    | none => s
  else s

/-- Takes in a message that is welcome: one that is on schedule and not yet passed. -/
def accept (s : Synchronizer α) (now : UInt64) (m : Message α) : Synchronizer α :=
  let stored := s.buffer.storing m.pulse m.channel m.payload now
  let s := { s with
    marks := s.marks.observe m.pulse
    buffer := s.buffer.store m.pulse m.channel m.payload now }
  let s := if stored.replaced then s.note (.replaced m.pulse) else s
  let s := if s.config.sendFirstComplete && s.schedules.expectedCount m.pulse ≤ stored.filled
    then s.discardBacklog m.pulse else s
  (s.note (.occupancy s.buffer.size)).note .buffered

/-! ## Resolution -/

def pressure? (s : Synchronizer α) (now : UInt64) (w : Pending α) : Option Pressure :=
  if s.config.maxBuffered.toNat < s.buffer.size then some .size
  else if s.config.maxAge?.any (· < w.age now) then some .age
  else none

def verdict (s : Synchronizer α) (now : UInt64) (p : PulseId) (w : Pending α) : Verdict :=
  match s.pressure? now w with
  | some pressure => .ready (some pressure)
  | none =>
    if w.size < s.schedules.expectedCount p then .incomplete
    else if Schedule.pulseMissing s.schedules.toList s.marks.reference p then
      .gap s.marks.reference
    else .ready none

def remove (s : Synchronizer α) (p : PulseId) : Synchronizer α :=
  let buffer := s.buffer.erase p
  { s with buffer, marks := s.marks.advance p }.note (.occupancy buffer.size)

def resolveOldest (s : Synchronizer α) (now : UInt64) :
    Option (Resolution α) × Synchronizer α :=
  match s.buffer.first? with
  | none => (none, s)
  | some (p, w) =>
    match s.verdict now p w with
    | .incomplete => (none, s)
    | .gap reference => (none, s.note (.waiting p reference))
    | .ready pressure =>
      (some ⟨⟨p, w.values, s.schedules.expectedCount p⟩, pressure⟩, s.remove p)

def deliver (s : Synchronizer α) (b : Bundle α) (complete : Bool) : Synchronizer α :=
  let s' := { s with outlet := s.outlet.offer b }
  match s.outlet.handoff with
  | .accepted => s'.note (.delivered b.pulse complete)
  | .full => s'.note (.queueFull b.pulse complete)
  | .closed => s'.note (.outletClosed b.pulse complete)

def settle (s : Synchronizer α) (r : Resolution α) : Synchronizer α :=
  if r.bundle.isComplete then s.deliver r.bundle true
  else
    let s := s.note (.cutShort r.bundle.pulse r.bundle.expected r.bundle.size r.pressure
      s.config.sendIncomplete)
    if s.config.sendIncomplete then s.deliver r.bundle false else s

def resolveUpTo (now : UInt64) : Nat → Synchronizer α → Nat × Synchronizer α
  | 0, s => (0, s)
  | limit + 1, s =>
    match s.resolveOldest now with
    | (none, s) => (0, s)
    | (some r, s) =>
      let (n, s) := resolveUpTo now limit (s.settle r)
      (n + 1, s)

/-- Resolves pulses from the oldest end until one has to wait; also says how many. -/
def resolve (s : Synchronizer α) (now : UInt64) : Nat × Synchronizer α :=
  resolveUpTo now s.buffer.size s

/-! ## The operations -/

def add (s : Synchronizer α) (now : UInt64) (m : Message α) : Outcome × Synchronizer α :=
  let s := s.note .received
  if s.closed then (.closed, s.note .ignored)
  else match s.schedules.get? m.channel with
    | none => (.unknownChannel, s.note (.unknownChannel m.channel m.pulse))
    | some schedule =>
      if !schedule.expects m.pulse then (.offSchedule, s.note (.offSchedule schedule m.pulse))
      else if s.marks.passed m.pulse then
        (.stale, s.note (.stale m.channel m.pulse s.marks.boundary))
      else (.buffered, ((s.accept now m).resolve now).2)

def evictExpired (s : Synchronizer α) (now : UInt64) : Nat × Synchronizer α :=
  if s.closed then (0, s) else s.resolve now

def pop (s : Synchronizer α) : Option (Bundle α) × Synchronizer α :=
  let (b, outlet) := s.outlet.pop
  (b, { s with outlet })

def receive (s : Synchronizer α) : Receipt α × Synchronizer α :=
  let (r, outlet) := s.outlet.receive
  (r, { s with outlet })

/-- Takes a bundle if there is one; in pull mode a resolution pass comes first. -/
def tryNext (s : Synchronizer α) (now : UInt64) : Option (Bundle α) × Synchronizer α :=
  if s.outlet.pulls then (s.evictExpired now).2.pop
  else match s.receive with
    | (.bundle b, s) => (some b, s)
    | (_, s) => (none, s)

/-- Pops, and runs up to `rounds` resolution passes while nothing is there and they resolve. -/
def pullWithin (now : UInt64) : Nat → Synchronizer α → Option (Bundle α) × Synchronizer α
  | 0, s => s.pop
  | rounds + 1, s =>
    match s.pop with
    | (some b, s) => (some b, s)
    | (none, s) =>
      match s.evictExpired now with
      | (0, s) => (none, s)
      | (_ + 1, s) => pullWithin now rounds s

/--
Takes a bundle without waiting for one.  It is popped if one is there; else resolution passes run as
long as they resolve something and nothing can be popped.  In push mode there is nothing to pull.
-/
def next (s : Synchronizer α) (now : UInt64) : Option (Bundle α) × Synchronizer α :=
  if s.outlet.pulls then pullWithin now (s.buffer.size + 1) s
  else (none, s.note .pullWithoutQueue)

def wouldWait (s : Synchronizer α) : Bool :=
  s.outlet.pulls && !s.closed && s.outlet.queue.isEmpty

def close (s : Synchronizer α) : Synchronizer α :=
  if s.closed then s
  else { s with closed := true, outlet := s.outlet.close }.note
    (.closed s.buffer.size s.marks.boundary?)

/-! ## What can be seen from outside -/

def pending (s : Synchronizer α) : Nat := s.outlet.queue.length

/-- The highest pulse delivered or dropped so far. -/
def boundary? (s : Synchronizer α) : Option PulseId := s.marks.boundary?

def clearJournal (s : Synchronizer α) : Synchronizer α := { s with journal := [] }

def logLines (s : Synchronizer α) : List LogLine := s.journal.reverse.filterMap Event.line?

end Synchronizer

def PulseBuffer.text {α : Type u} (b : PulseBuffer α) : String :=
  s!"PulseBuffer \x7b len: {b.size}, oldest: {optionText b.oldest?}, " ++
  s!"newest: {optionText b.newest?} \x7d"

def Synchronizer.text {α : Type u} (s : Synchronizer α) : String :=
  s!"PulseSynchronizer \x7b channels: {s.schedules.size}, buffer: {s.buffer.text}, " ++
  s!"boundary: {optionText s.boundary?}, closed: {s.closed} \x7d"

end PulseJoin
