import PulseJoin.Config
import PulseJoin.Schedule.Set

/-!
# Faults of a configuration

`Config.fault?` finds what keeps a configuration from being run.  Four checks follow each other: is
there a channel at all, is every setting inside its own limits, do the schedules form a set, can the
queue hold a bundle.  The second reports all its violations together, the others the first one.
-/

namespace PulseJoin

namespace Config

/-- A setting outside the limits it has by itself. -/
inductive Violation where
  | emptyName (channel : Nat)
  | period (channel : Nat)
  | phase (channel : Nat)
  | maxBuffered
  | maxAge
  deriving DecidableEq, Repr

def Violation.text : Violation → String
  | .emptyName i => s!"channels[{i}].name: length"
  | .period i => s!"channels[{i}].period: range"
  | .phase i => s!"channels[{i}].phase: range"
  | .maxBuffered => "max_buffered_pulses: range"
  | .maxAge => "max_pulse_age_ms: range"

inductive Fault where
  | noChannels
  | violations (all : List Violation)
  | schedule (fault : Schedule.Fault)
  | noQueue
  deriving DecidableEq, Repr

def flawField : Schedule.Flaw → String
  | .period .. => "period"
  | .phase .. => "phase"
  | .repeated .. => "name"

def Fault.field : Fault → String
  | .noChannels => "channels"
  | .violations _ => "synchronizer"
  | .schedule fault => s!"channels[{fault.index}].{flawField fault.flaw}"
  | .noQueue => "delivery.queue_capacity"

def flawText : Schedule.Flaw → String
  | .period name period => s!"period must be > 0 for channel '{name}', got {period}"
  | .phase name period phase =>
    s!"phase must be in 0..{period} for channel '{name}', got {phase}"
  | .repeated name => s!"duplicate channel name '{name}'"

/-- What is wrong with the setting; several violations stand on lines of their own, sorted. -/
def Fault.reason : Fault → String
  | .noChannels => "at least one channel schedule is required"
  | .violations all => "\n".intercalate ((all.map (·.text)).mergeSort (· ≤ ·))
  | .schedule fault => flawText fault.flaw
  | .noQueue => "queue_capacity must be > 0"

def Fault.message (f : Fault) : String :=
  s!"config validation error at '{f.field}': {f.reason}"

def scheduleViolations (i : Nat) (s : Schedule) : List Violation :=
  (if s.name.isEmpty then [.emptyName i] else []) ++
  (if s.period < 1 then [.period i] else []) ++
  (if s.phase < 0 then [.phase i] else [])

def violations (c : Config) : List Violation :=
  (c.channels.zipIdx.flatMap fun (s, i) => scheduleViolations i s) ++
  (if c.maxBuffered = 0 then [.maxBuffered] else []) ++
  (if c.maxAge? = some 0 then [.maxAge] else [])

def fault? (c : Config) : Option Fault :=
  if c.channels.isEmpty then some .noChannels
  else if !c.violations.isEmpty then some (.violations c.violations)
  else match Schedule.fault? c.channels with
    | some fault => some (.schedule fault)
    | none => if c.delivery = .push 0 then some .noQueue else none

/-- A configuration that can be run has schedules that form a set. -/
theorem schedules_faultless {c : Config} (h : c.fault? = none) :
    Schedule.fault? c.channels = none := by
  unfold fault? at h
  split at h
  · simp at h
  · split at h
    · simp at h
    · split at h
      · simp at h
      next none => exact none

end Config

end PulseJoin
