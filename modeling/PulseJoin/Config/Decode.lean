import PulseJoin.Config
import PulseJoin.Text.DataFormat
import PulseJoin.Text.Shape

/-!
# Configurations from data

Reads the settings from a value of any data format.  A setting that is not there has its standard
value; settings that are not known are skipped.
-/

namespace PulseJoin

open Text DataFormat

variable {β : Type} [DataFormat β]

def Schedule.fieldNames : List String := ["name", "period", "phase"]

def Schedule.shape : Shape := .record (fieldNames.map (·, .plain))

def Schedule.decode? (v : β) : Option Schedule := do
  match ← fields? fieldNames v with
  | [some name, period, phase] =>
    return {
      name := ← text? name
      period := ← optional 1 int64? period
      phase := ← optional 0 int64? phase }
  | _ => none

namespace DeliveryMode

def word : DeliveryMode → String
  | .push _ => "push"
  | .pull => "pull"

def capacity? (v : Option β) : Option DeliveryMode := (optional 1000 uint64? v).map .push

/-- Reads a way of delivery from a table: the capacity counts in push mode only. -/
def ofEntries? (entries : List (String × β)) : Option DeliveryMode := do
  match ← (← unique? entries "mode").bind text? with
  | "push" => capacity? (← unique? entries "queue_capacity")
  | "pull" => return .pull
  | _ => none

def ofItems? : List β → Option DeliveryMode
  | mode :: rest => do
    match ← text? mode, rest with
    | "push", [] => capacity? (none : Option β)
    | "push", [capacity] => capacity? (some capacity)
    | "pull", [] => return .pull
    | _, _ => none
  | [] => none

/--
Reads a way of delivery.  The whole value has to be set aside until the mode is known, so all of it
has to be storable, also what is skipped then.
-/
def decode? (v : β) : Option DeliveryMode :=
  if !isStorable v then none
  else match items? v with
    | some items => ofItems? items
    | none => (entries? v).bind ofEntries?

end DeliveryMode

def Config.fieldNames : List String :=
  ["channels", "max_buffered_pulses", "max_pulse_age_ms", "send_incomplete", "send_first_complete",
    "delivery"]

def Config.shape : Shape :=
  .record (fieldNames.zip [.list Schedule.shape, .plain, .plain, .plain, .plain, .whole])

def Config.decode? (v : β) : Option Config := do
  match ← fields? fieldNames v with
  | [some channels, maxBuffered, maxAge, sendIncomplete, sendFirstComplete, delivery] =>
    return {
      channels := ← (← items? channels).mapM Schedule.decode?
      maxBuffered := ← optional 100 uint64? maxBuffered
      maxAge? := ← optional none (nullable? uint64?) maxAge
      sendIncomplete := ← optional false bool? sendIncomplete
      sendFirstComplete := ← optional false bool? sendFirstComplete
      delivery := ← optional .standard DeliveryMode.decode? delivery }
  | _ => none

end PulseJoin
