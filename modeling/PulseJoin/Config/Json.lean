import PulseJoin.Config.Decode
import PulseJoin.Text.Json.Data
import PulseJoin.Text.Json.Reader
import PulseJoin.Text.Json.Writer

/-!
# Configurations in JSON

`Config.toJson` writes a configuration and `Config.ofJson?` reads one.
-/

namespace PulseJoin

open Text

def Schedule.toJsonValue (s : Schedule) : Json.Value :=
  .record [("name", .text s.name), ("period", .int s.period.toInt), ("phase", .int s.phase.toInt)]

def DeliveryMode.toJsonValue (d : DeliveryMode) : Json.Value :=
  .record (("mode", .text d.word) ::
    match d with
    | .push capacity => [("queue_capacity", .int capacity.toNat)]
    | .pull => [])

namespace Config

/-- A configuration as a JSON value; an age limit that is not set is left out. -/
def toJsonValue (c : Config) : Json.Value :=
  .record (
    [("channels", .array (c.channels.map (·.toJsonValue))),
      ("max_buffered_pulses", .int c.maxBuffered.toNat)] ++
    (match c.maxAge? with
      | some ms => [("max_pulse_age_ms", .int ms.toNat)]
      | none => []) ++
    [("send_incomplete", .bool c.sendIncomplete),
      ("send_first_complete", .bool c.sendFirstComplete),
      ("delivery", c.delivery.toJsonValue)])

def toJson (c : Config) : String := c.toJsonValue.pretty

def ofJson? (text : String) : Option Config := (Json.read? text).bind decode?

end Config

end PulseJoin
