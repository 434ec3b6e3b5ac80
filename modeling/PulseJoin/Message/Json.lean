import PulseJoin.Bundle
import PulseJoin.Text.Json.Data
import PulseJoin.Text.Json.Reader
import PulseJoin.Text.Json.Writer

/-!
# Messages in JSON

A message on the wire carries bytes.  They are written as an array of numbers; a string is read as
well, as the bytes of its characters.
-/

namespace PulseJoin.Message

open Text DataFormat

def fieldNames : List String := ["channel", "pulse_id", "payload"]

def byte? (v : Json.Value) : Option UInt8 :=
  v.int?.bind fun n => if 0 ≤ n ∧ n < 256 then some (.ofNat n.toNat) else none

def payload? : Json.Value → Option (List UInt8)
  | .array items => items.mapM byte?
  | .string gs => some (gs.flatMap Json.Glyph.bytes)
  | _ => none

def toJsonValue (m : Message (List UInt8)) : Json.Value :=
  .record [("channel", .text m.channel), ("pulse_id", .int m.pulse.toInt),
    ("payload", .array (m.payload.map fun b => .int b.toNat))]

def toJson (m : Message (List UInt8)) : String := m.toJsonValue.compact

def ofJsonValue? (v : Json.Value) : Option (Message (List UInt8)) := do
  match ← fields? fieldNames v with
  | [some channel, some pulse, some payload] =>
    return ⟨← text? channel, ← int64? pulse, ← payload? payload⟩
  | _ => none

def ofJson? (text : String) : Option (Message (List UInt8)) :=
  (Json.read? text).bind ofJsonValue?

end PulseJoin.Message
