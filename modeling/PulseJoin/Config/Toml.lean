import PulseJoin.Config.Decode
import PulseJoin.Text.Toml.Data
import PulseJoin.Text.Toml.Reader
import PulseJoin.Text.Toml.Writer

/-!
# Configurations in TOML

`Config.toToml` writes a configuration and `Config.ofToml?` reads one.  The limits come first, then
a section for each channel, then one for the delivery.
-/

namespace PulseJoin

open Text

def plainSetting (name : String) (v : Toml.Value) : Toml.Setting := ⟨⟨[], name⟩, v⟩

def Schedule.toSection (s : Schedule) : Toml.Section where
  header := ⟨⟨[], "channels"⟩, true⟩
  settings := [
    plainSetting "name" (.text s.name),
    plainSetting "period" (.integer s.period.toInt),
    plainSetting "phase" (.integer s.phase.toInt)]

def DeliveryMode.toSection (d : DeliveryMode) : Toml.Section where
  header := ⟨⟨[], "delivery"⟩, false⟩
  settings := plainSetting "mode" (.text d.word) ::
    match d with
    | .push capacity => [plainSetting "queue_capacity" (.integer capacity.toNat)]
    | .pull => []

namespace Config

/--
A configuration as a document.  A list of channels without a section is written as an empty array;
an age limit that is not set is left out.
-/
def toDocument (c : Config) : Toml.Document where
  settings :=
    (if c.channels.isEmpty then [plainSetting "channels" (.array [])] else []) ++
    [plainSetting "max_buffered_pulses" (.integer c.maxBuffered.toNat)] ++
    (match c.maxAge? with
      | some ms => [plainSetting "max_pulse_age_ms" (.integer ms.toNat)]
      | none => []) ++
    [plainSetting "send_incomplete" (.boolean c.sendIncomplete),
      plainSetting "send_first_complete" (.boolean c.sendFirstComplete)]
  sections := c.channels.map (·.toSection) ++ [c.delivery.toSection]

def toToml (c : Config) : String := .ofList c.toDocument.chars

def ofToml? (text : String) : Option Config := (Toml.read? text).bind decode?

end Config

end PulseJoin
