import PulseJoin.Config.Fault
import PulseJoin.Config.Json
import PulseJoin.Config.Toml
import PulseJoin.FileTree
import PulseJoin.Text.Json.Complaint
import PulseJoin.Text.Toml.Complaint

/-!
# Loading configurations

A configuration is loaded from a text in one of two formats, which the extension of a file tells.
What is loaded can be run: `fault?_of_load` says so.
-/

namespace PulseJoin.Config

inductive Format where
  | toml
  | json
  deriving DecidableEq, Repr

namespace Format

def name : Format → String
  | .toml => "TOML"
  | .json => "JSON"

def ofExtension? (extension : String) : Option Format :=
  match extension.map Char.toLower with
  | "toml" => some .toml
  | "json" => some .json
  | _ => none

/-- Reads a configuration, without asking whether it can be run. -/
def read? : Format → String → Option Config
  | .toml => ofToml?
  | .json => ofJson?

/-- What is said of a text that is no configuration, as far as it is about numbers. -/
def complaint? : Format → String → Option String
  | .toml => Text.Toml.complaint? shape
  | .json => Text.Json.complaint? shape

def write : Format → Config → String
  | .toml => toToml
  | .json => toJson

end Format

inductive LoadError where
  | noExtension
  | unsupported (extension : String)
  | unreadable (why : ReadFault)
  | malformed (format : Format) (complaint? : Option String)
  | invalid (fault : Fault)
  deriving DecidableEq, Repr

def LoadError.message : LoadError → String
  | .noExtension => "config parse error: cannot determine file format from extension"
  | .unsupported extension => s!"config parse error: unsupported config format: .{extension}"
  | .unreadable why => s!"io error: {why.message}"
  | .malformed format complaint? =>
    ": ".intercalate (["config parse error", s!"{format.name} parse error"] ++ complaint?.toList)
  | .invalid fault => fault.message

def load (format : Format) (text : String) : Except LoadError Config :=
  match format.read? text with
  | none => .error (.malformed format (format.complaint? text))
  | some c =>
    match c.fault? with
    | some fault => .error (.invalid fault)
    | none => .ok c

/-- Loads the configuration that stands under a path.  The format is asked for before the file. -/
def loadFile (path : String) (entry : Entry) : Except LoadError Config :=
  match pathExtension? path with
  | none => .error .noExtension
  | some extension =>
    match Format.ofExtension? extension with
    | none => .error (.unsupported extension)
    | some format =>
      match entry.text? with
      | .error why => .error (.unreadable why)
      | .ok text => load format text

theorem fault?_of_load {format : Format} {text : String} {c : Config}
    (h : load format text = .ok c) : c.fault? = none := by
  unfold load at h
  split at h
  · simp at h
  · split at h
    · simp at h
    · next none => simp at h; exact h ▸ none

end PulseJoin.Config
