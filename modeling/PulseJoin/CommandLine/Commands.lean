import PulseJoin.CommandLine.Invocation
import PulseJoin.CommandLine.Outcome
import PulseJoin.Config.Advice
import PulseJoin.Config.Source
import PulseJoin.Replay.Report

/-!
# Commands

What the commands of the program do.  `validate` says whether a configuration can be run, `info`
shows it and the channels expected on a range of pulses, `run` replays it.
-/

namespace PulseJoin.CommandLine

open Text

/-! ## Configurations -/

inductive ConfigError where
  | notFound (path : String)
  | unusable (path : String) (why : Config.LoadError)

/-- The causes of an error, the outermost first. -/
def ConfigError.causes : ConfigError → List String
  | .notFound path => [s!"Configuration file not found: {path}"]
  | .unusable path why => s!"Failed to load config from {path}" :: why.message ::
    match why with
    | .unreadable fault => [fault.message]
    | .malformed _ complaint? => complaint?.toList
    | _ => []

def loadConfig (find : String → Entry) (path : String) : Except ConfigError Config :=
  if !(find path).exists? then .error (.notFound path)
  else match Config.loadFile path (find path) with
    | .error why => .error (.unusable path why)
    | .ok c => .ok c

def ageText : Option UInt64 → String
  | some ms => s!"{ms} ms"
  | none => "unlimited"

def settingMembers (c : Config) : List (String × Json.Value) :=
  [("max_buffered_pulses", .int c.maxBuffered.toNat)] ++
  (match c.maxAge? with
    | some ms => [("max_pulse_age_ms", .int ms.toNat)]
    | none => []) ++
  [("send_incomplete", .bool c.sendIncomplete),
    ("send_first_complete", .bool c.sendFirstComplete),
    ("delivery", .text c.delivery.describe)]

def settingLines (c : Config) : List String :=
  [s!"Max buffered pulses: {c.maxBuffered}",
    s!"Max pulse age: {ageText c.maxAge?}",
    s!"Send incomplete: {c.sendIncomplete}",
    s!"Send first complete: {c.sendFirstComplete}",
    s!"Delivery: {c.delivery.describe}"]

/-! ## Validation -/

def validationJson (path : String) : Except ConfigError Config → Json.Value
  | .ok c => .record (
      [("valid", .bool true), ("config_path", .text path)] ++
      (if c.warnings.isEmpty then [] else [("warnings", .array (c.warnings.map .text))]) ++
      [("summary", .record (("channel_count", .int c.channels.length) :: settingMembers c))])
  | .error e => .record [("valid", .bool false), ("config_path", .text path),
      ("error", .text (": ".intercalate e.causes))]

def validationLines (path : String) : Except ConfigError Config → List String
  | .ok c =>
    [s!"✓ Configuration is valid: {path}", "", s!"  Channels: {c.channels.length}"] ++
    (settingLines c).map ("  " ++ ·) ++
    if c.warnings.isEmpty then []
    else "" :: "⚠ Warnings:" :: c.warnings.map ("  - " ++ ·)
  | .error e =>
    [s!"✗ Configuration is invalid: {path}", "", "  Error: " ++ ": ".intercalate e.causes]

def ValidateOptions.perform (o : ValidateOptions) (find : String → Entry) : Outcome :=
  let result := loadConfig find o.config
  let lines :=
    if o.json then [(validationJson o.config result).pretty] else validationLines o.config result
  { Outcome.ofLines lines with
    causes := match result with
      | .ok _ => []
      | .error _ => ["Configuration validation failed"] }

/-! ## Inspection -/

def InfoOptions.pulses (o : InfoOptions) : List PulseId :=
  match o.from? with
  | some start => Replay.pulsesFrom start o.count.toNat
  | none => []

def expectedNames (c : Config) (p : PulseId) : List String :=
  (c.channels.filter (·.expects p)).map (·.name)

def infoJson (c : Config) (pulses : List PulseId) : Json.Value :=
  .record (
    [("channels", .array (c.channels.map (·.toJsonValue))),
      ("settings", .record (settingMembers c))] ++
    if pulses.isEmpty then []
    else [("pulses", .array (pulses.map fun p => .record [("pulse_id", .int p.toInt),
      ("expected", .array ((expectedNames c p).map .text))]))])

def channelText (s : Schedule) : String :=
  if s.period = 1 then s!"{s.name} (every pulse)"
  else s!"{s.name} (period {s.period}, phase {s.phase})"

def rowText (c : Config) (p : PulseId) : String :=
  let id := toString p
  "".pushn ' ' (12 - id.length) ++ id ++ ": [" ++ ", ".intercalate (expectedNames c p) ++ "]"

def infoLines (c : Config) (pulses : List PulseId) : List String :=
  ["╔══════════════════════════════════════════════════════════════╗",
    "║               Pulse Syncer Configuration                     ║",
    "╚══════════════════════════════════════════════════════════════╝",
    "",
    s!"📡 Channels ({c.channels.length})"] ++
  Replay.branches (c.channels.map channelText) ++
  "" :: "⚙️  Sync Settings" :: Replay.branches (settingLines c) ++
  (if pulses.isEmpty then []
    else "" :: "🔢 Expected Channels" :: Replay.branches (pulses.map (rowText c))) ++
  [""]

def InfoOptions.perform (o : InfoOptions) (find : String → Entry) : Outcome :=
  match loadConfig find o.config with
  | .error e => { causes := e.causes }
  | .ok c =>
    .ofLines (if o.json then [(infoJson c o.pulses).pretty] else infoLines c o.pulses)

/-! ## Replay -/

/--
What is replayed, where `spare` is the seed if none is given.  The options that concern the course
of time have no part in it: every value is sent as soon as the one before it is taken in.
-/
def RunOptions.setup (o : RunOptions) (c : Config) (spare : UInt64) : Replay.Setup where
  config := c
  pulses := o.pulses
  start := o.startPulse
  dropRate := o.dropRate
  window := o.shuffle
  seed := o.seed?.getD spare

/-- What a command has come to.  A replay also wants to tell how long it took. -/
inductive Performance where
  | over (outcome : Outcome)
  | replayed (result : Replay.Result)
  /-- The command asked for what cannot be had, and was broken off. -/
  | brokenOff

/-- What a command that took some time leaves behind, unless it was broken off. -/
def Performance.outcome? (d : Replay.Duration) : Performance → Option Outcome
  | .over outcome => some outcome
  | .replayed result => some { output := result.report d }
  | .brokenOff => none

def RunOptions.perform (o : RunOptions) (find : String → Entry) (spare : UInt64) : Performance :=
  match loadConfig find o.config with
  | .error e => .over { causes := e.causes }
  | .ok c =>
    if o.dryRun then .over {}
    else match Replay.run (o.setup c spare) with
      | .ok result => .replayed result
      | .error (.creation (.invalid fault)) =>
        .over { causes := ["Replay failed", "Failed to create synchronizer", fault.message] }
      | .error _ => .brokenOff

def Command.perform (command : Command) (find : String → Entry) (spare : UInt64) : Performance :=
  match command with
  | .run o => o.perform find spare
  | .validate o => .over (o.perform find)
  | .info o => .over (o.perform find)

def Command.config : Command → String
  | .run o => o.config
  | .validate o => o.config
  | .info o => o.config

end PulseJoin.CommandLine
