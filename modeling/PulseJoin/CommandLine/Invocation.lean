import PulseJoin.CommandLine.Usage

/-!
# Invocations

The commands of the program and their options.  `Invocation.parse` reads the arguments and the
environment.
-/

namespace PulseJoin.CommandLine

structure RunOptions where
  config : String := "config.toml"
  pulses : UInt64 := 1000
  startPulse : PulseId := 0
  dropRate : Float := 0
  /-- Number of values that may change places. -/
  shuffle : UInt64 := 0
  seed? : Option UInt64 := none
  /-- Microseconds between two values of a producer. -/
  interval : UInt64 := 0
  /-- Seconds after which the replay is given up; zero is never. -/
  timeout : UInt64 := 0
  metricsPort : UInt16 := 0
  dryRun : Bool := false

structure ValidateOptions where
  config : String := "config.toml"
  json : Bool := false

structure InfoOptions where
  config : String := "config.toml"
  json : Bool := false
  from? : Option PulseId := none
  count : UInt64 := 10

inductive Command where
  | run (options : RunOptions)
  | validate (options : ValidateOptions)
  | info (options : InfoOptions)

structure Invocation where
  verbose : UInt8
  quiet : Bool
  logFormat : LogFormat
  command : Command

/-! ## Usage -/

def globalParameters : List Parameter := [
  { name := "verbose", kind := .counter, letter? := some 'v',
    envName? := some "PULSE_SYNCER_VERBOSE" },
  { name := "quiet", kind := .flag, letter? := some 'q' },
  { name := "log-format", kind := .value .logFormat,
    envName? := some "PULSE_SYNCER_LOG_FORMAT" }]

def helpParameter : Parameter := { name := "help", kind := .help, letter? := some 'h' }

def configParameter : Parameter :=
  { name := "config", kind := .value .path, letter? := some 'c' }

def runParameters : List Parameter := [
  { configParameter with envName? := some "PULSE_SYNCER_CONFIG" },
  { name := "pulses", kind := .value .unsigned, envName? := some "PULSE_SYNCER_PULSES" },
  { name := "start-pulse", kind := .value .signed },
  { name := "drop-rate", kind := .value .probability },
  { name := "shuffle", kind := .value .unsigned },
  { name := "seed", kind := .value .unsigned, envName? := some "PULSE_SYNCER_SEED" },
  { name := "interval-us", kind := .value .unsigned },
  { name := "timeout", kind := .value .unsigned, envName? := some "PULSE_SYNCER_TIMEOUT" },
  { name := "metrics-port", kind := .value .portNumber,
    envName? := some "PULSE_SYNCER_METRICS_PORT" },
  { name := "dry-run", kind := .flag }]

def validateParameters : List Parameter := [configParameter, { name := "json", kind := .flag }]

def infoParameters : List Parameter := [
  configParameter,
  { name := "json", kind := .flag },
  { name := "from", kind := .value .signed },
  { name := "count", kind := .value .unsigned }]

def topUsage : Usage where
  parameters := globalParameters ++
    [helpParameter, { name := "version", kind := .version, letter? := some 'V' }]
  commands := ["run", "validate", "info", "help"]

def commandUsage (name : String) : Usage where
  parameters :=
    (match name with
      | "run" => runParameters
      | "validate" => validateParameters
      | "info" => infoParameters
      | _ => []) ++ globalParameters ++ [helpParameter]
  commands := []

/-- Parameters that exclude each other where they are given to one command. -/
def excluding : List (String × String) := [("quiet", "verbose")]

/-! ## Reading -/

/-- The options of a command from what is given to it; what is checked there can be read here. -/
def Command.ofGiven (name : String) (given : List Given) : Command :=
  let v := value? given
  let config := (v "config").getD "config.toml"
  let unsigned := fun (name : String) (standard : UInt64) =>
    ((v name).bind unsigned?).getD standard
  match name with
  | "run" => .run {
      config
      pulses := unsigned "pulses" 1000
      startPulse := ((v "start-pulse").bind signed?).getD 0
      dropRate := ((v "drop-rate").bind probability?).getD 0
      shuffle := unsigned "shuffle" 0
      seed? := (v "seed").bind unsigned?
      interval := unsigned "interval-us" 0
      timeout := unsigned "timeout" 0
      metricsPort := .ofNat (((v "metrics-port").bind (upTo? 65535)).getD 0)
      dryRun := (v "dry-run").isSome }
  | "validate" => .validate { config, json := (v "json").isSome }
  | _ => .info {
      config
      json := (v "json").isSome
      from? := (v "from").bind signed?
      count := unsigned "count" 10 }

/--
The value of a parameter that may be given before and behind the name of the command.  What is given
behind it counts, unless it comes from a lesser source.
-/
def nearest? (before behind : List Given) (name : String) : Option String :=
  match given? before name, given? behind name with
  | some a, some b =>
    some (if a.source = .arguments ∧ b.source = .environment then a.value else b.value)
  | a?, none => a?.map (·.value)
  | none, b? => b?.map (·.value)

/-- What the arguments of `help` ask for: at most one command, which has to exist. -/
def helpFor : List String → UsageError
  | [] => .helpAsked
  | [name] => if name ∈ topUsage.commands then .helpAsked else .unknownCommand
  | _ => .unknownCommand

def Invocation.parse (env : String → Option String) (args : List String) :
    Except UsageError Invocation := do
  match ← topUsage.scan args {} with
  | (s, none) =>
    let _ ← topUsage.finish env excluding s false
    .error .missingCommand
  | (s, some (name, rest)) =>
    if name = "help" then .error (helpFor rest)
    else do
      let u := commandUsage name
      let (s', _) ← u.scan rest {}
      let behind ← u.finish env excluding s' false
      let before ← topUsage.finish env excluding s true
      let shared := nearest? before behind
      return {
        verbose := .ofNat (((shared "verbose").bind (upTo? 255)).getD 0)
        quiet := (shared "quiet").isSome
        logFormat := ((shared "log-format").bind logFormat?).getD .pretty
        command := .ofGiven name behind }

end PulseJoin.CommandLine
