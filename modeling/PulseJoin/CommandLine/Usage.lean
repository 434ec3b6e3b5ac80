import PulseJoin.Pulse
import PulseJoin.Text.Numeral
import PulseJoin.Text.Real

/-!
# Usage of a command line

A command has parameters, which are given by name, and may have commands of its own.  `Usage.scan`
goes through arguments up to the name of such a command; `Usage.finish` adds what the environment
gives and checks the whole.  A parameter whose value stands in an argument of its own waits for it,
and the value is looked at when the next parameter comes or the arguments end.
-/

namespace PulseJoin.CommandLine

open Text

inductive UsageError where
  | helpAsked
  | versionAsked
  | nothingGiven
  | missingCommand
  | unknownCommand
  | unknownArgument
  /-- A parameter is given twice, or together with one that excludes it. -/
  | conflict
  /-- A value is missing, empty, or none of those that are allowed. -/
  | invalidValue
  | malformedValue
  | unwantedValue
  deriving DecidableEq, Repr

def UsageError.message : UsageError → String
  | .helpAsked => "Usage: pulse-syncer [options] (run | validate | info | help) [options]"
  | .versionAsked => "pulse-syncer 0.1.0"
  | .nothingGiven | .missingCommand => "error: a command is required"
  | .unknownCommand => "error: there is no such command"
  | .unknownArgument => "error: there is no place for an argument"
  | .conflict => "error: parameters exclude each other"
  | .invalidValue => "error: a value is missing or not allowed"
  | .malformedValue => "error: a value cannot be read"
  | .unwantedValue => "error: a parameter takes no value"

/-- The exit code: it is no error to ask. -/
def UsageError.exitCode : UsageError → UInt32
  | .helpAsked | .versionAsked => 0
  | _ => 2

/-! ## Values -/

def unsigned? (v : String) : Option UInt64 :=
  (Numeral.nat? v).bind fun n => if n < UInt64.size then some (.ofNat n) else none

def signed? (v : String) : Option Int64 := (Numeral.int? v).bind PulseId.ofInt?

def upTo? (limit : Nat) (v : String) : Option Nat :=
  (Numeral.int? v).bind fun n => if 0 ≤ n ∧ n ≤ limit then some n.toNat else none

def probability? (v : String) : Option Float :=
  (Real.read? v).bind fun x => if 0 ≤ x && x ≤ 1 then some x else none

inductive LogFormat where
  | json | pretty | compact
  deriving DecidableEq, Repr

def logFormat? : String → Option LogFormat
  | "json" => some .json
  | "pretty" => some .pretty
  | "compact" => some .compact
  | _ => none

inductive ValueKind where
  | path | unsigned | signed | byte | portNumber | probability | logFormat
  deriving DecidableEq, Repr

def ValueKind.fault? (kind : ValueKind) (v : String) : Option UsageError :=
  match kind with
  | .path => if v.isEmpty then some .invalidValue else none
  | .unsigned => if (unsigned? v).isNone then some .malformedValue else none
  | .signed => if (signed? v).isNone then some .malformedValue else none
  | .byte => if (upTo? 255 v).isNone then some .malformedValue else none
  | .portNumber => if (upTo? 65535 v).isNone then some .malformedValue else none
  | .probability => if (probability? v).isNone then some .malformedValue else none
  | .logFormat => if (logFormat? v).isNone then some .invalidValue else none

/-! ## Parameters -/

inductive ParameterKind where
  | flag
  /-- As often as one likes; the times are counted. -/
  | counter
  | value (kind : ValueKind)
  | help
  | version
  deriving DecidableEq, Repr

structure Parameter where
  name : String
  kind : ParameterKind
  letter? : Option Char := none
  /-- The environment variable that stands in for it. -/
  envName? : Option String := none
  deriving DecidableEq, Repr

structure Usage where
  parameters : List Parameter
  commands : List String
  deriving DecidableEq, Repr

namespace Usage

def named? (u : Usage) (name : String) : Option Parameter := u.parameters.find? (·.name == name)

def lettered? (u : Usage) (letter : Char) : Option Parameter :=
  u.parameters.find? (·.letter? == some letter)

end Usage

/-- Where a value comes from; what comes from later in this list counts more. -/
inductive Source where
  | environment
  | arguments
  deriving DecidableEq, Repr

structure Given where
  name : String
  source : Source
  value : String
  deriving DecidableEq, Repr

def given? (all : List Given) (name : String) : Option Given := all.find? (·.name == name)

def value? (all : List Given) (name : String) : Option String := (given? all name).map (·.value)

structure Scan where
  given : List Given := []
  /-- The parameter that was last to take a value from an argument of its own, and the value. -/
  awaiting? : Option (Parameter × Option String) := none
  deriving DecidableEq, Repr

namespace Scan

def put (s : Scan) (source : Source) (name value : String) : Scan :=
  { s with given := s.given ++ [⟨name, source, value⟩] }

def putOnce (s : Scan) (p : Parameter) (kind : ValueKind) (v : String) :
    Except UsageError Scan :=
  if (given? s.given p.name).isSome then .error .conflict
  else match kind.fault? v with
    | some e => .error e
    | none => .ok (s.put .arguments p.name v)

def settle (s : Scan) : Except UsageError Scan :=
  match s.awaiting? with
  | none => .ok s
  | some (_, none) => .error .invalidValue
  | some (p, some v) =>
    match p.kind with
    | .value kind => { s with awaiting? := none }.putOnce p kind v
    | _ => .ok { s with awaiting? := none }

/-- Counts a parameter once more, up to the end of a byte. -/
def count (s : Scan) (name : String) : Scan :=
  let times := ((value? s.given name).bind (upTo? 255)).getD 0
  { s with given := s.given.filter (·.name != name) }.put .arguments name
    (toString (min (times + 1) 255))

def switch (s : Scan) (p : Parameter) : Except UsageError Scan := do
  let s ← s.settle
  match p.kind with
  | .help => .error .helpAsked
  | .version => .error .versionAsked
  | .counter => .ok (s.count p.name)
  | .flag | .value _ =>
    if (given? s.given p.name).isSome then .error .conflict
    else .ok (s.put .arguments p.name "true")

def assign (s : Scan) (p : Parameter) (kind : ValueKind) (v? : Option String) :
    Except UsageError Scan := do
  let s ← s.settle
  match v? with
  | some v => s.putOnce p kind v
  | none => .ok { s with awaiting? := some (p, none) }

def long (s : Scan) (u : Usage) (name : String) (v? : Option String) : Except UsageError Scan :=
  match u.named? name with
  | none => .error .unknownArgument
  | some p =>
    match p.kind with
    | .value kind => s.assign p kind v?
    | _ => if v?.isSome then .error .unwantedValue else s.switch p

/-- The value behind a letter, with or without an equals sign. -/
def attached? : List Char → Option String
  | [] => none
  | '=' :: cs => some (.ofList cs)
  | cs => some (.ofList cs)

/-- Takes parameters by letters; the first that has a value takes the rest of the letters. -/
def short (u : Usage) : List Char → Scan → Except UsageError Scan
  | [], s => .ok s
  | c :: cs, s =>
    match u.lettered? c with
    | none => .error .unknownArgument
    | some p =>
      match p.kind with
      | .value kind => s.assign p kind (attached? cs)
      | _ => do short u cs (← s.switch p)

def isAwaiting (s : Scan) : Bool :=
  match s.awaiting? with
  | some (_, none) => true
  | _ => false

end Scan

/-! ## Commands -/

namespace Usage

def misplaced (u : Usage) : UsageError :=
  if u.commands.isEmpty then .unknownArgument else .unknownCommand

def splitLong (cs : List Char) : String × Option String :=
  (.ofList (cs.takeWhile (· ≠ '=')),
    match cs.dropWhile (· ≠ '=') with
    | [] => none
    | _ :: v => some (.ofList v))

/--
Goes through arguments up to the name of a command; the arguments behind it are its own.  Behind
two dashes there is no place for anything.
-/
def scan (u : Usage) : List String → Scan → Except UsageError (Scan × Option (String × List String))
  | [], s => .ok (s, none)
  | arg :: rest, s =>
    if !s.isAwaiting && arg ∈ u.commands then .ok (s, some (arg, rest))
    else match arg.toList with
      | ['-', '-'] =>
        match rest with
        | [] => .ok (s, none)
        | arg :: _ => .error (if arg ∈ u.commands then .unknownArgument else u.misplaced)
      | '-' :: '-' :: cs => do
        let (name, v?) := splitLong cs
        scan u rest (← s.long u name v?)
      | '-' :: c :: cs => do scan u rest (← s.short u (c :: cs))
      | _ =>
        match s.awaiting? with
        | some (p, none) => scan u rest { s with awaiting? := some (p, some arg) }
        | _ => .error u.misplaced

def variableKind : ParameterKind → ValueKind
  | .value kind => kind
  | .counter | .flag | .help | .version => .byte

def addVariables (env : String → Option String) :
    List Parameter → List Given → Except UsageError (List Given)
  | [], given => .ok given
  | p :: ps, given =>
    match p.envName?.bind env with
    | some v =>
      if (given? given p.name).isSome then addVariables env ps given
      else match (variableKind p.kind).fault? v with
        | some e => .error e
        | none => addVariables env ps (given ++ [⟨p.name, .environment, v⟩])
    | none => addVariables env ps given

/--
All that is given to a command: what was found in the arguments and what the environment adds.  A
command that has commands needs one of them, and two parameters must not exclude each other.
-/
def finish (u : Usage) (env : String → Option String) (excluding : List (String × String))
    (s : Scan) (hasCommand : Bool) : Except UsageError (List Given) := do
  let s ← s.settle
  let given ← addVariables env u.parameters s.given
  if !u.commands.isEmpty && !hasCommand then
    .error (if given.isEmpty then .nothingGiven else .missingCommand)
  else if excluding.any fun (a, b) => (given? given a).isSome && (given? given b).isSome then
    .error .conflict
  else .ok given

end Usage

end PulseJoin.CommandLine
