import PulseJoin.CommandLine.Commands
import PulseJoin.CommandLine.Environment

/-!
# The program

Reads the arguments, the environment and the files that a command needs, performs the command and
prints what it says.
-/

open PulseJoin PulseJoin.CommandLine

/-- What is under a path that cannot be read.  A directory can be opened, so that the error names no
file; a path through something else cannot. -/
def PulseJoin.Entry.ofError : IO.Error → Entry
  | .inappropriateType (some _) .. => .blocked
  | .inappropriateType none .. => .directory
  | .permissionDenied .. => .forbidden
  | .invalidArgument .. => .overlong
  | _ => .absent

def PulseJoin.Entry.read (path : String) : IO Entry := do
  match ← (IO.FS.readBinFile path).toBaseIO with
  | .ok content => return .file content
  | .error e => return .ofError e

/-- The names of variables that matter to a file of settings or to the program itself.  A file may
set names, and refer to them behind a dollar sign or between braces. -/
def PulseJoin.CommandLine.Environment.relevantNames (file : Entry) : List String :=
  let text := match file with
    | .file content => String.ofList (Environment.textLines content).flatten
    | _ => ""
  let split (ends : Char → Bool) := (text.split ends).toList.map (·.toString)
  split (fun c => !(c.isAlphanum || c == '_' || c == '.')) ++
    split (fun c => !Text.isAlphanumeric c) ++
    split (fun c => c == '\x7b' || c == '\x7d') ++
    (topUsage.parameters ++ runParameters).filterMap (·.envName?)

def PulseJoin.CommandLine.Environment.read : IO Environment.Variables := do
  let file ← Entry.read ".env"
  let set ← (Environment.relevantNames file).filterMapM fun name => do
    return (← IO.getEnv name).map (name, ·)
  return Environment.load set file

def PulseJoin.spareSeed : IO UInt64 := do
  return (← IO.getRandomBytes 8).foldl (fun n b => n * 256 + b.toUInt64) 0

/-- Evaluates now, and not when the value is asked for. -/
@[noinline] def PulseJoin.evaluate {α : Type} (value : Unit → α) : IO α := pure (value ())

def main (args : List String) : IO UInt32 := do
  let env ← Environment.read
  match Invocation.parse (Environment.value? env) args with
  | .error e =>
    if e.exitCode = 0 then IO.println e.message else IO.eprintln e.message
    return e.exitCode
  | .ok i =>
    let entry ← Entry.read i.command.config
    let seed ← spareSeed
    let began ← IO.monoNanosNow
    let performance ← evaluate fun _ => i.command.perform (fun _ => entry) seed
    let ended ← IO.monoNanosNow
    match performance.outcome? ⟨ended - began⟩ with
    | some outcome =>
      IO.print outcome.output
      IO.eprint outcome.errorText
      return outcome.exitCode
    | none =>
      IO.eprintln "The command was broken off."
      return 101
