/-!
# Outcomes

What a command leaves behind: a text on the output, and the causes of its failure, the outermost
first, if it failed.
-/

namespace PulseJoin.CommandLine

structure Outcome where
  output : String := ""
  causes : List String := []
  deriving DecidableEq, Repr, Inhabited

namespace Outcome

def ofLines (lines : List String) : Outcome := { output := .join (lines.map (· ++ "\n")) }

def isSuccess (o : Outcome) : Bool := o.causes.isEmpty

def indented (first rest cause : String) : String :=
  first ++ ("\n" ++ rest).intercalate (cause.splitOn "\n")

def numberText (n : Nat) : String :=
  let digits := toString n
  "".pushn ' ' (5 - digits.length) ++ digits

/-- The causes behind the outermost; several are numbered. -/
def causeLines : List String → List String
  | [] => []
  | [cause] => ["", "Caused by:", indented "    " "    " cause]
  | causes => "" :: "Caused by:" :: causes.zipIdx.map fun (cause, i) =>
      indented (numberText i ++ ": ") "       " cause

def errorText (o : Outcome) : String :=
  match o.causes with
  | [] => ""
  | cause :: causes => .join ((("Error: " ++ cause) :: causeLines causes).map (· ++ "\n"))

def exitCode (o : Outcome) : UInt32 := if o.isSuccess then 0 else 1

end Outcome

end PulseJoin.CommandLine
