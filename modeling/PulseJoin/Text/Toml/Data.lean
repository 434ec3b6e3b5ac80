import PulseJoin.Text.DataFormat
import PulseJoin.Text.Toml

/-!
# TOML as a data format

What is skipped must not hold numbers out of range, what is set aside only integers of 64 bits.
Nobody looks at the items of a list behind the fields of its record, and no value says that there is
none.
-/

namespace PulseJoin.Text.Toml

namespace Value

def text? : Value → Option String
  | .text s => some s
  | _ => none

def int? : Value → Option Int
  | .integer n => some n
  | _ => none

def bool? : Value → Option Bool
  | .boolean b => some b
  | _ => none

def items? : Value → Option (List Value)
  | .array items => some items
  | _ => none

def entries? : Value → Option (List (String × Value))
  | .table entries => some entries
  | _ => none

end Value

mutual

/-- Whether all integers inside pass a test, and no number is out of range. -/
def Value.all (integer : Int → Bool) : Value → Bool
  | .integer n => integer n
  | .excess _ => false
  | .array items => allItems integer items
  | .table entries => allEntries integer entries
  | _ => true

def allItems (integer : Int → Bool) : List Value → Bool
  | [] => true
  | v :: vs => v.all integer && allItems integer vs

def allEntries (integer : Int → Bool) : List (String × Value) → Bool
  | [] => true
  | (_, v) :: es => v.all integer && allEntries integer es

end

/-- Whether an integer has 64 bits, signed or unsigned. -/
def isWord (n : Int) : Bool := Int64.minValue.toInt ≤ n && n < UInt64.size

/-- The entries of a table, if all that are not named in a list can be skipped. -/
def Value.known? (names : List String) (v : Value) : Option (List (String × Value)) := do
  let entries ← v.entries?
  if entries.all fun e => e.1 ∈ names || e.2.all fun _ => true then some entries else none

instance : DataFormat Value where
  text? := Value.text?
  int? := Value.int?
  bool? := Value.bool?
  items? := Value.items?
  entries? := Value.entries?
  known? := Value.known?
  isNull _ := false
  isStorable := Value.all isWord
  allowsSurplus := true

end PulseJoin.Text.Toml
