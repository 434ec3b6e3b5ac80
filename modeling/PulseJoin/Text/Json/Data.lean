import PulseJoin.Text.DataFormat
import PulseJoin.Text.Json

/-!
# JSON as a data format

Names of members have to be texts.  What is skipped may hold numbers of any size and strings that
are no text, but no bare control character.  What is set aside has to be made of texts and of
numbers that are not too large, and its nesting is limited.
-/

namespace PulseJoin.Text.Json

def Value.entries? : Value → Option (List (String × Value))
  | .object members => members.mapM fun (k, v) => (Json.text? k).map (·, v)
  | _ => none

/-- The entries of an object that are named in a list, if all others can be skipped. -/
def Value.known? (names : List String) (v : Value) : Option (List (String × Value)) := do
  let entries ← v.entries?
  if entries.all fun e => e.1 ∈ names || e.2.ignorable then some entries else none

def Value.items? : Value → Option (List Value)
  | .array items => some items
  | _ => none

def Value.isNull : Value → Bool
  | .null => true
  | _ => false

def isText (gs : List Glyph) : Bool := gs.all (·.char?.isSome)

/-- The greatest nesting of a value that is set aside inside a record. -/
def depthLimit : Nat := 126

instance : DataFormat Value where
  text? := Value.text?
  int? := Value.int?
  bool? := Value.bool?
  items? := Value.items?
  entries? := Value.entries?
  known? := Value.known?
  isNull := Value.isNull
  isStorable v := v.all isText false && v.depth ≤ depthLimit
  allowsSurplus := false

end PulseJoin.Text.Json
