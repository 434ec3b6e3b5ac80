import PulseJoin.Text.Excerpt
import PulseJoin.Text.Json.Reader
import PulseJoin.Text.Shape

/-!
# Complaints about numbers

`complaint?` says where a text holds a number that is too large.  The first one that is looked at
counts, also if the text breaks off behind it; entries that are no field are skipped.
-/

namespace PulseJoin.Text.Json

mutual

/-- How many characters are left where the first number shows to be too large. -/
def Value.excess? : Value → Shape → Option Nat
  | .excess _ left, _ => some left
  | .array items, shape => itemsExcess? items shape 0
  | .object members, shape => membersExcess? members shape
  | _, _ => none

def itemsExcess? : List Value → Shape → Nat → Option Nat
  | [], _, _ => none
  | v :: vs, shape, i => (shape.item? i).bind v.excess? <|> itemsExcess? vs shape (i + 1)

def membersExcess? : List (List Glyph × Value) → Shape → Option Nat
  | [], _ => none
  | (k, v) :: ms, shape =>
    ((text? k).bind (shape.entry? none)).bind v.excess? <|> membersExcess? ms shape

end

/-- What there is to complain of the numbers in a text that is read as a value of some shape. -/
def complaint? (shape : Shape) (text : String) : Option String := do
  let place := Excerpt.ofText text (← (readable text).excess? shape) 0
  return s!"number out of range at line {place.line + 1} column {place.before.utf8ByteSize}"

end PulseJoin.Text.Json
