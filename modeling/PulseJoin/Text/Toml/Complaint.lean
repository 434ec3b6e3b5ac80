import PulseJoin.Text.Excerpt
import PulseJoin.Text.Shape
import PulseJoin.Text.Toml.Reader

/-!
# Complaints about numbers

`complaint?` says where a text holds a number out of range.  The first one that is looked at counts,
where the entries of a table come in the order of their names; those that are no field are looked at
as well.
-/

namespace PulseJoin.Text.Toml

def NumberKind.complaint : NumberKind → String
  | .integer => "integer number overflowed"
  | .real => "floating-point number overflowed"

/-- What stands with the least name. -/
def ofLeastName? {α : Type} : List (String × α) → Option α
  | [] => none
  | e :: es => some (es.foldl (fun least e => if e.1 < least.1 then e else least) e).2

mutual

def Value.excess? : Value → Shape → Option Excess
  | .excess e, _ => some e
  | .array items, shape => itemsExcess? items shape 0
  | .table entries, shape => ofLeastName? (entriesExcess entries shape)
  | _, _ => none

def itemsExcess? : List Value → Shape → Nat → Option Excess
  | [], _, _ => none
  | v :: vs, shape, i => (shape.item? i).bind v.excess? <|> itemsExcess? vs shape (i + 1)

/-- The first number out of range in each entry that has one. -/
def entriesExcess : List (String × Value) → Shape → List (String × Excess)
  | [], _ => []
  | (name, v) :: es, shape =>
    match (shape.entry? (some .whole) name).bind v.excess? with
    | some e => (name, e) :: entriesExcess es shape
    | none => entriesExcess es shape

end

def Excess.complaint (e : Excess) (text : String) : String :=
  let excerpt := Excerpt.ofText text e.left e.written.length
  .join ((excerpt.lines "TOML parse error" ++ [e.kind.complaint]).map (· ++ "\n"))

def complaint? (shape : Shape) (text : String) : Option String := do
  return (← (← read? text).excess? shape).complaint text

end PulseJoin.Text.Toml
