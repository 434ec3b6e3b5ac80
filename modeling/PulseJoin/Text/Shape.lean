/-!
# Shapes

A shape says how far a value of some data format is looked into when it is read.
-/

namespace PulseJoin.Text

/-- How far a value is looked into. -/
inductive Shape where
  /-- Everything inside is looked at. -/
  | whole
  /-- Nothing inside is looked at. -/
  | plain
  | list (item : Shape)
  /-- The fields of a record are looked at: named entries, or items in the order of the fields. -/
  | record (fields : List (String × Shape))

namespace Shape

def item? : Shape → Nat → Option Shape
  | .whole, _ => some .whole
  | .plain, _ => none
  | .list item, _ => some item
  | .record fields, i => fields[i]?.map (·.2)

/--
The shape of an entry of a table, if it is looked at.  `others` is that of an entry which is no
field of the record.
-/
def entry? (others : Option Shape) : Shape → String → Option Shape
  | .whole, _ => some .whole
  | .plain, _ => none
  | .list _, _ => none
  | .record fields, name => fields.lookup name <|> others

end Shape

end PulseJoin.Text
