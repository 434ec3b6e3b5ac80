import PulseJoin.Text.Toml.Table

/-!
# Tables of plain documents

What the settings and sections of a document add to a table as long as no key leads through another
table and no name comes twice.
-/

namespace PulseJoin.Text.Toml

variable {name : String} {entries : Entries}

/-! ## Names -/

/-- A setting with a key of one name. -/
def Setting.ofEntry (e : String × Value) : Setting := ⟨⟨[], e.1⟩, e.2⟩

/-- A section of a list of tables. -/
def Section.item (name : String) (values : List (String × Value)) : Section :=
  ⟨⟨⟨[], name⟩, true⟩, values.map Setting.ofEntry⟩

/-- A section that is a table by itself. -/
def Section.table (name : String) (values : List (String × Value)) : Section :=
  ⟨⟨⟨[], name⟩, false⟩, values.map Setting.ofEntry⟩

end PulseJoin.Text.Toml
