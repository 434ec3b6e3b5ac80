import PulseJoin.Text.DataFormat

/-!
# Built data

A `Builder` makes values of a data format which the readers of the format take apart again, so that
what is built from a record can be read in any format that has a builder.
-/

namespace PulseJoin

open Text DataFormat

/-- Ways to make values of a data format that its readers take apart again. -/
structure Text.DataFormat.Builder (β : Type) [DataFormat β] where
  text : String → β
  int : Int → β
  bool : Bool → β
  list : List β → β
  table : List (String × β) → β
  text?_text (s : String) : text? (text s) = some s
  int?_int (n : Int) : int? (int n) = some n
  bool?_bool (b : Bool) : bool? (bool b) = some b
  items?_list (items : List β) : items? (list items) = some items
  items?_table (entries : List (String × β)) : items? (table entries) = none
  entries?_table (entries : List (String × β)) : entries? (table entries) = some entries
  known?_table {names : List String} {entries : List (String × β)} :
    (∀ e ∈ entries, e.1 ∈ names) → known? names (table entries) = some entries
  isNull_int (n : Int) : isNull (int n) = false
  isStorable_table {entries : List (String × β)} :
    (∀ e ∈ entries, (∃ s, e.2 = text s) ∨ ∃ n : UInt64, e.2 = int n.toNat) →
      isStorable (table entries) = true

theorem PulseId.ofInt?_toInt (p : PulseId) : ofInt? p.toInt = some p := by
  have hlow := p.minValue_le_toInt
  have hhigh := p.toInt_le
  rw [ofInt?, if_pos ⟨by simpa using hlow, by simpa using hhigh⟩, Int64.ofInt_toInt]

theorem Text.DataFormat.optional_some {α β : Type} (standard : α) (read : β → Option α) (v : β) :
    DataFormat.optional standard read (some v) = read v := rfl

theorem Text.DataFormat.mapM_map {α β : Type} {write : α → β} {read : β → Option α}
    (h : ∀ x, read (write x) = some x) (xs : List α) : (xs.map write).mapM read = some xs := by
  induction xs with
  | nil => rfl
  | cons x xs ih =>
    rw [List.map_cons, List.mapM_cons, h, ih]
    rfl

namespace Text.DataFormat.Builder

variable {β : Type} [DataFormat β] (b : Builder β)

theorem int64?_int (n : Int64) : int64? (b.int n.toInt) = some n := by
  simp [int64?, b.int?_int, PulseId.ofInt?_toInt]

theorem uint64?_int (n : UInt64) : uint64? (b.int n.toNat) = some n := by
  have hrange : 0 ≤ (n.toNat : Int) ∧ (n.toNat : Int) < UInt64.size :=
    ⟨Int.natCast_nonneg _, Int.ofNat_lt.2 n.toNat_lt_size⟩
  rw [uint64?, b.int?_int, Option.bind_some, if_pos hrange]
  simp

theorem fields?_table {names : List String} {entries : List (String × β)}
    (h : ∀ e ∈ entries, e.1 ∈ names) :
    fields? names (b.table entries) = names.mapM (unique? entries) := by
  simp [fields?, b.items?_table, b.known?_table h]

end Text.DataFormat.Builder

end PulseJoin
