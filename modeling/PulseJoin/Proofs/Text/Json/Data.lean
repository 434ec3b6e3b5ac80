import PulseJoin.Proofs.Text.DataFormat
import PulseJoin.Proofs.Text.Json.Values
import PulseJoin.Text.Json.Data

/-!
# JSON values as data

What is built as a JSON value is taken apart by the readers of data, and numbers of 64 bits are
read as they are written.
-/

namespace PulseJoin

open Text

namespace Text.Json

theorem entries?_record (fields : List (String × Value)) :
    (Value.record fields).entries? = some fields := by
  show (fields.map fun f => (glyphs f.1, f.2)).mapM _ = _
  exact DataFormat.mapM_map (fun f => by simp [text?_glyphs]) fields

theorem isText_glyphs (s : String) : isText (glyphs s) = true := by
  simp [isText, glyphs, Glyph.char?]

theorem isStorable_record {fields : List (String × Value)}
    (h : ∀ f ∈ fields, (∃ s, f.2 = .text s) ∨ ∃ n : UInt64, f.2 = .int n.toNat) :
    DataFormat.isStorable (Value.record fields) = true := by
  have hparts : allMembers isText false (fields.map fun f => (glyphs f.1, f.2)) = true ∧
      depthOfMembers (fields.map fun f => (glyphs f.1, f.2)) = 0 := by
    induction fields with
    | nil => exact ⟨rfl, rfl⟩
    | cons f fs ih =>
      obtain ⟨hall, hdepth⟩ := ih fun g hg => h g (.tail _ hg)
      have hvalue : f.2.all isText false = true ∧ f.2.depth = 0 := by
        rcases h f (.head _) with ⟨s, hs⟩ | ⟨n, hn⟩
        · rw [hs]
          exact ⟨isText_glyphs s, rfl⟩
        · rw [hn]
          exact ⟨rfl, rfl⟩
      simp [allMembers, depthOfMembers, isText_glyphs, hvalue, hall, hdepth]
  show ((Value.record fields).all isText false && decide ((Value.record fields).depth ≤ depthLimit))
    = true
  simp [Value.record, Value.all, Value.depth, hparts, depthLimit]

def builder : DataFormat.Builder Value where
  text := .text
  int := .int
  bool := .bool
  list := .array
  table := .record
  text?_text := text?_glyphs
  int?_int := int?_int
  bool?_bool _ := rfl
  items?_list _ := rfl
  items?_table _ := rfl
  entries?_table := entries?_record
  known?_table {names entries} h := by
    have hknown : entries.all (fun e => e.1 ∈ names || e.2.ignorable) = true := by
      rw [List.all_eq_true]
      intro e he
      simp [h e he]
    show (Value.record entries).known? names = _
    simp [Value.known?, entries?_record, hknown]
  isNull_int _ := rfl
  isStorable_table := isStorable_record

theorem Value.Faithful.int64 (n : Int64) : (Value.int n.toInt).Faithful := by
  have hlow := n.le_toInt
  have hhigh := n.toInt_lt
  refine .int _ ?_
  show n.toInt.natAbs < 2 ^ 64
  omega

theorem Value.Faithful.uint64 (n : UInt64) : (Value.int n.toNat).Faithful :=
  .int _ n.toNat_lt_size

end Text.Json

end PulseJoin
