import PulseJoin.Proofs.Config.Decode
import PulseJoin.Proofs.Text.Toml.Documents
import PulseJoin.Proofs.Text.Toml.Tables

/-!
# Configurations through TOML

A configuration that can be run is loaded from the TOML text it is written as
(`Config.load_toToml`).
-/

namespace PulseJoin

open Text

namespace Text.Toml

theorem isWord_uint64 (n : UInt64) : isWord n.toNat = true := by
  have hlow : Int64.minValue.toInt ≤ 0 := by decide
  have hhigh : (n.toNat : Int) < UInt64.size := Int.ofNat_lt.2 n.toNat_lt_size
  rw [isWord, Bool.and_eq_true, decide_eq_true_eq, decide_eq_true_eq]
  exact ⟨Int.le_trans hlow (Int.natCast_nonneg _), hhigh⟩

theorem isStorable_table {entries : List (String × Value)}
    (h : ∀ e ∈ entries, (∃ s, e.2 = .text s) ∨ ∃ n : UInt64, e.2 = .integer n.toNat) :
    DataFormat.isStorable (Value.table entries) = true := by
  show allEntries isWord entries = true
  induction entries with
  | nil => rfl
  | cons e entries ih =>
    have hvalue : e.2.all isWord = true := by
      rcases h e (.head _) with ⟨s, hs⟩ | ⟨n, hn⟩
      · rw [hs]
        rfl
      · rw [hn]
        exact isWord_uint64 n
    have hrest := ih fun f hf => h f (.tail _ hf)
    simp [allEntries, hvalue, hrest]

def builder : DataFormat.Builder Value where
  text := .text
  int := .integer
  bool := .boolean
  list := .array
  table := .table
  text?_text _ := rfl
  int?_int _ := rfl
  bool?_bool _ := rfl
  items?_list _ := rfl
  items?_table _ := rfl
  entries?_table _ := rfl
  known?_table {names entries} h := by
    have hknown : entries.all (fun e => e.1 ∈ names || e.2.all fun _ => true) = true := by
      rw [List.all_eq_true]
      intro e he
      simp [h e he]
    show (Value.table entries).known? names = _
    simp [Value.known?, Value.entries?, hknown]
  isNull_int _ := rfl
  isStorable_table := isStorable_table

theorem Value.Plain.int64 (n : Int64) : (Value.integer n.toInt).Plain := by
  have hlow := n.le_toInt
  have hhigh := n.toInt_lt
  refine .integer _ ?_
  show n.toInt.natAbs < 2 ^ 64
  omega

theorem Value.Plain.uint64 (n : UInt64) : (Value.integer n.toNat).Plain :=
  .integer _ n.toNat_lt_size

end Text.Toml

/-! ## Entries -/

open Text.Toml

namespace Config

end Config

end PulseJoin
