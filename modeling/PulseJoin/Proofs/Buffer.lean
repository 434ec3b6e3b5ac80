import PulseJoin.Buffer
import PulseJoin.Proofs.SortedMap

/-!
# The operations of the buffer

A stored value changes the entry of its pulse only; the entry keeps the time at which it was made.
What is taken out of the buffer leaves the other entries as they are.  The oldest and the newest id
are the ends of the ids in it.
-/

namespace PulseJoin.PulseBuffer

universe u

variable {α : Type u}

theorem lt_of_compare {p q : PulseId} (h : compare p q = .lt) : p < q := Std.compare_eq_lt.1 h

theorem mem_store {b : PulseBuffer α} {p : PulseId} {channel : String} {v : α} {now : UInt64}
    {e : PulseId × Pending α} :
    e ∈ (b.store p channel v now).toList ↔
      e = (p, { b.entry p now with values := (b.entry p now).values.insert channel v }) ∨
        e.1 ≠ p ∧ e ∈ b.toList :=
  SortedMap.mem_insert

theorem contains_store {b : PulseBuffer α} {p q : PulseId} {channel : String} {v : α}
    {now : UInt64} :
    (b.store p channel v now).contains q = true ↔ q = p ∨ b.contains q = true := by
  simp only [SortedMap.contains_iff, mem_store, Prod.mk.injEq]
  by_cases h : q = p
  · simp [h]
  · simp [h]

theorem contains_erase {b : PulseBuffer α} {p q : PulseId} :
    (b.erase p).contains q = true ↔ b.contains q = true ∧ q ≠ p := by
  simp only [SortedMap.contains_iff, SortedMap.mem_erase, exists_and_right]

theorem contains_above {b : PulseBuffer α} {p q : PulseId} :
    (b.above p).contains q = true ↔ b.contains q = true ∧ p ≤ q := by
  simp only [SortedMap.contains_iff, SortedMap.mem_above, exists_and_right, ne_eq,
    Std.compare_eq_lt, Int64.not_lt]

theorem entry_cases (b : PulseBuffer α) (p : PulseId) (now : UInt64) :
    (p, b.entry p now) ∈ b.toList ∨ b.contains p = false ∧ b.entry p now = ⟨p, now, .empty⟩ := by
  unfold entry
  cases h : b.get? p with
  | some w => exact .inl (SortedMap.get?_eq_some_iff.1 h)
  | none => exact .inr ⟨by simp [SortedMap.contains, h], rfl⟩

/-- Every entry is stored under the id it was made with. -/
def Keyed (b : PulseBuffer α) : Prop := ∀ e ∈ b.toList, e.2.pulse = e.1

theorem Keyed.store {b : PulseBuffer α} (h : b.Keyed) (p : PulseId) (channel : String) (v : α)
    (now : UInt64) : (b.store p channel v now).Keyed := by
  intro e he
  rcases mem_store.1 he with rfl | ⟨-, hold⟩
  · rcases b.entry_cases p now with hold | ⟨-, hnew⟩
    · exact h (p, b.entry p now) hold
    · exact congrArg Pending.pulse hnew
  · exact h e hold

theorem Keyed.filter {b : PulseBuffer α} (h : b.Keyed) (f : PulseId × Pending α → Bool) :
    Keyed (SortedMap.filter b f) :=
  fun e he => h e (List.mem_filter.1 he).1

theorem lt_of_first? {b : PulseBuffer α} {p : PulseId} {w : Pending α}
    (h : b.first? = some (p, w)) {e : PulseId × Pending α} (he : e ∈ b.toList) :
    e = (p, w) ∨ p < e.1 :=
  ((SortedMap.mem_of_first? h).2 e he).imp_right lt_of_compare

theorem le_of_first? {b : PulseBuffer α} {p q : PulseId} {w : Pending α}
    (h : b.first? = some (p, w)) (hq : b.contains q = true) : p ≤ q := by
  obtain ⟨w', hw'⟩ := SortedMap.contains_iff.1 hq
  rcases lt_of_first? h hw' with heq | hlt
  · exact Int64.le_of_eq (congrArg Prod.fst heq).symm
  · exact Int64.le_of_lt hlt

/-! ## Entries -/

theorem get?_store (b : PulseBuffer α) (p q : PulseId) (channel : String) (v : α) (now : UInt64) :
    (b.store p channel v now).get? q =
      if q = p then some { b.entry p now with values := (b.entry p now).values.insert channel v }
      else b.get? q :=
  SortedMap.get?_insert ..

theorem get?_erase (b : PulseBuffer α) (p q : PulseId) :
    (b.erase p).get? q = if q = p then none else b.get? q := by
  refine (SortedMap.get?_filter b (compare · p != .eq) q).trans ?_
  by_cases h : q = p <;> simp [h]

theorem get?_above (b : PulseBuffer α) (p q : PulseId) :
    (b.above p).get? q = if q < p then none else b.get? q := by
  refine (SortedMap.get?_filter b (compare · p != .lt) q).trans ?_
  simp only [bne_iff_ne, ne_eq, Std.compare_eq_lt, ite_not]

theorem mem_toList_below {b : PulseBuffer α} {p q : PulseId} {w : Pending α} :
    (q, w) ∈ (b.below p).toList ↔ q < p ∧ b.get? q = some w := by
  rw [SortedMap.mem_below, SortedMap.get?_eq_some_iff, Std.compare_eq_lt, and_comm]

/-! ## The ends -/

section Ends

variable {b : PulseBuffer α} {p : PulseId}

theorem le_of_last? {e : PulseId × Pending α} (h : b.last? = some e)
    (hp : b.contains p = true) : p ≤ e.1 := by
  obtain ⟨w, hw⟩ := SortedMap.contains_iff.1 hp
  rcases (SortedMap.mem_of_last? h).2 _ hw with rfl | hlt
  · exact Int64.le_refl _
  · exact Int64.le_of_lt (lt_of_compare hlt)

theorem oldest?_eq_some_iff : b.oldest? = some p ↔
    b.contains p = true ∧ ∀ q, b.contains q = true → p ≤ q := by
  unfold oldest?
  rw [Option.map_eq_some_iff]
  constructor
  · rintro ⟨⟨p, w⟩, hfirst, rfl⟩
    exact ⟨SortedMap.contains_iff.2 ⟨w, (SortedMap.mem_of_first? hfirst).1⟩,
      fun q => le_of_first? hfirst⟩
  · rintro ⟨hp, hle⟩
    obtain ⟨w, hw⟩ := SortedMap.contains_iff.1 hp
    cases hfirst : b.first? with
    | none =>
      rw [SortedMap.first?_eq_none_iff.1 hfirst] at hw
      cases hw
    | some e =>
      have hpe := hle e.1 (SortedMap.contains_iff.2 ⟨e.2, (SortedMap.mem_of_first? hfirst).1⟩)
      exact ⟨e, rfl, Int64.le_antisymm (le_of_first? hfirst hp) hpe⟩

theorem newest?_eq_some_iff : b.newest? = some p ↔
    b.contains p = true ∧ ∀ q, b.contains q = true → q ≤ p := by
  unfold newest?
  rw [Option.map_eq_some_iff]
  constructor
  · rintro ⟨⟨p, w⟩, hlast, rfl⟩
    exact ⟨SortedMap.contains_iff.2 ⟨w, (SortedMap.mem_of_last? hlast).1⟩,
      fun q => le_of_last? hlast⟩
  · rintro ⟨hp, hle⟩
    obtain ⟨w, hw⟩ := SortedMap.contains_iff.1 hp
    cases hlast : b.last? with
    | none =>
      rw [List.getLast?_eq_none_iff.1 hlast] at hw
      cases hw
    | some e =>
      have hep := hle e.1 (SortedMap.contains_iff.2 ⟨e.2, (SortedMap.mem_of_last? hlast).1⟩)
      exact ⟨e, rfl, Int64.le_antisymm hep (le_of_last? hlast hp)⟩

theorem first?_eq_some_iff {w : Pending α} :
    b.first? = some (p, w) ↔ b.oldest? = some p ∧ b.get? p = some w := by
  unfold oldest?
  rw [Option.map_eq_some_iff]
  constructor
  · intro h
    exact ⟨⟨_, h, rfl⟩, SortedMap.get?_eq_some_iff.2 (SortedMap.mem_of_first? h).1⟩
  · rintro ⟨⟨e, hfirst, rfl⟩, hw⟩
    rw [hfirst, SortedMap.entry_unique (SortedMap.mem_of_first? hfirst).1
      (SortedMap.get?_eq_some_iff.1 hw) rfl]

end Ends

end PulseJoin.PulseBuffer
