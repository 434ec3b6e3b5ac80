/-!
# Sorted maps

Finite maps kept as association lists whose keys strictly ascend.  Two maps with the same entries
are the same list, so equality of maps is plain equality; the least key is the head of the list.

Main statements: `get?_insert_self` and `get?_insert_of_ne` say that insertion touches one key only,
`mem_below` and `mem_above` say where a map is cut by `below` and `above`.
-/

namespace PulseJoin

universe u v

structure SortedMap (κ : Type u) (β : Type v) [Ord κ] where
  toList : List (κ × β)
  ascending : toList.Pairwise fun a b => compare a.1 b.1 = .lt

namespace SortedMap

variable {κ : Type u} {β : Type v} [Ord κ]

def empty : SortedMap κ β := ⟨[], .nil⟩

instance : Inhabited (SortedMap κ β) := ⟨empty⟩

@[ext] theorem ext {m n : SortedMap κ β} (h : m.toList = n.toList) : m = n := by
  cases m; cases n; cases h; rfl

def size (m : SortedMap κ β) : Nat := m.toList.length

def isEmpty (m : SortedMap κ β) : Bool := m.toList.isEmpty

def keys (m : SortedMap κ β) : List κ := m.toList.map (·.1)

def values (m : SortedMap κ β) : List β := m.toList.map (·.2)

def first? (m : SortedMap κ β) : Option (κ × β) := m.toList.head?

def last? (m : SortedMap κ β) : Option (κ × β) := m.toList.getLast?

def get? (m : SortedMap κ β) (k : κ) : Option β :=
  (m.toList.find? fun e => compare e.1 k == .eq).map (·.2)

def contains (m : SortedMap κ β) (k : κ) : Bool := (m.get? k).isSome

/-- Puts one entry into an ascending list, replacing the entry of the same key. -/
def insertEntry (k : κ) (v : β) : List (κ × β) → List (κ × β)
  | [] => [(k, v)]
  | e :: rest =>
    match compare k e.1 with
    | .lt => (k, v) :: e :: rest
    | .eq => (k, v) :: rest
    | .gt => e :: insertEntry k v rest

theorem mem_insertEntry {k : κ} {v : β} {a : κ × β} {l : List (κ × β)}
    (h : a ∈ insertEntry k v l) : a = (k, v) ∨ a ∈ l := by
  induction l with
  | nil => simpa [insertEntry] using h
  | cons e rest ih =>
    simp only [insertEntry] at h
    split at h
    · simpa using h
    · rcases List.mem_cons.1 h with h | h
      · exact .inl h
      · exact .inr (List.mem_cons_of_mem _ h)
    · rcases List.mem_cons.1 h with h | h
      · exact .inr (h ▸ List.mem_cons_self)
      · exact (ih h).imp_right (List.mem_cons_of_mem _)

section Ordered

variable [Std.TransOrd κ] [Std.LawfulEqOrd κ]

theorem insertEntry_pairwise (k : κ) (v : β) {l : List (κ × β)}
    (h : l.Pairwise fun a b => compare a.1 b.1 = .lt) :
    (insertEntry k v l).Pairwise fun a b => compare a.1 b.1 = .lt := by
  induction l with
  | nil => simp [insertEntry]
  | cons e rest ih =>
    have ⟨head, tail⟩ := List.pairwise_cons.1 h
    simp only [insertEntry]
    split
    next lt =>
      refine List.pairwise_cons.2 ⟨fun a ha => ?_, h⟩
      rcases List.mem_cons.1 ha with rfl | ha
      · exact lt
      · exact Std.TransCmp.lt_trans lt (head a ha)
    next eq =>
      have eq := Std.LawfulEqOrd.eq_of_compare eq
      exact List.pairwise_cons.2 ⟨fun a ha => by simpa [eq] using head a ha, tail⟩
    next gt =>
      refine List.pairwise_cons.2 ⟨fun a ha => ?_, ih tail⟩
      rcases mem_insertEntry ha with rfl | ha
      · exact Std.OrientedCmp.gt_iff_lt.1 gt
      · exact head a ha

def insert (m : SortedMap κ β) (k : κ) (v : β) : SortedMap κ β :=
  ⟨insertEntry k v m.toList, insertEntry_pairwise k v m.ascending⟩

/-- The map of a list of entries; of entries with one key the last counts. -/
def ofList (l : List (κ × β)) : SortedMap κ β :=
  l.foldl (fun m e => m.insert e.1 e.2) empty

def alter (m : SortedMap κ β) (k : κ) (f : Option β → β) : SortedMap κ β :=
  m.insert k (f (m.get? k))

end Ordered

def filter (m : SortedMap κ β) (p : κ × β → Bool) : SortedMap κ β :=
  ⟨m.toList.filter p, m.ascending.filter p⟩

def erase (m : SortedMap κ β) (k : κ) : SortedMap κ β :=
  m.filter fun e => compare e.1 k != .eq

def below (m : SortedMap κ β) (k : κ) : SortedMap κ β :=
  m.filter fun e => compare e.1 k == .lt

def above (m : SortedMap κ β) (k : κ) : SortedMap κ β :=
  m.filter fun e => compare e.1 k != .lt

def map {γ : Type v} (m : SortedMap κ β) (f : κ → β → γ) : SortedMap κ γ :=
  ⟨m.toList.map fun e => (e.1, f e.1 e.2),
    List.pairwise_map.2 (by simpa using m.ascending)⟩

/-! ## What the operations do to the entries -/

@[simp] theorem toList_empty : (empty : SortedMap κ β).toList = [] := rfl

@[simp] theorem get?_empty (k : κ) : (empty : SortedMap κ β).get? k = none := rfl

theorem mem_below {m : SortedMap κ β} {k : κ} {e : κ × β} :
    e ∈ (m.below k).toList ↔ e ∈ m.toList ∧ compare e.1 k = .lt := by
  simp [below, filter]

theorem mem_above {m : SortedMap κ β} {k : κ} {e : κ × β} :
    e ∈ (m.above k).toList ↔ e ∈ m.toList ∧ compare e.1 k ≠ .lt := by
  simp [above, filter]

section Ordered

variable [Std.TransOrd κ] [Std.LawfulEqOrd κ]

theorem get?_insert_self (m : SortedMap κ β) (k : κ) (v : β) :
    (m.insert k v).get? k = some v := by
  have found : ∀ l : List (κ × β),
      (insertEntry k v l).find? (fun e => compare e.1 k == .eq) = some (k, v) := by
    intro l
    induction l with
    | nil => simp [insertEntry]
    | cons e rest ih =>
      simp only [insertEntry]
      split
      · simp
      · simp
      next gt =>
        have lt : compare e.1 k = .lt := Std.OrientedCmp.gt_iff_lt.1 gt
        simp [lt, ih]
  simp [get?, insert, found]

theorem get?_insert_of_ne (m : SortedMap κ β) {k j : κ} (v : β) (h : k ≠ j) :
    (m.insert k v).get? j = m.get? j := by
  have kj : compare k j ≠ .eq := fun e => h (Std.LawfulEqOrd.eq_of_compare e)
  have found : ∀ l : List (κ × β),
      (insertEntry k v l).find? (fun e => compare e.1 j == .eq) =
        l.find? (fun e => compare e.1 j == .eq) := by
    intro l
    induction l with
    | nil => simp [insertEntry, kj]
    | cons e rest ih =>
      simp only [insertEntry]
      split
      · simp [kj]
      next eq =>
        have eq := Std.LawfulEqOrd.eq_of_compare eq
        simp [kj, ← eq]
      · simp [List.find?_cons, ih]
  simp [get?, insert, found]

theorem get?_insert [DecidableEq κ] (m : SortedMap κ β) (k j : κ) (v : β) :
    (m.insert k v).get? j = if j = k then some v else m.get? j := by
  split
  · next h => rw [h, get?_insert_self]
  · next h => exact get?_insert_of_ne m v (Ne.symm h)

theorem get?_foldl_insert_eq_some_iff [DecidableEq κ] {entries : List (κ × β)}
    (h : (entries.map (·.1)).Nodup) (m : SortedMap κ β) {k : κ} {v : β} :
    (entries.foldl (fun m e => m.insert e.1 e.2) m).get? k = some v ↔
      (k, v) ∈ entries ∨ k ∉ entries.map (·.1) ∧ m.get? k = some v := by
  induction entries generalizing m with
  | nil => simp
  | cons e rest ih =>
    rw [List.map_cons, List.nodup_cons] at h
    rw [List.foldl_cons, ih h.2, get?_insert, List.mem_cons, List.map_cons, List.mem_cons]
    by_cases hkey : k = e.1
    · -- No later entry has the key of the first one.
      have hnot : (k, v) ∉ rest := fun hmem => h.1 (hkey ▸ List.mem_map_of_mem hmem)
      subst hkey
      simp [h.1, hnot, Prod.ext_iff, eq_comm]
    · simp [hkey, Prod.ext_iff]

theorem get?_ofList_eq_some_iff [DecidableEq κ] {entries : List (κ × β)}
    (h : (entries.map (·.1)).Nodup) {k : κ} {v : β} :
    (ofList entries).get? k = some v ↔ (k, v) ∈ entries := by
  unfold ofList
  rw [get?_foldl_insert_eq_some_iff h]
  simp

end Ordered

end SortedMap

end PulseJoin
