import Mathlib
import PulseJoin.SortedMap

/-!
# Sorted maps as finite maps

A sorted map is read through its entries: an entry is in the list exactly if `get?` finds it, and
each operation is described by what it does to the entries.  The first entry is the least one, so
taking it out of the map leaves the tail.  Two maps whose entries correspond, with the same order
among the keys, are told apart by no operation (`Rekeyed`).
-/

namespace PulseJoin.SortedMap

universe u v

variable {κ : Type u} {β : Type v} [Ord κ]

@[simp] theorem length_keys (m : SortedMap κ β) : m.keys.length = m.size := by
  simp [keys, size]

theorem perm_below_above (m : SortedMap κ β) (k : κ) :
    ((m.below k).toList ++ (m.above k).toList).Perm m.toList :=
  List.filter_append_perm _ _

theorem first?_eq_none_iff {m : SortedMap κ β} : m.first? = none ↔ m.toList = [] :=
  List.head?_eq_none_iff

theorem above_of_below {m : SortedMap κ β} {k : κ} (h : (m.below k).first? = none) :
    m.above k = m := by
  have hnone := first?_eq_none_iff.1 h
  apply ext
  show m.toList.filter _ = m.toList
  rw [List.filter_eq_self]
  intro e he
  rw [bne_iff_ne]
  intro hlt
  have hbelow : e ∈ (m.below k).toList := mem_below.2 ⟨he, hlt⟩
  rw [hnone] at hbelow
  cases hbelow

theorem mem_of_first? {m : SortedMap κ β} {e : κ × β} (h : m.first? = some e) :
    e ∈ m.toList ∧ ∀ a ∈ m.toList, a = e ∨ compare e.1 a.1 = .lt := by
  obtain ⟨rest, hrest⟩ := List.head?_eq_some_iff.1 h
  have hasc := m.ascending
  rw [hrest, List.pairwise_cons] at hasc
  refine ⟨hrest ▸ List.mem_cons_self, fun a ha => ?_⟩
  rw [hrest] at ha
  rcases List.mem_cons.1 ha with hfirst | hlater
  · exact .inl hfirst
  · exact .inr (hasc.1 a hlater)

theorem mem_of_last? {m : SortedMap κ β} {e : κ × β} (h : m.last? = some e) :
    e ∈ m.toList ∧ ∀ a ∈ m.toList, a = e ∨ compare a.1 e.1 = .lt := by
  obtain ⟨rest, hrest⟩ := List.getLast?_eq_some_iff.1 h
  have hasc := m.ascending
  rw [hrest, List.pairwise_append] at hasc
  rw [hrest]
  refine ⟨List.mem_append_right _ (.head _), fun a ha => ?_⟩
  rcases List.mem_append.1 ha with hearlier | hlast
  · exact .inr (hasc.2.2 a hearlier e (.head _))
  · exact .inl (List.mem_singleton.1 hlast)

/-! ## Entries and `get?` -/

section Entries

variable [Std.LawfulEqOrd κ]

theorem keys_nodup (m : SortedMap κ β) : m.keys.Nodup := by
  refine List.pairwise_map.2 (m.ascending.imp fun {a b} hlt heq => ?_)
  have hself : compare b.1 b.1 = .eq := Std.ReflCmp.compare_self
  rw [heq, hself] at hlt
  cases hlt

theorem entry_unique {m : SortedMap κ β} {a b : κ × β} (ha : a ∈ m.toList) (hb : b ∈ m.toList)
    (hkey : a.1 = b.1) : a = b :=
  List.inj_on_of_nodup_map m.keys_nodup ha hb hkey

theorem get?_eq_some_iff {m : SortedMap κ β} {k : κ} {v : β} :
    m.get? k = some v ↔ (k, v) ∈ m.toList := by
  unfold get?
  rw [Option.map_eq_some_iff]
  constructor
  · intro ⟨⟨j, w⟩, hfound, hval⟩
    subst hval
    have hkey : j = k := by
      have hcmp := List.find?_some hfound
      simpa using hcmp
    exact hkey ▸ List.mem_of_find?_eq_some hfound
  · intro hmem
    have hsome : (m.toList.find? fun e => compare e.1 k == .eq).isSome :=
      List.find?_isSome.2 ⟨(k, v), hmem, by simp⟩
    obtain ⟨e, he⟩ := Option.isSome_iff_exists.1 hsome
    refine ⟨e, he, ?_⟩
    have hkey : e.1 = k := by
      have hcmp := List.find?_some he
      simpa using hcmp
    rw [entry_unique (List.mem_of_find?_eq_some he) hmem hkey]

theorem get?_filter (m : SortedMap κ β) (f : κ → Bool) (k : κ) :
    (m.filter fun e => f e.1).get? k = if f k then m.get? k else none := by
  ext v
  have hfilter : (m.filter fun e => f e.1).get? k = some v ↔ m.get? k = some v ∧ f k = true := by
    rw [get?_eq_some_iff, get?_eq_some_iff]
    exact List.mem_filter
  rw [hfilter]
  cases f k <;> simp

theorem contains_iff {m : SortedMap κ β} {k : κ} :
    m.contains k = true ↔ ∃ v, (k, v) ∈ m.toList := by
  simp only [contains, Option.isSome_iff_exists, get?_eq_some_iff]

theorem mem_keys_iff {m : SortedMap κ β} {k : κ} : k ∈ m.keys ↔ m.contains k = true := by
  rw [contains_iff, keys, List.mem_map]
  constructor
  · intro ⟨e, he, hkey⟩
    exact ⟨e.2, hkey ▸ he⟩
  · intro ⟨v, hv⟩
    exact ⟨(k, v), hv, rfl⟩

theorem mem_erase {m : SortedMap κ β} {k : κ} {e : κ × β} :
    e ∈ (m.erase k).toList ↔ e ∈ m.toList ∧ e.1 ≠ k := by
  simp [erase, filter]

theorem toList_nodup (m : SortedMap κ β) : m.toList.Nodup := m.keys_nodup.of_map

theorem perm_of_mem {m : SortedMap κ β} {e : κ × β} (h : e ∈ m.toList) :
    m.toList.Perm (e :: (m.erase e.1).toList) := by
  rw [List.perm_ext_iff_of_nodup (toList_nodup _)]
  · intro a
    rw [List.mem_cons, mem_erase]
    constructor
    · intro ha
      by_cases hkey : a.1 = e.1
      · exact .inl (entry_unique ha h hkey)
      · exact .inr ⟨ha, hkey⟩
    · intro ha
      rcases ha with rfl | ⟨ha, -⟩
      · exact h
      · exact ha
  · refine List.nodup_cons.2 ⟨fun hmem => ?_, toList_nodup _⟩
    exact (mem_erase.1 hmem).2 rfl

theorem erase_of_absent {m : SortedMap κ β} {k : κ} (h : m.contains k = false) :
    m.erase k = m := by
  apply ext
  show m.toList.filter _ = m.toList
  rw [List.filter_eq_self]
  intro e he
  have hne : e.1 ≠ k := by
    intro heq
    rw [contains_iff.2 ⟨e.2, heq ▸ he⟩] at h
    cases h
  simpa using hne

end Entries

/-! ## Insertion and removal -/

section Ordered

variable [Std.TransOrd κ] [Std.LawfulEqOrd κ]

theorem mem_insert [DecidableEq κ] {m : SortedMap κ β} {k : κ} {v : β} {e : κ × β} :
    e ∈ (m.insert k v).toList ↔ e = (k, v) ∨ e.1 ≠ k ∧ e ∈ m.toList := by
  obtain ⟨j, w⟩ := e
  rw [← get?_eq_some_iff, get?_insert, ← get?_eq_some_iff]
  by_cases h : j = k
  · simp [h, eq_comm]
  · simp [h]

theorem perm_insert [DecidableEq κ] (m : SortedMap κ β) (k : κ) (v : β) :
    (m.insert k v).toList.Perm ((k, v) :: (m.erase k).toList) := by
  rw [List.perm_ext_iff_of_nodup (toList_nodup _)]
  · intro e
    rw [mem_insert, List.mem_cons, mem_erase, and_comm (a := e.1 ≠ k)]
  · refine List.nodup_cons.2 ⟨fun hmem => ?_, toList_nodup _⟩
    exact (mem_erase.1 hmem).2 rfl

theorem size_insert [DecidableEq κ] (m : SortedMap κ β) (k : κ) (v : β) :
    (m.insert k v).size = m.size + if m.contains k then 0 else 1 := by
  have hsize : (m.insert k v).size = (m.erase k).size + 1 := (m.perm_insert k v).length_eq
  rw [hsize]
  cases hk : m.contains k with
  | true =>
    obtain ⟨w, hw⟩ := contains_iff.1 hk
    exact (perm_of_mem hw).length_eq.symm
  | false =>
    rw [erase_of_absent hk]
    rfl

theorem ofList_concat (entries : List (κ × β)) (e : κ × β) :
    ofList (entries ++ [e]) = (ofList entries).insert e.1 e.2 := by
  unfold ofList
  rw [List.foldl_append]
  rfl

theorem erase_first {m : SortedMap κ β} {e : κ × β} (h : m.first? = some e) :
    m.toList = e :: (m.erase e.1).toList := by
  obtain ⟨rest, hrest⟩ := List.head?_eq_some_iff.1 h
  have hasc := m.ascending
  rw [hrest, List.pairwise_cons] at hasc
  have hkeep : rest.filter (fun a => compare a.1 e.1 != .eq) = rest := by
    rw [List.filter_eq_self]
    intro a ha
    have hgt := Std.OrientedCmp.gt_iff_lt.2 (hasc.1 a ha)
    simp [hgt]
  show m.toList = e :: m.toList.filter (fun a => compare a.1 e.1 != .eq)
  rw [hrest, List.filter_cons_of_neg (by simp), hkeep]

end Ordered

/-! ## Other keys -/

theorem insertEntry_map [Std.TransOrd κ] [Std.LawfulEqOrd κ] {f : κ → κ} (g : β → β) {k : κ}
    {l : List (κ × β)} (hk : ∀ e ∈ l, compare (f e.1) (f k) = compare e.1 k) (v : β) :
    insertEntry (f k) (g v) (l.map fun e => (f e.1, g e.2)) =
      (insertEntry k v l).map fun e => (f e.1, g e.2) := by
  induction l with
  | nil => rfl
  | cons e rest ih =>
    obtain ⟨he, hrest⟩ := List.forall_mem_cons.1 hk
    have hswap : compare (f k) (f e.1) = compare k e.1 := by
      calc compare (f k) (f e.1)
        _ = (compare (f e.1) (f k)).swap := Std.OrientedCmp.eq_swap
        _ = (compare e.1 k).swap := by rw [he]
        _ = compare k e.1 := Std.OrientedCmp.eq_swap.symm
    rw [List.map_cons]
    unfold insertEntry
    dsimp only
    rw [hswap]
    cases compare k e.1
    case lt => rfl
    case eq => rfl
    case gt => exact congrArg _ (ih hrest)

/-- `m'` has the entries of `m` under other keys, and `g` tells what becomes of their values. -/
def Rekeyed (f : κ → κ) (g : β → β) (m m' : SortedMap κ β) : Prop :=
  m'.toList = m.toList.map fun e => (f e.1, g e.2)

namespace Rekeyed

variable {f : κ → κ} {g : β → β} {m m' : SortedMap κ β} {k : κ}

theorem empty : Rekeyed f g (empty : SortedMap κ β) .empty := rfl

theorem size_eq (h : Rekeyed f g m m') : m'.size = m.size := by
  unfold size
  rw [h, List.length_map]

theorem first?_eq (h : Rekeyed f g m m') : m'.first? = m.first?.map fun e => (f e.1, g e.2) := by
  unfold first?
  rw [h, List.head?_map]

theorem filter {p p' : κ × β → Bool} (h : Rekeyed f g m m')
    (hp : ∀ e ∈ m.toList, p' (f e.1, g e.2) = p e) : Rekeyed f g (m.filter p) (m'.filter p') := by
  show m'.toList.filter p' = (m.toList.filter p).map _
  rw [h, List.filter_map]
  exact congrArg _ (List.filter_congr hp)

section Order

-- The new keys stand to the new key of `k` as the old ones to `k`.
variable (h : Rekeyed f g m m') (hk : ∀ e ∈ m.toList, compare (f e.1) (f k) = compare e.1 k)

include h hk

theorem get?_eq : m'.get? (f k) = (m.get? k).map g := by
  unfold get?
  rw [h, List.find?_map, Option.map_map, Option.map_map]
  have hfind : m.toList.find? ((fun e : κ × β => compare e.1 (f k) == .eq) ∘
      fun e => (f e.1, g e.2)) = m.toList.find? fun e => compare e.1 k == .eq := by
    refine List.find?_congr fun e he => ?_
    show (compare (f e.1) (f k) == .eq) = _
    rw [hk e he]
  rw [hfind]
  rfl

theorem erase : Rekeyed f g (m.erase k) (m'.erase (f k)) :=
  h.filter fun e he => congrArg (· != .eq) (hk e he)

theorem below : Rekeyed f g (m.below k) (m'.below (f k)) :=
  h.filter fun e he => congrArg (· == .lt) (hk e he)

theorem above : Rekeyed f g (m.above k) (m'.above (f k)) :=
  h.filter fun e he => congrArg (· != .lt) (hk e he)

theorem insert [Std.TransOrd κ] [Std.LawfulEqOrd κ] (v : β) :
    Rekeyed f g (m.insert k v) (m'.insert (f k) (g v)) := by
  show insertEntry (f k) (g v) m'.toList = (insertEntry k v m.toList).map _
  rw [h]
  exact insertEntry_map g hk v

end Order

end Rekeyed

end PulseJoin.SortedMap
