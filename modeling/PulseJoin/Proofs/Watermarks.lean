import Mathlib
import PulseJoin.Watermarks

/-!
# Order of pulse ids, and the watermarks

The least id is the boundary's first position, so "nothing is resolved" is the same as "the boundary
is the least id".  Every other id has an exact predecessor.  Ids in a row (`stretch`) are integers in
a row as long as there is room for them.
-/

namespace PulseJoin

namespace PulseId

theorem minValue_le (p : PulseId) : Int64.minValue ≤ p := by
  rw [Int64.le_iff_toInt_le]
  exact p.minValue_le_toInt

theorem le_maxValue (p : PulseId) : p ≤ Int64.maxValue := by
  rw [Int64.le_iff_toInt_le]
  exact p.toInt_le

theorem min_eq (p q : PulseId) : min p q = if p ≤ q then p else q := rfl

theorem max_eq (p q : PulseId) : max p q = if p ≤ q then q else p := rfl

theorem toInt_pred {p : PulseId} (h : Int64.minValue < p) : p.pred.toInt = p.toInt - 1 := by
  rw [Int64.lt_iff_toInt_lt] at h
  have hone : (1 : Int64).toInt = 1 := by decide
  have hhigh := p.toInt_le
  unfold pred saturatingSub clamp
  rw [hone, if_neg (by omega), if_neg (by omega)]
  exact Int64.toInt_ofInt_of_le (by have := Int64.toInt_minValue; omega)
    (by have := Int64.toInt_maxValue; omega)

theorem le_pred_iff {p q : PulseId} (h : Int64.minValue < p) : q ≤ p.pred ↔ q < p := by
  rw [Int64.le_iff_toInt_le, Int64.lt_iff_toInt_lt, toInt_pred h]
  omega

theorem pred_lt {p : PulseId} (h : Int64.minValue < p) : p.pred < p :=
  (le_pred_iff h).1 (Int64.le_refl _)

theorem le_of_head? {ids : List PulseId} {p q : PulseId} (h : ids.Pairwise (· < ·))
    (hp : ids.head? = some p) (hq : q ∈ ids) : p ≤ q := by
  obtain ⟨rest, rfl⟩ := List.head?_eq_some_iff.1 hp
  rcases List.mem_cons.1 hq with rfl | hlater
  · exact Int64.le_refl _
  · exact Int64.le_of_lt ((List.pairwise_cons.1 h).1 q hlater)

theorem card_lt {ids : Finset PulseId} (h : ∀ p ∈ ids, Int64.minValue < p) :
    ids.card < UInt64.size := by
  have hrange : ∀ p ∈ ids, p.toInt ∈ Finset.Ioc Int64.minValue.toInt Int64.maxValue.toInt := by
    intro p hp
    exact Finset.mem_Ioc.2 ⟨Int64.lt_iff_toInt_lt.1 (h p hp), p.toInt_le⟩
  have hinj : Set.InjOn Int64.toInt (ids : Set PulseId) := fun p _ q _ heq => Int64.toInt_inj.1 heq
  have hle := Finset.card_le_card_of_injOn Int64.toInt hrange hinj
  rw [Int.card_Ioc] at hle
  exact Nat.lt_of_le_of_lt hle (by decide)

/-! ## Ids in a row -/

/-- How many ids there are from `first` on. -/
def room (first : PulseId) : Nat := (Int64.maxValue.toInt - first.toInt + 1).toNat

/-- The next `n` ids from `first` on, if there are as many. -/
def stretch (first : PulseId) (n : Nat) : List PulseId :=
  (List.range n).map fun k : Nat => Int64.ofInt (first.toInt + k)

section Stretch

variable {first p : PulseId} {k n : Nat}

theorem lt_room_iff : k < first.room ↔ first.toInt + k ≤ Int64.maxValue.toInt := by
  unfold room
  omega

theorem toInt_ofInt_add (hk : k < first.room) :
    (Int64.ofInt (first.toInt + k)).toInt = first.toInt + k := by
  rw [lt_room_iff] at hk
  have hlow := first.minValue_le_toInt
  have hmin := Int64.toInt_minValue
  have hmax := Int64.toInt_maxValue
  exact Int64.toInt_ofInt_of_le (by omega) (by omega)

theorem mem_stretch (hn : n ≤ first.room) :
    p ∈ first.stretch n ↔ first ≤ p ∧ p.toInt < first.toInt + n := by
  unfold stretch
  rw [List.mem_map, Int64.le_iff_toInt_le]
  constructor
  · intro ⟨k, hk, hp⟩
    rw [List.mem_range] at hk
    rw [← hp, toInt_ofInt_add (Nat.lt_of_lt_of_le hk hn)]
    omega
  · intro ⟨hlow, hhigh⟩
    have hback : first.toInt + ((p.toInt - first.toInt).toNat : Int) = p.toInt := by omega
    refine ⟨(p.toInt - first.toInt).toNat, ?_, ?_⟩
    · rw [List.mem_range]
      omega
    · rw [hback, Int64.ofInt_toInt]

theorem stretch_ascending (hn : n ≤ first.room) : (first.stretch n).Pairwise (· < ·) := by
  unfold stretch
  rw [List.pairwise_map]
  refine List.pairwise_lt_range.imp_of_mem fun {j k} hj hk hlt => ?_
  rw [List.mem_range] at hj hk
  rw [Int64.lt_iff_toInt_lt, toInt_ofInt_add (Nat.lt_of_lt_of_le hj hn),
    toInt_ofInt_add (Nat.lt_of_lt_of_le hk hn)]
  omega

end Stretch

end PulseId

namespace Watermarks

theorem unresolved_iff {w : Watermarks} : w.unresolved = true ↔ w.boundary = Int64.minValue := by
  simp [unresolved]

theorem passed_eq_false_iff {w : Watermarks} {p : PulseId} :
    w.passed p = false ↔ w.boundary < p := by
  simp [passed, Int64.not_le]

theorem boundary?_eq_none_iff {w : Watermarks} :
    w.boundary? = none ↔ w.boundary = Int64.minValue := by
  unfold boundary?
  rw [← unresolved_iff]
  cases w.unresolved <;> simp

theorem boundary?_eq_some_iff {w : Watermarks} {p : PulseId} :
    w.boundary? = some p ↔ w.boundary = p ∧ Int64.minValue < p := by
  unfold boundary?
  split
  next h =>
    rw [unresolved_iff] at h
    constructor
    · nofun
    · intro ⟨hp, hlt⟩
      rw [← hp, h] at hlt
      exact absurd hlt Int64.lt_irrefl
  next h =>
    rw [unresolved_iff] at h
    rw [Option.some_inj]
    constructor
    · intro hp
      subst hp
      have hlow := PulseId.minValue_le w.boundary
      exact ⟨rfl, by grind⟩
    · exact And.left

/-- A pulse is not above the boundary if one that is no lower was resolved, or if nothing was and
the pulse has the least id. -/
theorem le_boundary_iff {w : Watermarks} {p : PulseId} : p ≤ w.boundary ↔
    (∃ b, w.boundary? = some b ∧ p ≤ b) ∨ (w.boundary? = none ∧ p = Int64.minValue) := by
  have hlow := PulseId.minValue_le p
  by_cases hstart : w.boundary = Int64.minValue
  · have hnone : w.boundary? = none := boundary?_eq_none_iff.2 hstart
    rw [hnone, hstart]
    simp only [reduceCtorEq, false_and, exists_false, true_and, false_or]
    exact ⟨fun hle => Int64.le_antisymm hle hlow, fun heq => heq ▸ Int64.le_refl _⟩
  · have hmoved : Int64.minValue < w.boundary := by
      have hmin := PulseId.minValue_le w.boundary
      grind
    have hsome : w.boundary? = some w.boundary := boundary?_eq_some_iff.2 ⟨rfl, hmoved⟩
    rw [hsome]
    simp

end Watermarks

end PulseJoin
