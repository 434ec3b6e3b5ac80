/-!
# Sums of counts

Counts are numbers of 64 bits.  A sum of counts that is out of their range is no count:
`Count.add?_eq_some_iff` says that no other sum is refused, and none comes out wrong.
-/

namespace PulseJoin.Count

def add? (a b : UInt64) : Option UInt64 :=
  if a.toNat + b.toNat < UInt64.size then some (a + b) else none

theorem toNat_add_of_lt {a b : UInt64} (h : a.toNat + b.toNat < UInt64.size) :
    (a + b).toNat = a.toNat + b.toNat := by
  rw [UInt64.toNat_add]
  exact Nat.mod_eq_of_lt h

theorem add?_eq_some_iff {a b c : UInt64} : add? a b = some c ↔ a.toNat + b.toNat = c.toNat := by
  rw [add?]
  split
  · next inRange => rw [Option.some_inj, ← UInt64.toNat_inj, toNat_add_of_lt inRange]
  · next outOfRange =>
    refine ⟨nofun, fun sum => absurd ?_ outOfRange⟩
    exact sum ▸ c.toNat_lt_size

theorem add?_eq_none_iff {a b : UInt64} : add? a b = none ↔ UInt64.size ≤ a.toNat + b.toNat := by
  simp [add?]

end PulseJoin.Count
