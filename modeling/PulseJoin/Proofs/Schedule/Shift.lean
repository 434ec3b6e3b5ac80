import PulseJoin.Proofs.Watermarks
import PulseJoin.Schedule.Gap
import PulseJoin.Schedule.Set

/-!
# Shifted pulse ids

A schedule is periodic, so no question about it tells two pulses apart that are a whole number of
periods away from each other.  This holds for negative ids as well: remainders and quotients are
Euclidean.
-/

namespace PulseJoin

namespace PulseId

/-- The id `K` pulses on, as far as 64 bits go. -/
def shift (K : Int) (p : PulseId) : PulseId := Int64.ofInt (p.toInt + K)

/-- Whether `p` and the id `K` pulses on are both ids, and neither is the least one. -/
def Fits (K : Int) (p : PulseId) : Prop :=
  Int64.minValue.toInt < p.toInt ∧ Int64.minValue.toInt < p.toInt + K ∧
    p.toInt + K ≤ Int64.maxValue.toInt

instance (K : Int) (p : PulseId) : Decidable (p.Fits K) := inferInstanceAs (Decidable (_ ∧ _ ∧ _))

/-- Whether `q` is exactly `K` pulses on from `p`. -/
def Moved (K : Int) (p q : PulseId) : Prop := q.toInt = p.toInt + K

variable {K : Int} {p p' q q' : PulseId}

theorem Fits.moved (h : Fits K p) : Moved K p (p.shift K) :=
  Int64.toInt_ofInt_of_le (by have := Int64.toInt_minValue; have := h.2.1; omega)
    (by have := Int64.toInt_maxValue; have := h.2.2; omega)

theorem Fits.min_lt (h : Fits K p) : Int64.minValue < p := Int64.lt_iff_toInt_lt.2 h.1

theorem Fits.min_lt_shift (h : Fits K p) : Int64.minValue < p.shift K := by
  rw [Int64.lt_iff_toInt_lt, h.moved]
  exact h.2.1

namespace Moved

theorem shift_eq (h : Moved K p p') : p.shift K = p' := by
  unfold shift
  rw [← h, Int64.ofInt_toInt]

theorem lt_iff (hp : Moved K p p') (hq : Moved K q q') : p' < q' ↔ p < q := by
  rw [Int64.lt_iff_toInt_lt, Int64.lt_iff_toInt_lt, hp, hq]
  omega

theorem le_iff (hp : Moved K p p') (hq : Moved K q q') : p' ≤ q' ↔ p ≤ q := by
  rw [Int64.le_iff_toInt_le, Int64.le_iff_toInt_le, hp, hq]
  omega

theorem eq_iff (hp : Moved K p p') (hq : Moved K q q') : p' = q' ↔ p = q := by
  rw [← Int64.toInt_inj, ← Int64.toInt_inj, hp, hq]
  omega

theorem compare_eq (hp : Moved K p p') (hq : Moved K q q') : compare p' q' = compare p q := by
  show (if p' < q' then Ordering.lt else if p' = q' then .eq else .gt) =
    if p < q then .lt else if p = q then .eq else .gt
  simp only [hp.lt_iff hq, hp.eq_iff hq]

theorem min (hp : Moved K p p') (hq : Moved K q q') : Moved K (min p q) (min p' q') := by
  rw [min_eq, min_eq]
  simp only [hp.le_iff hq]
  split
  · exact hp
  · exact hq

theorem max (hp : Moved K p p') (hq : Moved K q q') : Moved K (max p q) (max p' q') := by
  rw [max_eq, max_eq]
  simp only [hp.le_iff hq]
  split
  · exact hq
  · exact hp

theorem pred (h : Moved K p p') (hp : Int64.minValue < p) (hp' : Int64.minValue < p') :
    Moved K p.pred p'.pred := by
  unfold Moved at h ⊢
  rw [toInt_pred hp, toInt_pred hp', h]
  omega

end Moved

theorem Fits.compare_shift (hp : Fits K p) (hq : Fits K q) :
    compare (p.shift K) (q.shift K) = compare p q :=
  hp.moved.compare_eq hq.moved

end PulseId

/-! ## Schedules -/

namespace Schedule

variable {K : Int} {p p' q q' : PulseId}

section One

variable {s : Schedule} (hK : s.period.toInt ∣ K)

include hK

theorem expects_of_moved (h : PulseId.Moved K p p') : s.expects p' = s.expects p := by
  obtain ⟨n, rfl⟩ := hK
  unfold expects
  rw [h, show p.toInt + s.period.toInt * n - s.phase.toInt =
    p.toInt - s.phase.toInt + s.period.toInt * n by omega, Int.add_mul_emod_self_left]

theorem hops_of_moved (h : PulseId.Moved K p p') : s.hops p' = s.hops p + K / s.period.toInt := by
  unfold hops
  rw [h, show p.toInt + K + s.period.toInt - s.phase.toInt =
    p.toInt + s.period.toInt - s.phase.toInt + K by omega, Int.add_ediv_of_dvd_right hK]

theorem expectsWithin_of_moved (hp : PulseId.Moved K p p') (hq : PulseId.Moved K q q')
    (gap : Int) : s.expectsWithin p' q' gap = s.expectsWithin p q gap := by
  have hpassed : s.hops q' - s.hops p' = s.hops q - s.hops p := by
    rw [hops_of_moved hK hp, hops_of_moved hK hq]
    omega
  unfold expectsWithin
  rw [hpassed, expects_of_moved hK hp, expects_of_moved hK hq]

end One

variable {schedules : List Schedule} (hK : ∀ s ∈ schedules, s.period.toInt ∣ K)

include hK

theorem expectedCount_of_moved (h : PulseId.Moved K p p') :
    expectedCount schedules p' = expectedCount schedules p := by
  refine List.countP_congr fun s hs => ?_
  rw [expects_of_moved (hK s hs) h]

theorem pulseMissing_of_moved (hp : PulseId.Moved K p p') (hq : PulseId.Moved K q q') :
    pulseMissing schedules p' q' = pulseMissing schedules p q := by
  have hgap : q'.toInt - p'.toInt = q.toInt - p.toInt := by
    rw [hp, hq]
    omega
  have hany : schedules.any (·.expectsWithin p' q' (q.toInt - p.toInt)) =
      schedules.any (·.expectsWithin p q (q.toInt - p.toInt)) := by
    rw [Bool.eq_iff_iff, List.any_eq_true, List.any_eq_true]
    refine exists_congr fun s => and_congr_right fun hs => ?_
    rw [expectsWithin_of_moved (hK s hs) hp hq]
  unfold pulseMissing
  rw [hgap]
  dsimp only
  rw [hany]

end Schedule

end PulseJoin
