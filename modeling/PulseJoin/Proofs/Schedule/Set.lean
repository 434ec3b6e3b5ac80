import Mathlib
import PulseJoin.Schedule.Set

/-!
# What a faultless list of schedules gives

Every period of a set is positive, and the schedule of a name is unique.  The channels expected on a
pulse are as many as `expectedCount` says.
-/

namespace PulseJoin

namespace ScheduleSet

theorem period_pos (set : ScheduleSet) {s : Schedule} (hs : s ∈ set.toList) :
    0 < s.period.toInt := by
  have hpos := ((Schedule.fault?_eq_none_iff.1 set.faultless).1 s hs).1
  rwa [Int64.lt_iff_toInt_lt] at hpos

theorem period_ne_zero (set : ScheduleSet) {s : Schedule} (hs : s ∈ set.toList) :
    s.period ≠ 0 := by
  intro hzero
  have hpos := set.period_pos hs
  rw [hzero] at hpos
  exact absurd hpos (by decide)

theorem get?_eq_none_iff {set : ScheduleSet} {name : String} :
    set.get? name = none ↔ ∀ r ∈ set.toList, r.name ≠ name := by
  unfold get?
  rw [List.find?_eq_none]
  simp only [beq_iff_eq, ne_eq]

theorem mem_expectedChannels {set : ScheduleSet} {name : String} {p : PulseId} :
    name ∈ set.expectedChannels p ↔ ∃ s ∈ set.toList, s.expects p = true ∧ s.name = name := by
  simp [expectedChannels, and_assoc]

theorem mem_expectedChannels_of_get? {set : ScheduleSet} {name : String} {s : Schedule}
    {p : PulseId} (hs : set.get? name = some s) :
    name ∈ set.expectedChannels p ↔ s.expects p = true := by
  obtain ⟨hmem, hname⟩ := get?_eq_some_iff.1 hs
  rw [mem_expectedChannels]
  constructor
  · intro ⟨r, hr, hp, hrname⟩
    rwa [← List.inj_on_of_nodup_map set.names_nodup hr hmem (hrname.trans hname.symm)]
  · intro hp
    exact ⟨s, hmem, hp, hname⟩

theorem expectedChannels_nodup (set : ScheduleSet) (p : PulseId) :
    (set.expectedChannels p).Nodup :=
  set.names_nodup.sublist (List.filter_sublist.map _)

theorem length_expectedChannels (set : ScheduleSet) (p : PulseId) :
    (set.expectedChannels p).length = set.expectedCount p := by
  simp [expectedChannels, expectedCount, Schedule.expectedCount, List.countP_eq_length_filter]

theorem expectedCount_pos_iff {set : ScheduleSet} {p : PulseId} :
    0 < set.expectedCount p ↔ ∃ s ∈ set.toList, s.expects p = true :=
  List.countP_pos_iff

theorem expectedCount_pos_of_mem {set : ScheduleSet} {name : String} {p : PulseId}
    (h : name ∈ set.expectedChannels p) : 0 < set.expectedCount p := by
  rw [← length_expectedChannels]
  exact List.length_pos_of_mem h

end ScheduleSet

end PulseJoin
