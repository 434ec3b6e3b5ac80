import PulseJoin.Proofs.Schedule.Gap
import PulseJoin.Proofs.Schedule.Set
import PulseJoin.Proofs.Schedule.Shift
import PulseJoin.Proofs.SortedMap

/-!
# The views of a schedule set

A set is asked for the schedule of a name, for the channels expected on a pulse, and for their
number.  The answers agree (`ScheduleSet.views_agree`), and an index of the names would find the
same schedules, since no name stands in it twice.
-/

namespace PulseJoin

namespace ScheduleSet

variable {set : ScheduleSet} {schedules : List Schedule} {name : String} {p : PulseId}

/-! ## The channels of a pulse -/

theorem toList_of_ofList (h : ofList schedules = .ok set) : set.toList = schedules := by
  unfold ofList at h
  split at h
  · cases h
  · cases h
    rfl

theorem mem_expectedChannels_iff_get? : name ∈ set.expectedChannels p ↔
    ∃ s, set.get? name = some s ∧ s.period.toInt ∣ p.toInt - s.phase.toInt := by
  simp only [mem_expectedChannels, get?_eq_some_iff, Schedule.expects_iff]
  constructor
  · rintro ⟨s, hs, hdivides, hname⟩
    exact ⟨s, ⟨hs, hname⟩, hdivides⟩
  · rintro ⟨s, ⟨hs, hname⟩, hdivides⟩
    exact ⟨s, hs, hdivides, hname⟩

theorem expectedChannels_sublist (set : ScheduleSet) (p : PulseId) :
    (set.expectedChannels p).Sublist (set.toList.map (·.name)) :=
  List.filter_sublist.map _

theorem expectedChannels_of_moved {K : Int} {q : PulseId}
    (hK : ∀ s ∈ set.toList, s.period.toInt ∣ K) (h : PulseId.Moved K p q) :
    set.expectedChannels q = set.expectedChannels p := by
  have hfilter : set.toList.filter (·.expects q) = set.toList.filter (·.expects p) :=
    List.filter_congr fun s hs => Schedule.expects_of_moved (hK s hs) h
  unfold expectedChannels
  rw [hfilter]

end ScheduleSet

theorem Schedule.mapM_expects? {schedules : List Schedule} (h : ∀ s ∈ schedules, s.period ≠ 0)
    (p : PulseId) : (schedules.mapM fun s : Schedule => s.expects? p) =
      some (schedules.map (·.expects p)) := by
  induction schedules with
  | nil => rfl
  | cons s rest ih =>
    obtain ⟨hs, hrest⟩ := List.forall_mem_cons.1 h
    rw [List.mapM_cons, expects?_of_period_ne_zero hs, ih hrest]
    rfl

theorem Schedule.expectedCount?_eq {schedules : List Schedule}
    (h : ∀ s ∈ schedules, s.period ≠ 0) (p : PulseId) :
    expectedCount? schedules p = some (expectedCount schedules p) := by
  unfold expectedCount? expectedCount
  rw [mapM_expects? h, Option.map_some, List.count_eq_countP, List.countP_map]
  refine congrArg some (List.countP_congr fun s _ => ?_)
  simp

namespace ScheduleSet

variable {set : ScheduleSet} {schedules : List Schedule}

/-- The views of an accepted list agree.  The schedule of a name is the only one of that name in the
list, and the one an index of the names finds.  The channels expected on a pulse are, in the order
of the list and without repetition, those whose period divides the distance of the pulse from their
phase; they are as many as are counted, in the set and in the list.  A pulse has the channels of any
other that is a multiple of all periods away. -/
theorem views_agree (h : ofList schedules = .ok set) (p : PulseId) :
    set.toList = schedules ∧
    (∀ name,
      (∀ s, set.get? name = some s ↔ s ∈ schedules ∧ s.name = name) ∧
      (∀ s ∈ schedules, s.name = name → ∀ r ∈ schedules, r.name = name → s = r) ∧
      (set.get? name = none ↔ ∀ s ∈ schedules, s.name ≠ name) ∧
      (set.positions.get? name).bind (schedules[·]?) = set.get? name ∧
      (name ∈ set.expectedChannels p ↔
        ∃ s, set.get? name = some s ∧ s.period.toInt ∣ p.toInt - s.phase.toInt)) ∧
    (set.expectedChannels p).Nodup ∧
    (set.expectedChannels p).Sublist (schedules.map (·.name)) ∧
    set.expectedCount p = (set.expectedChannels p).length ∧
    Schedule.expectedCount? schedules p = some (set.expectedCount p) ∧
    ∀ (K : Int) (q : PulseId), (∀ s ∈ schedules, s.period.toInt ∣ K) →
      q.toInt = p.toInt + K → set.expectedChannels q = set.expectedChannels p := by
  obtain rfl := toList_of_ofList h
  refine ⟨rfl, fun name => ⟨fun s => get?_eq_some_iff, ?_, get?_eq_none_iff,
    set.positions_get?_eq name, mem_expectedChannels_iff_get?⟩, set.expectedChannels_nodup p,
    set.expectedChannels_sublist p, (set.length_expectedChannels p).symm, ?_, ?_⟩
  · rintro s hs rfl r hr hname
    exact (List.inj_on_of_nodup_map set.names_nodup hr hs hname).symm
  · exact Schedule.expectedCount?_eq (fun s hs => set.period_ne_zero hs) p
  · intro K q hK hq
    exact expectedChannels_of_moved hK hq

/-- Three channels, one of which publishes on every fourth pulse from the third on.  Two pulses near
the ends of the range are a multiple of all periods apart. -/
theorem views_agree_far_ends :
    let schedules : List Schedule := [⟨"c", 4, 3⟩, ⟨"a", 1, 0⟩, ⟨"b", 10, 0⟩]
    let p : PulseId := -9223372036854775801
    ∃ set, ofList schedules = .ok set ∧
      set.get? "b" = some ⟨"b", 10, 0⟩ ∧ set.get? "d" = none ∧
      set.expectedChannels p = ["c", "a"] ∧ "b" ∉ set.expectedChannels p ∧
      Schedule.expectedCount? schedules p = some 2 ∧
      set.expectedChannels 9223372036854775799 = ["c", "a"] := by
  intro schedules p
  have h : ofList schedules = .ok _ := rfl
  obtain ⟨-, hnames, -, -, -, hcount, hshift⟩ := views_agree h p
  obtain ⟨hfound, -, -, -, hexpected⟩ := hnames "b"
  have hb := (hfound ⟨"b", 10, 0⟩).2 ⟨by simp [schedules], rfl⟩
  refine ⟨_, h, hb, (hnames "d").2.2.1.2 (by decide), rfl, ?_, hcount, ?_⟩
  · rw [hexpected]
    rintro ⟨s, hs, hdivides⟩
    cases hb.symm.trans hs
    exact absurd hdivides (by decide)
  · exact hshift 18446744073709551600 9223372036854775799 (by decide) (by decide)

end ScheduleSet

end PulseJoin
