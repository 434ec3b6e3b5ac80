import PulseJoin.Config.Source
import PulseJoin.Proofs.Schedule.Fault
import PulseJoin.Synchronizer.Session

/-!
# Which configurations are accepted

A configuration is accepted exactly if it obeys the rules of `Config.Obeys`.  A session can be
created for it if, besides, its queue is not larger than any memory.
-/

namespace PulseJoin

universe u

namespace Config

structure Obeys (c : Config) : Prop where
  channels : c.channels ≠ []
  names : ∀ s ∈ c.channels, s.name ≠ ""
  schedules : Schedule.Ruled c.channels
  buffer : 1 ≤ c.maxBuffered
  age : ∀ ms, c.maxAge? = some ms → 1 ≤ ms
  queue : ∀ capacity, c.delivery = .push capacity → 1 ≤ capacity

theorem scheduleViolations_eq_nil_iff {i : Nat} {s : Schedule} :
    scheduleViolations i s = [] ↔ s.name ≠ "" ∧ 1 ≤ s.period ∧ 0 ≤ s.phase := by
  simp [scheduleViolations]

theorem one_le_iff {n : UInt64} : 1 ≤ n ↔ n ≠ 0 := by
  rw [UInt64.le_iff_toNat_le, ne_eq, ← UInt64.toNat_inj]
  show 1 ≤ n.toNat ↔ ¬ n.toNat = 0
  omega

theorem violations_eq_nil_iff {c : Config} :
    c.violations = [] ↔ (∀ s ∈ c.channels, s.name ≠ "" ∧ 1 ≤ s.period ∧ 0 ≤ s.phase) ∧
      1 ≤ c.maxBuffered ∧ ∀ ms, c.maxAge? = some ms → 1 ≤ ms := by
  unfold violations
  rw [List.append_eq_nil_iff, List.append_eq_nil_iff, and_assoc]
  refine and_congr ?_ (and_congr ?_ ?_)
  -- The checks of an entry are the same wherever it stands.
  · simp only [List.flatMap_eq_nil_iff, scheduleViolations_eq_nil_iff]
    constructor
    · intro h s hs
      obtain ⟨i, hi, rfl⟩ := List.mem_iff_getElem.1 hs
      exact h (c.channels[i], i) (List.mem_zipIdx_iff_getElem?.2 (List.getElem?_eq_getElem hi))
    · intro h e he
      exact h e.1 (List.fst_mem_of_mem_zipIdx he)
  · simp [one_le_iff]
  · cases c.maxAge? <;> simp [one_le_iff]

theorem fault?_eq_none_iff {c : Config} : c.fault? = none ↔ c.Obeys := by
  have hfault : c.fault? = none ↔ c.channels ≠ [] ∧ c.violations = [] ∧
      Schedule.fault? c.channels = none ∧ c.delivery ≠ .push 0 := by
    unfold fault?
    cases c.channels <;> cases c.violations <;> cases Schedule.fault? _ <;> simp
  rw [hfault, violations_eq_nil_iff, Schedule.fault?_eq_none_iff_ruled]
  constructor
  · rintro ⟨hchannels, ⟨hown, hbuffer, hage⟩, hruled, hqueue⟩
    refine ⟨hchannels, fun s hs => (hown s hs).1, hruled, hbuffer, hage, ?_⟩
    intro capacity hcapacity
    rw [one_le_iff]
    rintro rfl
    exact hqueue hcapacity
  · intro h
    refine ⟨h.channels, ⟨fun s hs => ?_, h.buffer, h.age⟩, h.schedules, ?_⟩
    · obtain ⟨hperiod, hphase, -⟩ := h.schedules.range s hs
      exact ⟨h.names s hs, hperiod, hphase⟩
    · intro hqueue
      exact one_le_iff.1 (h.queue 0 hqueue) rfl

theorem Fault.field_schedule {fault : Schedule.Fault} {part : String}
    (h : "]." ++ flawField fault.flaw = part) :
    (Fault.schedule fault).field = "channels[" ++ toString fault.index ++ part := by
  rw [← h]
  exact String.append_assoc

end Config

/-! ## Creation -/

theorem ScheduleSet.ofList_of_none {schedules : List Schedule}
    (h : Schedule.fault? schedules = none) : ofList schedules = .ok ⟨schedules, h⟩ := by
  unfold ofList
  split
  next fault hfault => cases h.symm.trans hfault
  next => rfl

theorem ScheduleSet.ofList_of_some {schedules : List Schedule} {fault : Schedule.Fault}
    (h : Schedule.fault? schedules = some fault) : ofList schedules = .error fault := by
  unfold ofList
  split
  next fault' hfault =>
    cases h.symm.trans hfault
    rfl
  next hfault => cases h.symm.trans hfault

theorem Session.exists_create_iff {α : Type u} {c : Config} {clock : UInt64} :
    (∃ t : Session α, create c clock = .ok t) ↔ c.fault? = none ∧ c.delivery.fits = true := by
  unfold create Synchronizer.create
  constructor
  · rintro ⟨t, ht⟩
    split at ht
    · cases ht
    next hfault =>
      split at ht
      next hfits => exact ⟨hfault, hfits⟩
      · cases ht
  · rintro ⟨hfault, hfits⟩
    split
    next fault hsome => cases hfault.symm.trans hsome
    · rw [if_pos hfits]
      exact ⟨_, rfl⟩

namespace Config

/-- A configuration is accepted exactly if it obeys the rules, and so is what is loaded.  A session
is created for it if its queue is not larger than any memory, and else for no configuration.  A list
of schedules is accepted exactly if it obeys its rules; otherwise the fault is in the first entry
behind which the list does not, in its period before its phase and in its phase before its name. -/
theorem accepted_exactly {α : Type u} (c : Config) (clock : UInt64) (schedules : List Schedule) :
    (c.fault? = none ↔ c.Obeys) ∧
    ((∃ t : Session α, Session.create c clock = .ok t) ↔
      c.fault? = none ∧ c.delivery.fits = true) ∧
    (∀ format text, load format text = .ok c → c.Obeys) ∧
    ((Schedule.Ruled schedules ∧ Schedule.fault? schedules = none ∧
        ∃ set, ScheduleSet.ofList schedules = .ok set ∧ set.toList = schedules) ∨
      ∃ fault before s after, Schedule.fault? schedules = some fault ∧
        ScheduleSet.ofList schedules = .error fault ∧
        schedules = before ++ s :: after ∧ Schedule.Ruled before ∧
        (s.period < 1 ∧ (Fault.schedule fault).field = s!"channels[{before.length}].period" ∨
          1 ≤ s.period ∧ (s.phase < 0 ∨ s.period ≤ s.phase) ∧
            (Fault.schedule fault).field = s!"channels[{before.length}].phase" ∨
          s.InRange ∧ (∃ r ∈ before, r.name = s.name) ∧
            (Fault.schedule fault).field = s!"channels[{before.length}].name")) := by
  refine ⟨fault?_eq_none_iff, Session.exists_create_iff, ?_, ?_⟩
  · intro format text h
    exact fault?_eq_none_iff.1 (fault?_of_load h)
  · cases hfault : Schedule.fault? schedules with
    | none =>
      exact .inl ⟨Schedule.fault?_eq_none_iff_ruled.1 hfault, rfl, _,
        ScheduleSet.ofList_of_none hfault, rfl⟩
    | some fault =>
      obtain ⟨i, flaw⟩ := fault
      obtain ⟨before, s, after, hsplit, rfl, hruled, hbreaks⟩ :=
        Schedule.fault?_eq_some_iff.1 hfault
      refine .inr ⟨_, before, s, after, rfl, ScheduleSet.ofList_of_some hfault, hsplit, hruled, ?_⟩
      cases hbreaks with
      | period hperiod => exact .inl ⟨hperiod, Fault.field_schedule rfl⟩
      | phase hperiod hphase => exact .inr (.inl ⟨hperiod, hphase, Fault.field_schedule rfl⟩)
      | name hrange hname => exact .inr (.inr ⟨hrange, hname, Fault.field_schedule rfl⟩)

/-- A queue of the greatest capacity is within the rules, but not within the memory. -/
theorem accepted_not_created :
    let c : Config := { channels := [⟨"A", 1, 0⟩], delivery := .push 18446744073709551615 }
    c.fault? = none ∧ ¬ ∃ t : Session Unit, Session.create c 0 = .ok t := by
  intro c
  have hfits : c.delivery.fits = false := rfl
  refine ⟨rfl, ?_⟩
  rw [Session.exists_create_iff, hfits]
  simp

end Config

end PulseJoin
