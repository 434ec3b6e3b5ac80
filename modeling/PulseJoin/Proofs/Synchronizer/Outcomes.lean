import PulseJoin.Proofs.Synchronizer.Pass
import PulseJoin.Proofs.Synchronizer.Readings

/-!
# What a message is answered with, and what it changes

The outcome of a message can be read off the channels, the boundary and whether the synchronizer is
closed (`Outcome.Due`).  A refused message leaves the state as it was but for the telemetry: it is
counted once as received and once under its outcome, unless the synchronizer is closed.  A message
that is taken in replaces a value exactly if its pulse was buffered with one of its channel.
-/

namespace PulseJoin

universe u

variable {α : Type u}

namespace ScheduleSet

variable {set : ScheduleSet} {name : String}

theorem exists_iff_of_get? {s : Schedule} (hs : set.get? name = some s) (P : Schedule → Prop) :
    (∃ r ∈ set.toList, r.name = name ∧ P r) ↔ P s := by
  constructor
  · intro ⟨r, hr, hname, hP⟩
    rwa [Option.some_inj.1 (hs.symm.trans (get?_eq_some_iff.2 ⟨hr, hname⟩))]
  · intro hP
    obtain ⟨hmem, hname⟩ := get?_eq_some_iff.1 hs
    exact ⟨s, hmem, hname, hP⟩

end ScheduleSet

namespace Outcome

/-- Which outcome is due to a message, by the channels, the boundary and whether the synchronizer is
closed. -/
def Due (channels : List Schedule) (boundary : PulseId) (closed : Bool) (m : Message α) :
    Outcome → Prop
  | .closed => closed = true
  | .unknownChannel => closed = false ∧ ∀ r ∈ channels, r.name ≠ m.channel
  | .offSchedule => closed = false ∧ ∃ r ∈ channels, r.name = m.channel ∧
      ¬ r.period.toInt ∣ m.pulse.toInt - r.phase.toInt
  | .stale => closed = false ∧ (∃ r ∈ channels, r.name = m.channel ∧
      r.period.toInt ∣ m.pulse.toInt - r.phase.toInt) ∧ m.pulse ≤ boundary
  | .buffered => closed = false ∧ (∃ r ∈ channels, r.name = m.channel ∧
      r.period.toInt ∣ m.pulse.toInt - r.phase.toInt) ∧ boundary < m.pulse

def tally? : Outcome → Option Tally
  | .buffered => some .buffered
  | .stale => some .stale
  | .unknownChannel => some .unknownChannel
  | .offSchedule => some .offSchedule
  | .closed => none

def metric? (o : Outcome) : Option Telemetry.Counter := o.tally?.bind Tally.metric?

end Outcome

namespace Synchronizer

variable {s : Synchronizer α} {now : UInt64} {m : Message α} {acts : List (Act α)}

/-! ## The outcome -/

/-- A message is answered with the outcome that is due. -/
theorem add_eq_iff_due (s : Synchronizer α) (now : UInt64) (m : Message α) (o : Outcome) :
    (s.add now m).1 = o ↔ o.Due s.schedules.toList s.marks.boundary s.closed m := by
  rw [add_eq]
  unfold refusal?
  by_cases hclosed : s.closed = true
  · rw [if_pos hclosed, hclosed]
    cases o <;> simp [Outcome.Due]
  · rw [if_neg hclosed, Bool.eq_false_of_not_eq_true hclosed]
    cases hschedule : s.schedules.get? m.channel with
    | none =>
      have hunknown := ScheduleSet.get?_eq_none_iff.1 hschedule
      have hnone (P : Schedule → Prop) : ¬ ∃ r ∈ s.schedules.toList, r.name = m.channel ∧ P r :=
        fun ⟨r, hr, hname, _⟩ => hunknown r hr hname
      cases o with
      | unknownChannel => exact iff_of_true rfl ⟨rfl, hunknown⟩
      | _ => simp [Outcome.Due, hnone]
    | some schedule =>
      have hknown : ¬ ∀ r ∈ s.schedules.toList, r.name ≠ m.channel := by
        rw [← ScheduleSet.get?_eq_none_iff, hschedule]
        exact nofun
      have hfound := ScheduleSet.exists_iff_of_get? hschedule
      have hpassed : s.marks.passed m.pulse = true ↔ m.pulse ≤ s.marks.boundary :=
        decide_eq_true_iff
      by_cases hexpects : schedule.expects m.pulse = true
      · have hdivides := Schedule.expects_iff.1 hexpects
        by_cases hlate : m.pulse ≤ s.marks.boundary
        · cases o <;> simp [Outcome.Due, hknown, hfound, hexpects, hdivides, hpassed, hlate]
        · have hearly := Int64.not_le.1 hlate
          cases o <;> simp [Outcome.Due, hknown, hfound, hexpects, hdivides, hpassed, hlate, hearly]
      · have hdivides : ¬ _ := fun h => hexpects (Schedule.expects_iff.2 h)
        cases o <;> simp [Outcome.Due, hknown, hfound, hexpects, hdivides]

/-! ## Refused messages -/

/-- From `s` to `s'` a message was refused.  It was counted as received and under its outcome, and
the metrics were told the outcome; nothing else changed. -/
structure Refused (s : Synchronizer α) (o : Outcome) (s' : Synchronizer α) : Prop
    extends Steady s s' where
  counters : ∀ k, s'.counters.get k =
    s.counters.get k + if k = .received ∨ o.tally? = some k then 1 else 0
  metrics : ∀ metric, s'.readings.counter? metric =
    if o.metric? = some metric then some ((s.readings.counter? metric).getD 0 + 1)
    else s.readings.counter? metric
  gauges : s'.readings.gauges = s.readings.gauges
  histograms : s'.readings.histograms = s.readings.histograms

theorem refusal?_counts {o : Outcome} {e : Event} (h : s.refusal? m = some (o, e)) :
    (∀ k, e.adds k = if o.tally? = some k then 1 else 0) ∧
      e.samples = (o.metric?.map (Telemetry.Sample.count · 1)).toList := by
  rcases refusal?_cases h with ⟨rfl, rfl⟩ | ⟨rfl, rfl⟩ | ⟨rfl, schedule, rfl⟩ | ⟨rfl, rfl⟩ <;>
    exact ⟨fun k => by cases k <;> rfl, rfl⟩

theorem adds_received (k : Tally) : Event.received.adds k = if k = .received then 1 else 0 := by
  cases k <;> rfl

theorem refused_add (hrefused : (s.add now m).1 ≠ .buffered) :
    s.Refused (s.add now m).1 (s.add now m).2 := by
  rw [add_eq] at hrefused ⊢
  rcases hrefusal : s.refusal? m with _ | ⟨o, e⟩
  · rw [hrefusal] at hrefused
    exact absurd rfl hrefused
  · obtain ⟨hadds, hsamples⟩ := refusal?_counts hrefusal
    have hreadings : ((s.note .received).note e).readings =
        (o.metric?.map (Telemetry.Sample.count · 1)).toList.foldl .add s.readings := by
      show e.samples.foldl .add s.readings = _
      rw [hsamples]
    constructor
    case toSteady => exact ⟨⟨rfl, rfl, rfl, rfl⟩, rfl, rfl⟩
    case counters =>
      intro k
      show ((s.counters.count .received).count e).get k = _
      rw [Counters.get_count, Counters.get_count, hadds, adds_received]
      by_cases hk : k = .received
      · -- No outcome is counted as the receipt.
        have hother : o.tally? ≠ some k := by
          subst hk
          cases o <;> exact nofun
        rw [if_pos hk, if_neg hother, if_pos (.inl hk)]
        exact UInt64.add_zero _
      · rw [if_neg hk, show UInt64.ofNat 0 = 0 from rfl, UInt64.add_zero]
        simp only [hk, false_or]
        split <;> rfl
    case metrics =>
      intro metric
      rw [hreadings]
      cases hmetric : o.metric? with
      | none => rfl
      | some metric' =>
        show (s.readings.add (.count metric' 1)).counter? metric = _
        rw [Telemetry.Readings.counter?_add_count]
        simp only [Option.some_inj, eq_comm]
    case gauges =>
      rw [hreadings]
      cases o.metric? <;> rfl
    case histograms =>
      rw [hreadings]
      cases o.metric? <;> rfl

/-! ## Messages taken in -/

theorem finding_replaced (s : Synchronizer α) (a : Arrival α) :
    (s.finding a).replaced =
      (s.buffer.get? a.pulse).any fun w => (w.values.get? a.message.channel).isSome := by
  unfold finding PulseBuffer.storing PulseBuffer.entry
  cases s.buffer.get? a.pulse <;> rfl

theorem get_add_of_welcome (hsound : Sound acts s) (hwelcome : s.Welcomes m) (now : UInt64)
    {k : Tally} (hk : k ∉ Tally.ofResolutions) :
    (s.add now m).2.counters.get k = s.counters.get k +
      .ofNat (k.sum ((s.note .received).acceptEvents ⟨now, m⟩ ++ [.received])) := by
  have hreceived : s.Acts (.remark .received) (s.note .received) := .remark rfl
  have hnotes := hreceived.notes.trans (notes_accept (s.note .received) ⟨now, m⟩)
  have hgains (n : Nat) : ((s.note .received).accept now m).gains n k = 0 := by
    cases k <;> first | rfl | exact absurd (by decide) hk
  rw [(hsound.passed_add hwelcome now).get, hgains, hnotes.get]
  exact UInt64.add_zero _

end Synchronizer

end PulseJoin
