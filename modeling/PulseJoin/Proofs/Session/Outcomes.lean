import PulseJoin.Proofs.Session.History
import PulseJoin.Proofs.Synchronizer.Outcomes

/-!
# Outcomes in sessions

After any operations a message is answered with the outcome that is due to it.  If it is refused,
nothing but the record of its outcome changes.
-/

namespace PulseJoin.Session

universe u

variable {α : Type u} {c : Config} {clock : UInt64} {t : Session α}

/-- A message has exactly one outcome, and one that is refused leaves no other trace.  After any
operations the answer is the outcome that is due, by the configured channels, the boundary and
whether the session is closed.  Any outcome but `buffered` leaves buffer, watermarks, queue and
gauge as they were; one message more is counted as received and one under the outcome.  If the
message is taken in, it is counted as received and as buffered, and as a duplicate exactly if its
pulse was buffered with a value of its channel. -/
theorem outcome_exclusive (h : create c clock = .ok t) (ops : List (Op α)) (m : Message α) :
    let found := (t.run ops).2
    let s := found.synchronizer
    let s' := (found.step (.add m)).2.synchronizer
    ∃ o, (found.step (.add m)).1 = .outcome o ∧
      (∀ o' : Outcome, o = o' ↔ o'.Due c.channels s.marks.boundary s.closed m) ∧
      (o ≠ .buffered → s.Refused o s') ∧
      (o = .buffered →
        s'.counters.received = s.counters.received + 1 ∧
        s'.counters.buffered = s.counters.buffered + 1 ∧
        s'.counters.duplicates = s.counters.duplicates +
          (if (s.buffer.get? m.pulse).any fun w => (w.values.get? m.channel).isSome then 1
          else 0) ∧
        s'.counters.stale = s.counters.stale ∧
        s'.counters.unknownChannel = s.counters.unknownChannel ∧
        s'.counters.offSchedule = s.counters.offSchedule) := by
  intro found s s'
  obtain ⟨acts, -, -, hsound⟩ := sound_run h ops
  have hschedules : s.schedules.toList = c.channels := schedules_run h ops
  refine ⟨(s.add found.clock m).1, rfl, ?_, Synchronizer.refused_add, ?_⟩
  · intro o'
    rw [← hschedules]
    exact s.add_eq_iff_due found.clock m o'
  · intro hbuffered
    have hwelcome := Synchronizer.add_eq_buffered_iff.1 hbuffered
    have hget {k : Tally} (hk : k ∉ Tally.ofResolutions) :=
      Synchronizer.get_add_of_welcome hsound hwelcome found.clock hk
    simp only [Tally.sum_append, Synchronizer.sum_acceptEvents] at hget
    have hquiet (n : UInt64) : n + .ofNat 0 = n := UInt64.add_zero n
    refine ⟨hget (k := .received) (by decide), hget (k := .buffered) (by decide), ?_,
      (hget (k := .stale) (by decide)).trans (hquiet _),
      (hget (k := .unknownChannel) (by decide)).trans (hquiet _),
      (hget (k := .offSchedule) (by decide)).trans (hquiet _)⟩
    refine (hget (k := .duplicates) (by decide)).trans (congrArg (s.counters.duplicates + ·) ?_)
    rw [Synchronizer.finding_replaced]
    show UInt64.ofNat (Bool.toNat ((s.buffer.get? m.pulse).any _) + 0) = _
    cases (s.buffer.get? m.pulse).any fun w => (w.values.get? m.channel).isSome <;> rfl

/-- Pulse 3 is resolved and pulse 4 buffered; then the second channel reports the odd pulse, on
which it is not expected, or the first one reports pulse 4 again. -/
theorem outcome_exclusive_odd_pulse :
    ∃ t : Session Nat,
      create { channels := [⟨"a", 1, 0⟩, ⟨"b", 2, 0⟩] } 0 = .ok t ∧
        let ops : List (Op Nat) := [.add ⟨"a", 3, 30⟩, .add ⟨"a", 4, 40⟩]
        let found := (t.run ops).2
        let s := found.synchronizer
        let s' := (found.step (.add ⟨"b", 3, 31⟩)).2.synchronizer
        s.boundary? = some 3 ∧ s.Refused .offSchedule s' ∧
          s'.counters = { s.counters with
            received := s.counters.received + 1, offSchedule := s.counters.offSchedule + 1 } ∧
          (found.step (.add ⟨"a", 4, 41⟩)).2.synchronizer.counters.duplicates = 1 := by
  refine ⟨_, rfl, ?_⟩
  intro ops found s s'
  have h : create (α := Nat) { channels := [⟨"a", 1, 0⟩, ⟨"b", 2, 0⟩] } 0 = .ok _ := rfl
  obtain ⟨o, ho, -, hrefused, -⟩ := outcome_exclusive h ops ⟨"b", 3, 31⟩
  obtain ⟨o', ho', -, -, hbuffered⟩ := outcome_exclusive h ops ⟨"a", 4, 41⟩
  cases ho
  cases ho'
  exact ⟨rfl, hrefused nofun, rfl, (hbuffered rfl).2.2.1⟩

end PulseJoin.Session
