import PulseJoin.Proofs.Session.Conservation
import PulseJoin.Proofs.Synchronizer.Readings

/-!
# Metrics and counters

A synchronizer keeps two records of what it does, its counters and the metrics.  They agree: a
metric shows its counter, and the gauge shows the number of buffered pulses.
-/

namespace PulseJoin.Session

universe u

variable {α : Type u} {c : Config} {clock : UInt64} {t : Session α}

theorem told_of_create (h : create c clock = .ok t) : t.synchronizer.Told := by
  obtain ⟨faultless, rfl⟩ := eq_of_create h
  refine ⟨rfl, fun e he => ?_⟩
  rw [List.mem_singleton.1 he]
  trivial

theorem gauged_of_create (h : create c clock = .ok t) : t.synchronizer.Gauged := by
  obtain ⟨faultless, rfl⟩ := eq_of_create h
  exact ⟨fun _ => rfl, rfl⟩

theorem get_eq_zero_iff (h : create c clock = .ok t) {ops : List (Op α)}
    (hfew : (ops.filterMap Op.message?).length < UInt64.size) (k : Tally) :
    (t.run ops).2.synchronizer.counters.get k = 0 ↔ (t.run ops).2.synchronizer.tally k = 0 := by
  rw [← toNat_get h ops (Nat.lt_of_le_of_lt (tally_le h ops k) hfew), ← UInt64.toNat_inj]
  rfl

/-- After any operations with fewer than `2 ^ 64` messages the metrics agree with the counters and
the buffer.  The metric of a tally shows its counter and is absent exactly if that is zero; the
gauge shows the number of buffered pulses and is absent exactly if no message was taken in. -/
theorem readings_agree (h : create c clock = .ok t) (ops : List (Op α))
    (hfew : (ops.filterMap Op.message?).length < UInt64.size) :
    let final := (t.run ops).2.synchronizer
    (∀ k metric, k.metric? = some metric →
      final.readings.counter? metric =
        if final.counters.get k = 0 then none else some (final.counters.get k)) ∧
    final.readings.gauge? .bufferedPulses =
      if final.counters.buffered = 0 then none else some final.buffer.size.toFloat := by
  intro final
  obtain ⟨acts, hruns, -⟩ := t.performs_run ops
  obtain ⟨hreadings, hsubstantial⟩ : final.Told := hruns.told (told_of_create h)
  have hcounted : final.Counted := hruns.counted (counted_of_create h)
  have hgauged : final.Gauged := hruns.gauged (gauged_of_create h)
  have hzero (k : Tally) : final.counters.get k = 0 ↔ final.tally k = 0 := get_eq_zero_iff h hfew k
  constructor
  · intro k metric hk
    rw [hreadings, Event.counter?_readings hsubstantial hk]
    simp only [hzero]
    rw [hcounted k]
    rfl
  · rw [hreadings, Event.gauge?_readings, hgauged.shown]
    show Option.map _ _ = if final.counters.get .buffered = 0 then _ else _
    simp only [hzero]
    split <;> rfl

/-- A late message and one from an unknown channel, and a pulse that is cut short because the buffer
may hold only one. -/
theorem readings_agree_cut_short :
    ∃ t : Session Nat,
      create { channels := [⟨"a", 1, 0⟩, ⟨"b", 2, 0⟩], maxBuffered := 1 } 0 = .ok t ∧
        let ops : List (Op Nat) := [.add ⟨"a", 2, 20⟩, .add ⟨"c", 2, 21⟩, .add ⟨"b", 4, 40⟩,
          .add ⟨"b", 2, 22⟩]
        let final := (t.run ops).2.synchronizer
        final.readings.counter? (.messagesDropped .stale) = some 1 ∧
          final.readings.counter? (.messagesDropped .unknownChannel) = some 1 ∧
          final.readings.counter? (.bundles .evicted) = some 1 ∧
          final.readings.counter? (.bundles .complete) = none ∧
          final.readings.gauge? .bufferedPulses = some (Nat.toFloat 1) := by
  refine ⟨_, rfl, ?_⟩
  intro ops final
  have h : create (α := Nat)
      { channels := [⟨"a", 1, 0⟩, ⟨"b", 2, 0⟩], maxBuffered := 1 } 0 = .ok _ := rfl
  obtain ⟨hcounters, hgauge⟩ := readings_agree h ops (by decide)
  exact ⟨hcounters .stale _ rfl, hcounters .unknownChannel _ rfl, hcounters .evicted _ rfl,
    hcounters .complete _ rfl, hgauge⟩

end PulseJoin.Session
