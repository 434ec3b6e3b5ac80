import PulseJoin.Proofs.Session.Reachable
import PulseJoin.Proofs.Synchronizer.Outcomes

/-!
# Stale messages

A message comes too late if the boundary has passed its pulse.  Before the first resolution the
boundary that is compared stands at the least id, so the least id alone is refused then, though no
pulse was passed.
-/

namespace PulseJoin.Session

universe u

variable {α : Type u} {c : Config} {clock : UInt64} {t : Session α} {m : Message α}

/-- Whether a message is one of a configured channel, for a pulse on its schedule. -/
def Scheduled (c : Config) (m : Message α) : Prop :=
  ∃ r ∈ c.channels, r.name = m.channel ∧ r.period.toInt ∣ m.pulse.toInt - r.phase.toInt

/-- Whether a pulse that is no lower was resolved or dropped. -/
def Passed (t : Session α) (p : PulseId) : Prop :=
  ∃ b, t.synchronizer.boundary? = some b ∧ p ≤ b

/-- As long as a session is open, a message on schedule is refused as stale if its pulse was passed,
or if nothing was resolved and its pulse has the least id; any other one is taken in.  So before the
first resolution, and with it before the startup rule fires, only the least id is refused. -/
theorem stale_iff_passed (h : create c clock = .ok t) (ops : List (Op α))
    (hopen : (t.run ops).2.synchronizer.closed = false) (hscheduled : Scheduled c m) :
    let found := (t.run ops).2
    let answer := (found.step (.add m)).1
    let late := found.Passed m.pulse ∨
      (found.synchronizer.boundary? = none ∧ m.pulse = Int64.minValue)
    (answer = .outcome .stale ↔ late) ∧ (answer = .outcome .buffered ↔ ¬ late) ∧
      ((t.history ops).turns = [] → (answer = .outcome .stale ↔ m.pulse = Int64.minValue)) := by
  intro found answer late
  have hschedules : found.synchronizer.schedules.toList = c.channels := schedules_run h ops
  have hdue (o : Outcome) : answer = .outcome o ↔
      o.Due c.channels found.synchronizer.marks.boundary found.synchronizer.closed m := by
    rw [← hschedules, ← Synchronizer.add_eq_iff_due]
    exact ⟨Response.outcome.inj, congrArg Response.outcome⟩
  have hlate : late ↔ m.pulse ≤ found.synchronizer.marks.boundary :=
    Watermarks.le_boundary_iff.symm
  have hstale : answer = .outcome .stale ↔ late := by
    rw [hdue, hlate]
    exact ⟨fun hstale => hstale.2.2, fun hle => ⟨hopen, hscheduled, hle⟩⟩
  refine ⟨hstale, ?_, ?_⟩
  · rw [hdue, hlate, Int64.not_le]
    exact ⟨fun hbuffered => hbuffered.2.2, fun hlt => ⟨hopen, hscheduled, hlt⟩⟩
  · intro hnone
    have hstart : found.synchronizer.boundary? = none :=
      Watermarks.boundary?_eq_none_iff.2 (boundary_of_no_turn h hnone)
    rw [hstale]
    unfold late Passed
    rw [hstart]
    simp

/-- Pulse 5 is resolved, so a message for pulse 4 is late and one for pulse 6 is not; before that
even a message for the second id of all is taken in. -/
theorem stale_iff_passed_four :
    ∃ t : Session Nat, create { channels := [⟨"a", 1, 0⟩] } 0 = .ok t ∧
      let ops : List (Op Nat) := [.add ⟨"a", 5, 50⟩]
      let found := (t.run ops).2
      found.Passed 4 ∧ (found.step (.add ⟨"a", 4, 40⟩)).1 = .outcome .stale ∧
        (found.step (.add ⟨"a", 6, 60⟩)).1 = .outcome .buffered ∧
        (t.step (.add ⟨"a", Int64.minValue + 1, 0⟩)).1 ≠ .outcome .stale := by
  refine ⟨_, rfl, ?_⟩
  intro ops found
  have h : create (α := Nat) { channels := [⟨"a", 1, 0⟩] } 0 = .ok _ := rfl
  have hscheduled (m : Message Nat) (hm : m.channel = "a") :
      Scheduled { channels := [⟨"a", 1, 0⟩] } m :=
    ⟨_, .head _, hm.symm, one_dvd _⟩
  have hlate : found.Passed 4 := ⟨5, rfl, by decide⟩
  have hearly : ¬ (found.Passed 6 ∨
      (found.synchronizer.boundary? = none ∧ (6 : PulseId) = Int64.minValue)) := by
    rintro (⟨b, hb, hle⟩ | ⟨hnone, -⟩)
    · cases hb
      exact absurd hle (by decide)
    · cases hnone
  refine ⟨hlate, ?_, ?_, ?_⟩
  · exact (stale_iff_passed h ops rfl (hscheduled ⟨"a", 4, 40⟩ rfl)).1.2 (.inl hlate)
  · exact (stale_iff_passed h ops rfl (hscheduled ⟨"a", 6, 60⟩ rfl)).2.1.2 hearly
  · intro hstale
    have hleast := (stale_iff_passed h [] rfl
      (hscheduled ⟨"a", Int64.minValue + 1, 0⟩ rfl)).2.2 rfl
    exact absurd (hleast.1 hstale) (by decide)

/-- A new session refuses the least id as stale, though it has passed nothing. -/
theorem least_pulse_stale_at_start :
    ∃ t : Session Nat, create { channels := [⟨"A", 1, 0⟩, ⟨"B", 1, 0⟩] } 0 = .ok t ∧
      let m : Message Nat := ⟨"A", Int64.minValue, 0⟩
      t.synchronizer.closed = false ∧
        Scheduled { channels := [⟨"A", 1, 0⟩, ⟨"B", 1, 0⟩] } m ∧
        (t.step (.add m)).1 = .outcome .stale ∧ ¬ t.Passed m.pulse := by
  refine ⟨_, rfl, rfl, ⟨_, .head _, rfl, one_dvd _⟩, rfl, ?_⟩
  rintro ⟨b, hb, -⟩
  cases hb

end PulseJoin.Session
