import PulseJoin.Proofs.Session.Order

/-!
# The contents of bundles

A bundle that a consumer obtains has, for each channel that is expected on its pulse, the last value
that was taken in before the pulse was resolved.
-/

namespace PulseJoin.Session

universe u

variable {α : Type u} {c : Config} {clock : UInt64} {t : Session α}

theorem op_of_turn {u : Turn α} {ops : List (Op α)} (hu : u ∈ (t.history ops).turns) :
    ∃ before op after, ops = before ++ op :: after ∧
      u ∈ ((t.run before).2.historyOf op).turns := by
  induction ops generalizing t with
  | nil => cases hu
  | cons op ops ih =>
    rcases List.mem_append.1 hu with hnow | hlater
    · exact ⟨[], op, ops, rfl, hnow⟩
    · obtain ⟨before, op', after, hsplit, hthen⟩ := ih hlater
      exact ⟨op :: before, op', after, by rw [hsplit, List.cons_append], hthen⟩

/-- A bundle that a consumer obtains says how many channels are expected, of which there is at least
one.  It has values of some of them, and is complete exactly if it has values of all.  Each value is
the last one that was taken in for its channel before the pulse was resolved.  Incomplete bundles
are obtained only where the configuration wants them. -/
theorem obtained_contents (h : create c clock = .ok t) (ops : List (Op α)) {b : Bundle α}
    (hb : b ∈ (t.run ops).1.filterMap Response.bundle?) :
    b.expected = t.synchronizer.schedules.expectedCount b.pulse ∧ 1 ≤ b.expected ∧
      b.channels ≠ [] ∧
      b.channels ⊆ t.synchronizer.schedules.expectedChannels b.pulse ∧
      (b.isComplete = true ↔ ∀ channel, channel ∈ b.channels ↔
        channel ∈ t.synchronizer.schedules.expectedChannels b.pulse) ∧
      b.size ≤ b.expected ∧
      (∃ before op after, ops = before ++ op :: after ∧
        (∃ u ∈ ((t.run before).2.historyOf op).turns, u.bundle = b) ∧
        ∀ channel, b.get? channel =
          Arrival.latest? (t.history (before ++ [op])).arrivals channel b.pulse) ∧
      (b.isComplete = false → c.sendIncomplete = true) := by
  have hfresh := (new_of_create h).fresh
  rw [← obtained_history] at hb
  obtain ⟨⟨u, hu, rfl⟩, hwanted⟩ := turn_of_obtained h hb
  obtain ⟨before, op, after, hsplit, hnow⟩ := op_of_turn hu
  -- What arrives behind the operation must not count, so the run is cut there.
  have hupto : u ∈ (t.history (before ++ [op])).turns := by
    rw [history_concat]
    exact List.mem_append_right _ hnow
  obtain ⟨acts, hruns, hacts, -⟩ := sound_run h (before ++ [op])
  rw [← hacts] at hupto
  have hexpected := hruns.expected_turn hfresh hupto
  refine ⟨hexpected, ?_, hruns.channels_turn_ne_nil hfresh hupto,
    hruns.channels_turn_subset hfresh hupto, hruns.isComplete_turn_iff hfresh hupto,
    hruns.size_turn_le hfresh hupto, ⟨before, op, after, hsplit, ⟨u, hnow, rfl⟩, ?_⟩, hwanted⟩
  · rw [hexpected]
    exact hruns.expectedCount_turn_pos hfresh hupto
  · intro channel
    rw [← hacts]
    exact hruns.get?_turn hfresh hupto channel

/-- A value that is sent again replaces the first one, and an incomplete bundle is obtained. -/
theorem obtained_contents_replaced :
    ∃ t : Session Nat,
      create { channels := [⟨"a", 1, 0⟩, ⟨"b", 1, 0⟩], maxBuffered := 1, sendIncomplete := true,
               delivery := .pull } 0 = .ok t ∧
        let ops := [.add ⟨"a", 1, 10⟩, .add ⟨"a", 1, 20⟩, .add ⟨"b", 2, 30⟩, .tryNext]
        ∃ b ∈ (t.run ops).1.filterMap Response.bundle?,
          b.get? "a" = some 20 ∧ b.expected = 2 ∧ b.isComplete = false ∧
            b.channels ⊆ t.synchronizer.schedules.expectedChannels b.pulse := by
  refine ⟨_, rfl, _, .head _, rfl, rfl, rfl, ?_⟩
  have h : create (α := Nat)
      { channels := [⟨"a", 1, 0⟩, ⟨"b", 1, 0⟩], maxBuffered := 1, sendIncomplete := true,
        delivery := .pull } 0 = .ok _ := rfl
  exact (obtained_contents h
    [.add ⟨"a", 1, 10⟩, .add ⟨"a", 1, 20⟩, .add ⟨"b", 2, 30⟩, .tryNext] (.head _)).2.2.2.1

end PulseJoin.Session
