import PulseJoin.Proofs.Session.History
import PulseJoin.Proofs.Synchronizer.Turns

/-!
# The order of bundles

Pulses are resolved in ascending order, and consumers obtain bundles in that order, whatever
arrives, however the clock moves, and also where bundles are dropped, refused by a full queue or
thrown away at the close.
-/

namespace PulseJoin

universe u

variable {α : Type u}

namespace Session

variable {c : Config} {clock : UInt64} {t : Session α}

theorem turn_of_obtained (h : create c clock = .ok t) {ops : List (Op α)} {b : Bundle α}
    (hb : b ∈ (t.history ops).obtained) :
    (∃ u ∈ (t.history ops).turns, u.bundle = b) ∧
      (b.isComplete = false → c.sendIncomplete = true) := by
  obtain ⟨acts, -, hacts, hsound⟩ := sound_run h ops
  rw [← hacts] at hb ⊢
  obtain ⟨hturn, hwanted⟩ :=
    List.mem_filter.1 (hsound.queue.subset (List.mem_append_left _ hb))
  refine ⟨List.mem_map.1 hturn, fun hincomplete => ?_⟩
  unfold Synchronizer.wants at hwanted
  rwa [hincomplete, Bool.false_or, config_run h] at hwanted

/-- Consumers obtain bundles in strictly ascending order of pulse ids, whatever the session is asked
for, and none before the boundary has reached its pulse. -/
theorem obtained_ascending (h : create c clock = .ok t) (ops : List (Op α)) :
    ((t.run ops).1.filterMap Response.bundle?).Pairwise (fun b b' => b.pulse < b'.pulse) ∧
      ∀ before op after b, ops = before ++ op :: after →
        ((t.run before).2.step op).1.bundle? = some b →
        ∃ boundary, ((t.run before).2.step op).2.synchronizer.boundary? = some boundary ∧
          b.pulse ≤ boundary := by
  have hfresh := (new_of_create h).fresh
  constructor
  · obtain ⟨acts, hruns, hacts, hsound⟩ := sound_run h ops
    have hobtained : Act.taken acts = (t.run ops).1.filterMap Response.bundle? := by
      rw [← obtained_history, ← hacts]
      rfl
    rw [← hobtained]
    have hturns : ((Act.turns acts).map Turn.bundle).Pairwise
        (fun b b' => b.pulse < b'.pulse) :=
      List.pairwise_map.2 (hruns.ascending hfresh)
    -- What was taken is a part of what was resolved, in the same order.
    exact hturns.sublist
      (((List.sublist_append_left _ _).trans hsound.queue).trans List.filter_sublist)
  · intro before op after b _ hb
    have hrun := t.run_concat before op
    have hin : b ∈ (t.history (before ++ [op])).obtained := by
      rw [obtained_history, hrun, List.filterMap_append]
      simp [hb]
    obtain ⟨⟨u, hu, rfl⟩, -⟩ := turn_of_obtained h hin
    obtain ⟨acts, hruns, hacts, -⟩ := sound_run h (before ++ [op])
    rw [← hacts] at hu
    rw [hrun] at hruns
    obtain ⟨hmin, hpassed⟩ := hruns.passed hfresh hu
    exact ⟨_, Watermarks.boundary?_eq_some_iff.2 ⟨rfl, by grind⟩, hpassed⟩

theorem obtained_ascending_two_pulses :
    ∃ t : Session Nat,
      create { channels := [⟨"a", 1, 0⟩, ⟨"b", 2, 0⟩], delivery := .pull } 0 = .ok t ∧
        let ops := [.add ⟨"a", 2, 10⟩, .add ⟨"a", 3, 30⟩, .add ⟨"b", 2, 20⟩, .tryNext, .next]
        ((t.run ops).1.filterMap Response.bundle?).map (·.pulse) = [2, 3] ∧
          ((t.run ops).1.filterMap Response.bundle?).Pairwise (fun b b' => b.pulse < b'.pulse) := by
  refine ⟨_, rfl, rfl, ?_⟩
  have h : create (α := Nat)
      { channels := [⟨"a", 1, 0⟩, ⟨"b", 2, 0⟩], delivery := .pull } 0 = .ok _ := rfl
  exact (obtained_ascending h _).1

end Session

end PulseJoin
