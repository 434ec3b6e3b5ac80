import PulseJoin.Proofs.Session.Rest
import PulseJoin.Proofs.Synchronizer.Waiting

/-!
# What every reachable state keeps

After any operations the buffer is within its limit and above the boundary, the reference is where
the search for missing pulses has to begin, and the oldest pulse has something to wait for.
-/

namespace PulseJoin.Session

universe u

variable {α : Type u} {c : Config} {clock : UInt64} {t : Session α}

/-- Whether in some operation the startup rule fired: a message was taken in that made its pulse the
first to be complete. -/
def StartupFired (t : Session α) (ops : List (Op α)) : Prop :=
  ∃ before m after, ops = before ++ .add m :: after ∧
    ((t.run before).2.step (.add m)).1 = .outcome .buffered ∧
    (t.run before).2.synchronizer.startsWith ⟨(t.run before).2.clock, m⟩ = true

theorem boundary_step {op : Op α} (hturns : (t.historyOf op).turns = []) :
    (t.step op).2.synchronizer.marks.boundary = t.synchronizer.marks.boundary := by
  have hperforms := t.performs_step op
  cases op with
  | add m => exact Synchronizer.boundary_add hturns
  | _ => rw [(hperforms.alike rfl hturns).marks]

theorem boundary_of_no_turn (h : create c clock = .ok t) {ops : List (Op α)}
    (hturns : (t.history ops).turns = []) :
    (t.run ops).2.synchronizer.marks.boundary = Int64.minValue := by
  induction ops using List.reverseRecOn with
  | nil => exact congrArg Watermarks.boundary (new_of_create h).fresh.marks
  | append_singleton ops op ih =>
    rw [history_concat, History.turns_append, List.append_eq_nil_iff] at hturns
    rw [run_concat]
    exact (boundary_step hturns.2).trans (ih hturns.1)

theorem turns_of_startupFired {ops : List (Op α)} (h : t.StartupFired ops) :
    (t.history ops).turns ≠ [] := by
  obtain ⟨before, m, after, rfl, hbuffered, hstarts⟩ := h
  rw [history_append, History.turns_append]
  apply List.append_ne_nil_of_right_ne_nil
  apply List.append_ne_nil_of_left_ne_nil
  generalize (t.run before).2 = t' at hbuffered hstarts
  have hwelcome : t'.synchronizer.Welcomes m :=
    Synchronizer.add_eq_buffered_iff.1 (Response.outcome.inj hbuffered)
  show (t'.synchronizer.addHistory t'.clock m).turns ≠ []
  rw [Synchronizer.turns_addHistory hwelcome]
  exact Synchronizer.turns_of_startsWith (s := t'.synchronizer.note .received)
    (a := ⟨t'.clock, m⟩) hwelcome hstarts t'.clock

/-- Every buffered pulse is stored under the id it bears, so the id that a resolution takes from the
map is the one in the entry. -/
theorem keyed_run (h : create c clock = .ok t) (ops : List (Op α)) :
    (t.run ops).2.synchronizer.buffer.Keyed := by
  obtain ⟨acts, -, -, hsound⟩ := sound_run h ops
  exact hsound.held.keyed

/-- After any operations the buffer is within its limit; every buffered pulse is above the boundary
and has a value; before the first resolution the reference is the oldest buffered pulse, afterwards
it is the boundary; and the oldest pulse lacks a channel, or a pulse between the reference and it is
expected.  So without a limit of age a pass that no message started resolves nothing and changes
nothing; it may remark in the log that the oldest pulse waits. -/
theorem reachable_invariant (h : create c clock = .ok t) (ops : List (Op α)) :
    let final := (t.run ops).2.synchronizer
    let turns := (t.history ops).turns
    final.buffer.size ≤ c.maxBuffered.toNat ∧
    (∀ e ∈ final.buffer.toList, final.marks.boundary < e.1 ∧ 0 < e.2.size) ∧
    (turns = [] → ∀ p, final.buffer.oldest? = some p → final.marks.reference = p) ∧
    (turns ≠ [] ∨ t.StartupFired ops → final.marks.reference = final.marks.boundary ∧
      final.boundary? = some final.marks.reference) ∧
    (∀ p w, final.buffer.first? = some (p, w) →
      (∃ channel ∈ final.schedules.expectedChannels p, w.values.get? channel = none) ∨
      ∃ q, final.marks.reference < q ∧ q < p ∧ 0 < final.schedules.expectedCount q) ∧
    (c.maxAge? = none → ∀ now, (final.evictExpired now).1 = 0 ∧
      ∃ remarks, (∀ e ∈ remarks, ∃ p q, e = .waiting p q) ∧
        (final.evictExpired now).2 = { final with journal := remarks ++ final.journal }) := by
  intro final turns
  have hfresh := (new_of_create h).fresh
  obtain ⟨acts, hruns, hacts, hsound⟩ := sound_run h ops
  have hrest : final.AtRest := atRest_run h ops
  have hturns : Act.turns acts = turns := congrArg History.turns hacts
  refine ⟨?_, fun e he => ⟨hsound.held.above e he, hsound.held.size_pos he⟩, ?_, ?_, ?_, ?_⟩
  · have hsize := hrest.size_le
    rwa [config_run h] at hsize
  · intro hnone p hp
    obtain ⟨⟨p', w⟩, hfirst, rfl⟩ := Option.map_eq_some_iff.1 hp
    exact hsound.reference_of_unmoved (boundary_of_no_turn h hnone) hfirst
  · intro hmoved
    -- The startup rule never fires without a resolution behind it.
    have hsome : Act.turns acts ≠ [] := by
      rw [hturns]
      exact hmoved.elim id turns_of_startupFired
    obtain ⟨hreference, hmin⟩ := hruns.reference_of_turns hfresh hsome
    exact ⟨hreference, Watermarks.boundary?_eq_some_iff.2 ⟨hreference.symm, hreference ▸ hmin⟩⟩
  · intro p w hfirst
    exact (hrest.waits hfirst).imp_left Synchronizer.exists_lacking
  · intro hage now
    exact (settled_run h hage ops).evictExpired now

/-- The second pulse is complete with its only channel and sets the first one aside; the boundary is
then the reference, and the third pulse lacks a channel. -/
theorem reachable_invariant_startup :
    ∃ t : Session Nat,
      create { channels := [⟨"a", 1, 0⟩, ⟨"b", 2, 0⟩], sendFirstComplete := true } 0 = .ok t ∧
        let ops := [.add ⟨"b", 2, 20⟩, .add ⟨"a", 3, 30⟩, .add ⟨"b", 4, 40⟩]
        let final := (t.run ops).2.synchronizer
        final.buffer.oldest? = some 4 ∧ final.marks.reference = 3 ∧
          final.boundary? = some final.marks.reference ∧ final.buffer.size ≤ 100 ∧
          ∀ now, (final.evictExpired now).1 = 0 := by
  refine ⟨_, rfl, ?_⟩
  intro ops final
  have h : create (α := Nat)
      { channels := [⟨"a", 1, 0⟩, ⟨"b", 2, 0⟩], sendFirstComplete := true } 0 = .ok _ := rfl
  obtain ⟨hsize, -, -, hmoved, -, hpass⟩ := reachable_invariant h ops
  have hboundary := (hmoved (.inr ⟨[.add ⟨"b", 2, 20⟩], ⟨"a", 3, 30⟩, [.add ⟨"b", 4, 40⟩],
    rfl, rfl, rfl⟩)).2
  exact ⟨rfl, rfl, hboundary, hsize, fun now => (hpass rfl now).1⟩

end PulseJoin.Session
