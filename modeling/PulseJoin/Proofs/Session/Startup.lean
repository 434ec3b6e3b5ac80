import PulseJoin.Proofs.Session.Conservation
import PulseJoin.Proofs.Synchronizer.Startup

/-!
# Sessions with and without the startup rule

As long as the startup rule sets no pulse aside, nobody can tell a session with the rule from one
without it: operation by operation the two are the same but for the setting itself.
-/

namespace PulseJoin

universe u

variable {α : Type u}

theorem Event.samples_unflagged (e : Event) : e.unflagged.samples = e.samples := by
  cases e <;> rfl

namespace Session

variable {c : Config} {clock : UInt64} {t t' : Session α}

def unflagged (t : Session α) : Session α := { t with synchronizer := t.synchronizer.unflagged }

theorem step_unflagged {acts : List (Act α)} (hsound : Synchronizer.Sound acts t.synchronizer)
    {op : Op α} (hnone : t.setAsideBy op = []) :
    t.unflagged.step op = (t.step op).map id unflagged := by
  cases op with
  | add m =>
    have hquiet (hwelcome : t.synchronizer.Welcomes m) :
        (t.synchronizer.setAside ⟨t.clock, m⟩).first? = none := by
      rw [setAsideBy_of_welcome hwelcome] at hnone
      exact SortedMap.first?_eq_none_iff.2 hnone
    exact congrArg (fun x => (Response.outcome x.1, Session.mk x.2 t.clock))
      (Synchronizer.add_unflagged hsound t.clock hquiet)
  | evictExpired =>
    exact congrArg (fun x => (Response.resolved x.1, Session.mk x.2 t.clock))
      (Synchronizer.unread_unflagged.evictExpired t.synchronizer t.clock)
  | tryNext =>
    exact congrArg (fun x => (Response.bundle x.1, Session.mk x.2 t.clock))
      (Synchronizer.unread_unflagged.tryNext t.synchronizer t.clock)
  | next =>
    exact congrArg (fun x => (Response.bundle x.1, Session.mk x.2 t.clock))
      (Synchronizer.unread_unflagged.next t.synchronizer t.clock)
  | receive => rfl
  | close =>
    exact congrArg (fun s => (Response.done, Session.mk s t.clock)) t.synchronizer.close_unflagged
  | setClock ms => rfl
  | advanceClock ms => rfl

/-- As long as nothing is set aside, a session runs as it would without the startup rule. -/
theorem run_unflagged (h : create c clock = .ok t) {ops : List (Op α)}
    (hnone : t.gather setAsideBy ops = []) :
    t.unflagged.run ops = (t.run ops).map id unflagged := by
  induction ops using List.reverseRecOn with
  | nil => rfl
  | append_singleton ops op ih =>
    rw [gather_concat, List.append_eq_nil_iff] at hnone
    obtain ⟨acts, -, -, hsound⟩ := sound_run h ops
    rw [run_concat, run_concat, ih hnone.1]
    dsimp only [Prod.map, id]
    rw [step_unflagged hsound hnone.2]
    rfl

theorem setAside_eq_nil (h : create c clock = .ok t) {ops : List (Op α)}
    (hnone : (t.run ops).2.synchronizer.counters.startupDiscarded = 0) :
    t.gather setAsideBy ops = [] := by
  obtain ⟨acts, -, -, hbalanced⟩ := balanced_run h ops
  rw [← List.length_eq_zero_iff, ← hbalanced.discarded,
    ← toNat_get h ops (tally_lt h ops (.head _))]
  exact congrArg UInt64.toNat hnone

/-- The startup rule cannot be observed unless it sets pulses aside.  Take a session with the rule
and one without it, all else equal.  If at the end the session with the rule has counted no pulse
as set aside, then both give the same responses, and after every operation they have the same
buffer, with the same values and times of creation, the same boundary, the same bundles waiting, the
same counters, and have told the metrics the same. -/
theorem startup_unobservable (h : create { c with sendFirstComplete := true } clock = .ok t)
    (h' : create { c with sendFirstComplete := false } clock = .ok t') (ops : List (Op α))
    (hnone : (t.run ops).2.synchronizer.counters.startupDiscarded = 0) :
    (t.run ops).1 = (t'.run ops).1 ∧
      ∀ before after, ops = before ++ after →
        let s := (t.run before).2.synchronizer
        let s' := (t'.run before).2.synchronizer
        s.buffer = s'.buffer ∧ s.boundary? = s'.boundary? ∧ s.outlet = s'.outlet ∧
          s.counters = s'.counters ∧ s.readings = s'.readings ∧
          s.journal.map Event.samples = s'.journal.map Event.samples := by
  have hstart : t' = t.unflagged := by
    obtain ⟨faultless, rfl⟩ := eq_of_create h
    obtain ⟨faultless', rfl⟩ := eq_of_create h'
    rfl
  have hquiet := setAside_eq_nil h hnone
  rw [hstart]
  constructor
  · rw [run_unflagged h hquiet]
    rfl
  · intro before after hops s
    rw [hops, gather_append, List.append_eq_nil_iff] at hquiet
    rw [run_unflagged h hquiet.1]
    have hsamples : s.journal.map Event.samples = s.unflagged.journal.map Event.samples := by
      show _ = (s.journal.map Event.unflagged).map Event.samples
      rw [List.map_map]
      exact List.map_congr_left fun e _ => (Event.samples_unflagged e).symm
    exact ⟨rfl, rfl, rfl, rfl, rfl, hsamples⟩

/-- The rule fires on the second message and finds nothing older. -/
theorem startup_unobservable_two_pulses :
    ∃ t t' : Session Nat,
      create { channels := [⟨"a", 1, 0⟩, ⟨"b", 1, 0⟩], sendFirstComplete := true } 0 = .ok t ∧
      create { channels := [⟨"a", 1, 0⟩, ⟨"b", 1, 0⟩], sendFirstComplete := false } 0 = .ok t' ∧
        let ops : List (Op Nat) := [.add ⟨"a", 5, 50⟩, .add ⟨"b", 5, 51⟩, .add ⟨"a", 6, 60⟩,
          .add ⟨"a", 5, 52⟩]
        (t.run ops).2.synchronizer.counters.startupDiscarded = 0 ∧
          (t.run ops).2.synchronizer.boundary? = some 5 ∧ (t.run ops).1 = (t'.run ops).1 ∧
          (t.run ops).2.synchronizer.counters = (t'.run ops).2.synchronizer.counters := by
  refine ⟨_, _, rfl, rfl, rfl, rfl, ?_⟩
  have h : create (α := Nat)
      { channels := [⟨"a", 1, 0⟩, ⟨"b", 1, 0⟩], sendFirstComplete := true } 0 = .ok _ := rfl
  have h' : create (α := Nat)
      { channels := [⟨"a", 1, 0⟩, ⟨"b", 1, 0⟩], sendFirstComplete := false } 0 = .ok _ := rfl
  have hsame := startup_unobservable (c := { channels := [⟨"a", 1, 0⟩, ⟨"b", 1, 0⟩] }) h h'
    [.add ⟨"a", 5, 50⟩, .add ⟨"b", 5, 51⟩, .add ⟨"a", 6, 60⟩, .add ⟨"a", 5, 52⟩] rfl
  exact ⟨hsame.1, (hsame.2 _ [] rfl).2.2.2.1⟩

end Session

end PulseJoin
