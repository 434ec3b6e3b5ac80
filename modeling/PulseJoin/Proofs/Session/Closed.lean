import PulseJoin.Proofs.Session.History
import PulseJoin.Proofs.Synchronizer.Closed

/-!
# Sessions after the close

The close is the end of a session: whatever is asked of it afterwards, nothing moves but the count
of messages, which are all refused.  Consumers of a push queue obtain what it held, consumers that
pull obtain nothing.
-/

namespace PulseJoin

universe u

variable {α : Type u}

/-- Whether an operation takes a bundle from the queue of a closed session, if one is left. -/
def Op.takes : Op α → Bool
  | .receive | .tryNext => true
  | _ => false

namespace Session

variable {c : Config} {clock : UInt64} {t : Session α}

theorem frozen_step (h : t.synchronizer.Shut) (op : Op α) :
    t.synchronizer.Frozen op.message?.toList.length op.takes.toNat (t.step op).2.synchronizer ∧
      (t.step op).1.bundle? = if op.takes then t.synchronizer.outlet.queue.head? else none := by
  cases op with
  | add m => exact ⟨h.frozen_add t.clock m, rfl⟩
  | evictExpired =>
    refine ⟨?_, rfl⟩
    show t.synchronizer.Frozen 0 0 (t.synchronizer.evictExpired t.clock).2
    rw [h.evictExpired]
    exact .refl _
  | tryNext => exact ⟨(h.tryNext t.clock).2, (h.tryNext t.clock).1⟩
  | next => exact ⟨(h.next t.clock).2, (h.next t.clock).1⟩
  | receive => exact ⟨h.receive.2, h.receive.1⟩
  | close =>
    refine ⟨?_, rfl⟩
    show t.synchronizer.Frozen 0 0 t.synchronizer.close
    rw [h.close]
    exact .refl _
  | setClock ms => exact ⟨.refl _, rfl⟩
  | advanceClock ms => exact ⟨.refl _, rfl⟩

theorem frozen_run (h : t.synchronizer.Shut) (ops : List (Op α)) :
    t.synchronizer.Frozen (ops.filterMap Op.message?).length (ops.countP Op.takes)
        (t.run ops).2.synchronizer ∧
      (t.run ops).1.filterMap Response.bundle? =
        t.synchronizer.outlet.queue.take (ops.countP Op.takes) := by
  -- The induction is from the front: the queue that the later operations find lacks what the first
  -- one took.
  induction ops generalizing t with
  | nil => exact ⟨.refl _, rfl⟩
  | cons op ops ih =>
    obtain ⟨hstep, hbundle⟩ := frozen_step h op
    obtain ⟨hrest, htaken⟩ := ih (hstep.shut h)
    have hmessages : ((op :: ops).filterMap Op.message?).length =
        op.message?.toList.length + (ops.filterMap Op.message?).length := by
      rw [List.filterMap_cons]
      cases op.message? with
      | none => exact (Nat.zero_add _).symm
      | some m => exact Nat.add_comm _ 1
    have htakes : (op :: ops).countP Op.takes = op.takes.toNat + ops.countP Op.takes := by
      rw [List.countP_cons, Nat.add_comm]
      cases op.takes <;> rfl
    constructor
    · rw [hmessages, htakes]
      exact hstep.trans hrest
    · show ((t.step op).1 :: ((t.step op).2.run ops).1).filterMap Response.bundle? = _
      rw [List.filterMap_cons, htakes, htaken, hbundle, hstep.outlet]
      cases op.takes with
      | false => rw [Bool.toNat_false, List.drop_zero, Nat.zero_add]; rfl
      | true =>
        rw [Bool.toNat_true, Nat.add_comm]
        cases t.synchronizer.outlet.queue with
        | nil => simp
        | cons b rest => rfl

theorem shut_of_close (h : create c clock = .ok t) (before : List (Op α)) :
    ((t.run before).2.step .close).2.synchronizer.Shut := by
  obtain ⟨acts, hruns, -⟩ := t.performs_run (before ++ [.close])
  rw [run_concat] at hruns
  exact hruns.shut (new_of_create h).fresh (Synchronizer.close_closed _)

theorem pulls_run (h : create c clock = .ok t) (ops : List (Op α)) :
    (t.run ops).2.synchronizer.outlet.pulls = (c.delivery == .pull) := by
  unfold Outlet.pulls
  rw [mode_run h]

theorem outletClosed_not_mem_run (h : create c clock = .ok t) (ops : List (Op α)) (p : PulseId)
    (complete : Bool) : .outletClosed p complete ∉ (t.run ops).2.synchronizer.journal := by
  obtain ⟨acts, hruns, -⟩ := t.performs_run ops
  refine hruns.outletClosed_not_mem (new_of_create h).fresh ?_ p complete
  intro p complete hmem
  rw [(new_of_create h).journal, List.mem_singleton] at hmem
  cases hmem

/-- The close freezes a session.  Whatever was asked before it and is asked after it, the buffer,
the boundary, the metrics and all counters stay as the close found them, but for the messages, which
are counted as received and refused; a pass resolves nothing.  In push mode consumers obtain the
bundles that were pending, one for each time they ask, and then only the news of the close; in pull
mode they obtain none and none is left.  In no session is a bundle handed to a closed queue. -/
theorem close_freezes (h : create c clock = .ok t) (before later : List (Op α)) :
    let found := (t.run before).2.synchronizer
    let closed := ((t.run before).2.step .close).2
    let now := (closed.run later).2
    let final := now.synchronizer
    let obtained := (closed.run later).1.filterMap Response.bundle?
    let taken := later.countP Op.takes
    (final.buffer = found.buffer ∧ final.boundary? = found.boundary? ∧
      final.readings = found.readings ∧
      final.counters = { found.counters with
        received := found.counters.received + .ofNat (later.filterMap Op.message?).length }) ∧
    (∀ m, (now.step (.add m)).1 = .outcome .closed) ∧
    (now.step .evictExpired).1 = .resolved 0 ∧
    (c.delivery ≠ .pull →
      obtained = found.outlet.queue.take taken ∧
      final.outlet.queue = found.outlet.queue.drop taken ∧
      (now.step .receive).1 =
        .receipt ((found.outlet.queue[taken]?.map Receipt.bundle).getD .closed)) ∧
    (c.delivery = .pull → obtained = [] ∧ final.pending = 0) ∧
    ∀ p complete, .outletClosed p complete ∉ final.journal := by
  intro found closed now final obtained taken
  have hshut : closed.synchronizer.Shut := shut_of_close h before
  obtain ⟨hfrozen, hobtained⟩ : closed.synchronizer.Frozen _ taken final ∧
      obtained = closed.synchronizer.outlet.queue.take taken := frozen_run hshut later
  have hfinal : final.Shut := hfrozen.shut hshut
  obtain ⟨hbuffer, hmarks, hreadings, hcounters, hqueue⟩ := found.close_fields
  have hpulls : found.outlet.pulls = (c.delivery == .pull) := pulls_run h before
  -- The mode is that of the configuration, before the close and behind it.
  have hstill : closed.synchronizer.outlet.pulls = (c.delivery == .pull) := by
    have hboth := pulls_run h (before ++ [.close])
    rwa [run_concat] at hboth
  have hleft : final.outlet.queue = closed.synchronizer.outlet.queue.drop taken := by
    rw [hfrozen.outlet]
  refine ⟨⟨hfrozen.buffer.trans hbuffer, ?_, hfrozen.readings.trans hreadings, ?_⟩, ?_, ?_, ?_, ?_,
    ?_⟩
  · exact congrArg Watermarks.boundary? (hfrozen.marks.trans hmarks)
  · have hclosed : closed.synchronizer.counters = found.counters := hcounters
    rw [hfrozen.counters, hclosed]
  · intro m
    exact congrArg (fun r => Response.outcome r.1) (hfinal.add now.clock m)
  · exact congrArg (fun r => Response.resolved r.1) (hfinal.evictExpired now.clock)
  · intro hpush
    have hpush : (c.delivery == .pull) = false := beq_false_of_ne hpush
    have hsame : closed.synchronizer.outlet.queue = found.outlet.queue :=
      hqueue (hpulls.trans hpush)
    have hmode : final.outlet.pulls = false := by
      rw [hfrozen.outlet]
      exact hstill.trans hpush
    refine ⟨hsame ▸ hobtained, hsame ▸ hleft, ?_⟩
    show Response.receipt final.receive.1 = _
    rw [hfinal.receive_push hmode, hleft, hsame, List.head?_drop]
  · intro hpull
    -- The close of a pull queue throws away what waits in it.
    have hempty : closed.synchronizer.outlet.queue = [] := by
      apply hshut.drained
      rw [hstill, hpull]
      rfl
    rw [hempty] at hobtained hleft
    constructor
    · rw [hobtained, List.take_nil]
    · show final.outlet.queue.length = 0
      rw [hleft, List.drop_nil]
      rfl
  · have hwhole := outletClosed_not_mem_run h (before ++ .close :: later)
    rw [run_append] at hwhole
    exact hwhole

/-- Two pulses are pending at the close and one is buffered.  A message that would complete it comes
too late; three consumers obtain the two bundles and the news of the close. -/
theorem close_freezes_two_pending :
    ∃ t : Session Nat,
      create { channels := [⟨"a", 1, 0⟩, ⟨"b", 2, 0⟩] } 0 = .ok t ∧
        let before : List (Op Nat) := [.add ⟨"a", 1, 10⟩, .add ⟨"b", 2, 21⟩, .add ⟨"a", 2, 20⟩,
          .add ⟨"a", 4, 40⟩]
        let later : List (Op Nat) := [.add ⟨"b", 4, 41⟩, .evictExpired, .receive, .close, .tryNext]
        let found := (t.run before).2.synchronizer
        let closed := ((t.run before).2.step .close).2
        let now := (closed.run later).2
        found.buffer.keys = [4] ∧ now.synchronizer.buffer = found.buffer ∧
          now.synchronizer.boundary? = some 2 ∧ now.synchronizer.counters.received = 5 ∧
          (closed.run later).1.filterMap Response.bundle? = found.outlet.queue.take 2 ∧
          found.outlet.queue.map (·.pulse) = [1, 2] ∧
          (now.step .receive).1 = .receipt .closed := by
  refine ⟨_, rfl, ?_⟩
  intro before later found closed now
  have h : create (α := Nat) { channels := [⟨"a", 1, 0⟩, ⟨"b", 2, 0⟩] } 0 = .ok _ := rfl
  obtain ⟨⟨hbuffer, hboundary, -, hcounters⟩, -, -, hpush, -⟩ := close_freezes h before later
  obtain ⟨hobtained, -, hreceipt⟩ := hpush nofun
  exact ⟨rfl, hbuffer, hboundary, congrArg Counters.received hcounters, hobtained, rfl, hreceipt⟩

end Session

end PulseJoin
