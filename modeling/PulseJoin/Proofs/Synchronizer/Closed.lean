import PulseJoin.Proofs.Synchronizer.Deliveries
import PulseJoin.Proofs.Synchronizer.Operations

/-!
# Closed synchronizers

Every operation looks at the flag before it touches anything, so once a synchronizer is closed it
stands still: messages are counted as received and refused, nothing is resolved, and what a push
queue held is handed out in order.  No bundle ever meets a closed queue.
-/

namespace PulseJoin

universe u

variable {α : Type u}

namespace Synchronizer

variable {s s' s'' : Synchronizer α} {acts : List (Act α)}

/-- A synchronizer that was closed, as the next operation finds it. -/
structure Shut (s : Synchronizer α) : Prop where
  closed : s.closed = true
  outlet : s.outlet.closed = true
  drained : s.outlet.pulls = true → s.outlet.queue = []

theorem Acts.drained {a : Act α} (h : s.Acts a s') (hclosed : s'.closed = true)
    (hbefore : s.closed = true → s.outlet.pulls = true → s.outlet.queue = [])
    (hpulls : s'.outlet.pulls = true) : s'.outlet.queue = [] := by
  have hshut {t : Synchronizer α} (hopen : t.closed = false) (hafter : s'.closed = t.closed) :
      s'.outlet.queue = [] := by
    rw [hafter, hopen] at hclosed
    cases hclosed
  cases h with
  | remark => exact hbefore hclosed hpulls
  | accept ha => exact hshut ha.1 (s.admitted_accept _).closed
  | look hlook =>
    have hsteady := steady_look hlook
    rw [hsteady.closed] at hclosed
    rw [hsteady.outlet] at hpulls ⊢
    exact hbefore hclosed hpulls
  | @resolve _ now r hopen hr =>
    obtain ⟨w, -, -, -, rfl⟩ := resolveOldest_eq_some hr
    exact hshut hopen (settle_alike (s.remove _) r).2
  | take htake =>
    rw [hbefore hclosed hpulls] at htake
    cases htake
  | close hopen =>
    unfold Synchronizer.close at hpulls ⊢
    rw [hopen] at hpulls ⊢
    exact if_pos hpulls

theorem Runs.shut (h : s.Runs acts s') (hfresh : s.Fresh) (hclosed : s'.closed = true) :
    s'.Shut where
  closed := hclosed
  outlet := (h.sound hfresh).outlet.trans hclosed
  drained := by
    induction h with
    | refl => exact fun _ => hfresh.queue
    | step _ act ih => exact act.drained hclosed fun hbefore => ih hbefore

/-! ## The close -/

theorem close_closed (s : Synchronizer α) : s.close.closed = true := by
  unfold Synchronizer.close
  split
  next hclosed => exact hclosed
  next => rfl

theorem close_fields (s : Synchronizer α) :
    s.close.buffer = s.buffer ∧ s.close.marks = s.marks ∧ s.close.readings = s.readings ∧
      s.close.counters = s.counters ∧
      (s.outlet.pulls = false → s.close.outlet.queue = s.outlet.queue) := by
  unfold Synchronizer.close
  split
  · exact ⟨rfl, rfl, rfl, rfl, fun _ => rfl⟩
  · refine ⟨rfl, rfl, rfl, rfl, fun hpush => ?_⟩
    show (if s.outlet.pulls then [] else s.outlet.queue) = s.outlet.queue
    rw [hpush]
    rfl

/-! ## What may still happen -/

/-- From `s` to `s'` messages came and consumers took bundles from the queue, `messages` and `taken`
of them.  Nothing else moved, what is remarked in the log apart. -/
structure Frozen (s : Synchronizer α) (messages taken : Nat) (s' : Synchronizer α) : Prop where
  buffer : s'.buffer = s.buffer
  marks : s'.marks = s.marks
  readings : s'.readings = s.readings
  counters : s'.counters = { s.counters with received := s.counters.received + .ofNat messages }
  outlet : s'.outlet = { s.outlet with queue := s.outlet.queue.drop taken }
  closed : s'.closed = s.closed

namespace Frozen

variable {m m' k k' : Nat}

theorem refl (s : Synchronizer α) : s.Frozen 0 0 s :=
  ⟨rfl, rfl, rfl, by rw [show UInt64.ofNat 0 = 0 from rfl, UInt64.add_zero], rfl, rfl⟩

theorem trans (h : s.Frozen m k s') (h' : s'.Frozen m' k' s'') :
    s.Frozen (m + m') (k + k') s'' where
  buffer := h'.buffer.trans h.buffer
  marks := h'.marks.trans h.marks
  readings := h'.readings.trans h.readings
  counters := by rw [h'.counters, h.counters, UInt64.ofNat_add, UInt64.add_assoc]
  outlet := by rw [h'.outlet, h.outlet, List.drop_drop]
  closed := h'.closed.trans h.closed

theorem shut (h : s.Frozen m k s') (hshut : s.Shut) : s'.Shut where
  closed := h.closed.trans hshut.closed
  outlet := by rw [h.outlet]; exact hshut.outlet
  drained := by
    rw [h.outlet]
    intro hpulls
    show s.outlet.queue.drop k = []
    rw [hshut.drained hpulls, List.drop_nil]

end Frozen

/-! ## The operations -/

namespace Shut

theorem add (h : s.Shut) (now : UInt64) (m : Message α) :
    s.add now m = (.closed, (s.note .received).note .ignored) := by
  have hrefused : s.refusal? m = some (.closed, .ignored) := if_pos h.closed
  rw [add_eq, hrefused]

theorem frozen_add (h : s.Shut) (now : UInt64) (m : Message α) :
    s.Frozen 1 0 (s.add now m).2 := by
  rw [h.add]
  exact ⟨rfl, rfl, rfl, rfl, rfl, rfl⟩

theorem evictExpired (h : s.Shut) (now : UInt64) : s.evictExpired now = (0, s) := if_pos h.closed

theorem pop (h : s.Shut) : s.pop = (none, s) := by
  unfold Synchronizer.pop Outlet.pop
  rw [h.outlet]
  rfl

theorem frozen_of_pulls (h : s.Shut) (hpulls : s.outlet.pulls = true) (taken : Nat) :
    s.Frozen 0 taken s := by
  obtain ⟨hbuffer, hmarks, hreadings, hcounters, -, hclosed⟩ := Frozen.refl s
  refine ⟨hbuffer, hmarks, hreadings, hcounters, ?_, hclosed⟩
  have hempty : s.outlet.queue.drop taken = s.outlet.queue := by
    rw [h.drained hpulls, List.drop_nil]
  rw [hempty]

theorem receive (h : s.Shut) :
    s.receive.1.bundle? = s.outlet.queue.head? ∧ s.Frozen 0 1 s.receive.2 := by
  unfold Synchronizer.receive Outlet.receive
  cases hpulls : s.outlet.pulls with
  | true =>
    rw [h.drained hpulls]
    exact ⟨rfl, h.frozen_of_pulls hpulls 1⟩
  | false =>
    obtain ⟨hbuffer, hmarks, hreadings, hcounters, -, hclosed⟩ := Frozen.refl s
    have htail := List.drop_one (l := s.outlet.queue)
    cases hhead : s.outlet.queue.head? with
    | some b =>
      refine ⟨rfl, hbuffer, hmarks, hreadings, hcounters, ?_, hclosed⟩
      rw [htail]
      rfl
    | none =>
      rw [List.head?_eq_none_iff] at hhead
      simp only [h.outlet, Bool.false_eq_true, ↓reduceIte]
      refine ⟨rfl, hbuffer, hmarks, hreadings, hcounters, ?_, hclosed⟩
      rw [hhead, List.drop_nil, ← hhead]

theorem receive_push (h : s.Shut) (hpush : s.outlet.pulls = false) :
    s.receive.1 = (s.outlet.queue.head?.map Receipt.bundle).getD .closed := by
  unfold Synchronizer.receive Outlet.receive
  rw [hpush, h.outlet]
  cases s.outlet.queue.head? <;> rfl

theorem tryNext (h : s.Shut) (now : UInt64) :
    (s.tryNext now).1 = s.outlet.queue.head? ∧ s.Frozen 0 1 (s.tryNext now).2 := by
  rw [tryNext_eq]
  split
  next hpulls =>
    rw [h.evictExpired, h.pop, h.drained hpulls]
    exact ⟨rfl, h.frozen_of_pulls hpulls 1⟩
  next => exact h.receive

theorem next (h : s.Shut) (now : UInt64) : (s.next now).1 = none ∧ s.Frozen 0 0 (s.next now).2 := by
  unfold Synchronizer.next
  split
  · unfold pullWithin
    simp only [h.pop, h.evictExpired]
    exact ⟨trivial, .refl s⟩
  · obtain ⟨hbuffer, hmarks, hreadings, hcounters, houtlet, hclosed⟩ := Frozen.refl s
    exact ⟨rfl, hbuffer, hmarks, hreadings, hcounters, houtlet, hclosed⟩

theorem close (h : s.Shut) : s.close = s := if_pos h.closed

end Shut

/-! ## Closed queues -/

/-- No bundle is ever handed to a closed queue. -/
theorem Runs.outletClosed_not_mem (h : s.Runs acts s') (hfresh : s.Fresh)
    (hstart : ∀ p complete, Event.outletClosed p complete ∉ s.journal) :
    ∀ p complete, Event.outletClosed p complete ∉ s'.journal := by
  intro p complete hmem
  rcases h.mem_journal hmem with hold | ⟨before, a, after, t, t', -, hbefore, hact, hnow⟩
  · exact hstart p complete hold
  obtain ⟨u, rfl, -, hend⟩ := hact.resolve_of_settled hnow rfl
  -- Nothing is resolved once the synchronizer is closed, and its queue is closed with it.
  have hopen := (hbefore.sound hfresh).handoff hact.of_resolve.2.1
  have hshut : t.outlet.handoff = .closed := handoff_of_mem_settleEvents .closed hend
  rw [hshut] at hopen
  split at hopen <;> cases hopen

end Synchronizer

end PulseJoin
