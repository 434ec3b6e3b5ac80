import PulseJoin.Proofs.Synchronizer.Gaps

/-!
# Deliveries in the journal

The journal says which pulses were handed to the outlet.  A complete pulse is refused by a full
queue only, and the queue is not full as long as it has a place for each resolved pulse.
-/

namespace PulseJoin

universe u

variable {α : Type u}

def Event.delivered? : Event → Option PulseId
  | .delivered p _ => some p
  | _ => none

namespace Synchronizer

variable {s s' : Synchronizer α} {acts : List (Act α)} {u : Turn α}

/-- The pulses delivered so far, the earliest first. -/
def delivered (s : Synchronizer α) : List PulseId := s.journal.reverse.filterMap Event.delivered?

theorem Sound.handoff (h : Sound acts s) (hopen : s.closed = false) :
    s.outlet.handoff = if s.outlet.isFull then .full else .accepted := by
  unfold Outlet.handoff
  rw [h.outlet, hopen]
  rfl

theorem events_of_complete (hcomplete : u.bundle.isComplete = true) :
    s.events (.resolve u) = [s.outlet.handoff.event u.pulse true,
      .occupancy (s.buffer.erase u.pulse).size] := by
  show (s.remove u.pulse).settleEvents u.resolution ++ _ = _
  rw [settleEvents_of_complete _ hcomplete]
  rfl

theorem Runs.incomplete_of_mem_journal (h : s.Runs acts s') {p : PulseId} {e : Event}
    (hnew : e ∉ s.journal) (he : e ∈ s'.journal)
    (hcut : e = .delivered p false ∨ ∃ expected received pressure kept,
      e = .cutShort p expected received pressure kept) :
    ∃ u ∈ Act.turns acts, u.pulse = p ∧ u.bundle.isComplete = false := by
  rcases h.mem_journal he with hold | ⟨before, a, after, t, t', hsplit, -, hact, hmem⟩
  · exact absurd hold hnew
  have hsettled : e.settled? = some p := by
    rcases hcut with rfl | ⟨expected, received, pressure, kept, rfl⟩ <;> rfl
  obtain ⟨u, rfl, hpulse, hend⟩ := hact.resolve_of_settled hmem hsettled
  refine ⟨u, Act.mem_turns.2 (by rw [hsplit]; simp), hpulse, ?_⟩
  -- A complete pulse would have ended with another event.
  rw [← Bool.not_eq_true]
  intro hcomplete
  rw [settleEvents_of_complete _ hcomplete, List.mem_singleton] at hend
  rcases hcut with rfl | ⟨expected, received, pressure, kept, rfl⟩
  · cases hhandoff : (t.remove u.pulse).outlet.handoff <;> rw [hhandoff] at hend <;> cases hend
  · cases hhandoff : (t.remove u.pulse).outlet.handoff <;> rw [hhandoff] at hend <;> cases hend

theorem Sound.accepted (h : Sound acts s) (hact : s.Acts (.resolve u) s')
    (hcomplete : u.bundle.isComplete = true)
    (hroom : ∀ p complete, Event.queueFull p complete ∉ s'.journal) :
    s.outlet.handoff = .accepted := by
  have hjournal := hact.notes.journal
  rw [events_of_complete hcomplete] at hjournal
  have hhandoff := h.handoff hact.of_resolve.2.1
  by_cases hfull : s.outlet.isFull = true
  · rw [hhandoff, if_pos hfull] at hjournal
    exact absurd (hjournal ▸ List.mem_cons_self) (hroom u.pulse true)
  · rw [hhandoff, if_neg hfull]

/-! ## The queue -/

theorem Acts.closed_eq {a : Act α} (h : s.Acts a s') :
    s'.closed = (s.closed || Act.closes [a]) := by
  cases h with
  | remark => exact (Bool.or_false _).symm
  | accept => exact (s.admitted_accept _).closed.trans (Bool.or_false _).symm
  | look h => exact (steady_look h).closed.trans (Bool.or_false _).symm
  | resolve hopen h =>
    obtain ⟨w, -, -, -, rfl⟩ := resolveOldest_eq_some h
    exact (settle_alike (s.remove _) _).2.trans (Bool.or_false _).symm
  | take => exact (Bool.or_false _).symm
  | close hopen =>
    unfold Synchronizer.close
    rw [hopen]
    rfl

theorem Runs.closed_eq (h : s.Runs acts s') : s'.closed = (s.closed || Act.closes acts) := by
  induction h with
  | refl => exact (Bool.or_false _).symm
  | step _ act ih =>
    rw [act.closed_eq, ih, Bool.or_assoc, Act.closes_append]

theorem Acts.outlet_eq {a : Act α} (h : s.Acts a s') (hturns : Act.turns [a] = [])
    (htaken : Act.taken [a] = []) (hopen : Act.closes [a] = false) : s'.outlet = s.outlet := by
  cases h with
  | remark => rfl
  | accept => exact (s.admitted_accept _).outlet
  | look h => exact (steady_look h).outlet
  | resolve => cases hturns
  | take => cases htaken
  | close => cases hopen

theorem handoff_of_mem_settleEvents (handoff : Handoff) {r : Resolution α} {p : PulseId}
    {complete : Bool} (h : handoff.event p complete ∈ s.settleEvents r) :
    s.outlet.handoff = handoff := by
  unfold settleEvents at h
  rcases List.mem_append.1 h with hdelivery | hcut
  · split at hdelivery
    · have heq := List.mem_singleton.1 hdelivery
      cases hcase : s.outlet.handoff <;> rw [hcase] at heq <;> cases handoff <;>
        first | rfl | cases heq
    · cases hdelivery
  · split at hcut
    · cases hcut
    · have heq := List.mem_singleton.1 hcut
      cases handoff <;> cases heq

theorem Runs.queueFull_not_mem (h : s.Runs acts s') (hfresh : s.Fresh)
    (hstart : ∀ p complete, Event.queueFull p complete ∉ s.journal)
    (hroom : ∀ capacity, s.outlet.mode = .push capacity →
      (Act.turns acts).length ≤ capacity.toNat) :
    ∀ p complete, Event.queueFull p complete ∉ s'.journal := by
  intro p complete hmem
  rcases h.mem_journal hmem with hold | ⟨before, a, after, t, t', hsplit, hbefore, hact, hnow⟩
  · exact hstart p complete hold
  obtain ⟨u, rfl, -, hend⟩ := hact.resolve_of_settled hnow rfl
  have hhandoff : t.outlet.handoff = .full := handoff_of_mem_settleEvents .full hend
  -- The queue would hold as many bundles as pulses were resolved before.
  have hlength : t.outlet.queue.length ≤ (Act.turns before).length := by
    have hle := (hbefore.sound hfresh).queue.length_le
    have hfilter := List.length_filter_le t.wants ((Act.turns before).map Turn.bundle)
    rw [List.length_append] at hle
    rw [List.length_map] at hfilter
    omega
  have hcount : (Act.turns before).length < (Act.turns acts).length := by
    have hone : (Act.turns [Act.resolve u]).length = 1 := rfl
    rw [hsplit, Act.turns_append, Act.turns_append, List.length_append, List.length_append]
    omega
  unfold Outlet.handoff Outlet.isFull at hhandoff
  rw [hbefore.frame.mode] at hhandoff
  cases hmode : s.outlet.mode with
  | push capacity =>
    have hplaces := hroom capacity hmode
    have hnotfull : ¬ capacity.toNat ≤ t.outlet.queue.length := by omega
    rw [hmode] at hhandoff
    simp only [hnotfull, decide_false] at hhandoff
    split at hhandoff <;> cases hhandoff
  | pull =>
    rw [hmode] at hhandoff
    split at hhandoff <;> cases hhandoff

/-! ## The counters -/

theorem Sound.finding_replaced (h : Sound acts s) {a : Arrival α}
    (hnew : ∀ a' ∈ Act.arrivals acts, a'.message.channel = a.message.channel →
      a'.pulse ≠ a.pulse) : (s.finding a).replaced = false := by
  show (s.buffer.entry a.pulse a.clock).values.contains a.message.channel = false
  rcases s.buffer.entry_cases a.pulse a.clock with hold | ⟨-, hempty⟩
  · show ((s.buffer.entry a.pulse a.clock).values.get? a.message.channel).isSome = false
    rw [h.held.values _ hold, ← Bool.not_eq_true, Arrival.latest?_isSome_iff]
    intro ⟨a', ha', hchannel, hpulse⟩
    exact hnew a' ha' hchannel hpulse
  · rw [hempty]
    rfl

theorem acceptEvents_of_new {a : Arrival α} (hstartup : s.config.sendFirstComplete = false)
    (hnew : (s.finding a).replaced = false) :
    s.acceptEvents a = [.buffered, .occupancy (s.accept a.clock a.message).buffer.size] := by
  obtain ⟨hconfig, -⟩ := s.store_fields a
  unfold acceptEvents startupEvents
  rw [hconfig, hstartup, hnew]
  rfl

/-- If each value arrived once, all resolved pulses were complete and the queue was never full, then
nothing but the messages, those taken in and the complete pulses was counted. -/
theorem Runs.counters_eq (h : s.Runs acts s') (hfresh : s.Fresh) (hstart : s.counters = {})
    (hstartup : s.config.sendFirstComplete = false)
    (hremarks : ∀ e ∈ Act.remarks acts, e = .received ∨ e = .pullWithoutQueue)
    (honce : ((Act.arrivals acts).map fun a => (a.message.channel, a.pulse)).Nodup)
    (hcomplete : ∀ v ∈ Act.turns acts, v.bundle.isComplete = true)
    (hroom : ∀ p complete, Event.queueFull p complete ∉ s'.journal) :
    s'.counters = { received := .ofNat ((Act.remarks acts).count .received),
                    buffered := .ofNat (Act.arrivals acts).length,
                    complete := .ofNat (Act.turns acts).length } := by
  induction h with
  | refl => exact hstart
  | @step t t' acts a hrun hact ih =>
    -- What is asked of the whole run holds of the run before its last action.
    have hbefore := ih
      (fun e he => hremarks e (by rw [Act.remarks_append]; exact List.mem_append_left _ he))
      (by
        rw [Act.arrivals_append, List.map_append] at honce
        exact honce.of_append_left)
      (fun v hv => hcomplete v (Act.subset_turns acts [a] hv))
      (fun p complete hmem => hroom p complete (hact.run.journal_suffix.subset hmem))
    have hsound := hrun.sound hfresh
    rw [hact.notes.counters, hbefore, Act.remarks_append, Act.arrivals_append, Act.turns_append]
    cases a with
    | remark e =>
      rcases hremarks e (by rw [Act.remarks_append]; simp [Act.remarks]) with rfl | rfl
      · simp [events, Counters.count, Act.remarks, Act.arrivals, Act.turns]
      · simp [events, Counters.count, Act.remarks, Act.arrivals, Act.turns]
    | accept a =>
      -- A value that is replaced would have arrived twice.
      have hnew : (t.finding a).replaced = false := by
        apply hsound.finding_replaced
        intro a' ha' hchannel hpulse
        rw [Act.arrivals_append, List.map_append, List.nodup_append] at honce
        exact honce.2.2 _ (List.mem_map_of_mem ha') _ (List.mem_map_of_mem (.head _))
          (Prod.ext hchannel hpulse)
      have hconfig : t.config.sendFirstComplete = false := by rw [hrun.frame.config, hstartup]
      show (t.acceptEvents a).foldr _ _ = _
      rw [acceptEvents_of_new hconfig hnew]
      simp [Counters.count, Act.remarks, Act.arrivals, Act.turns]
    | look now =>
      show (t.lookEvents now).foldr _ _ = _
      rcases t.lookEvents_cases now with hnone | ⟨p, q, hwaits⟩
      · rw [hnone]
        simp [Act.remarks, Act.arrivals, Act.turns]
      · rw [hwaits]
        simp [Counters.count, Act.remarks, Act.arrivals, Act.turns]
    | resolve u =>
      have hlast := hcomplete u (Act.mem_turns_concat acts u)
      rw [events_of_complete hlast, hsound.accepted hact hlast hroom]
      simp [Handoff.event, Counters.count, Act.remarks, Act.arrivals, Act.turns]
    | take b => simp [events, Act.remarks, Act.arrivals, Act.turns]
    | close => simp [events, Counters.count, Act.remarks, Act.arrivals, Act.turns]

end Synchronizer

end PulseJoin
