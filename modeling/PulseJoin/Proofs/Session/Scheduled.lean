import PulseJoin.Proofs.Session.Conservation
import PulseJoin.Proofs.Synchronizer.Turns

/-!
# Values on schedule, each sent once

A message on schedule is only refused for coming too late or after the close, and a value that is
the first of its channel for its pulse replaces none.  So of such messages nothing is counted but
that they were received, taken in or stale (`counters_of_scheduled`).
-/

namespace PulseJoin

universe u

variable {α : Type u}

namespace Synchronizer

variable {s s' : Synchronizer α} {m : Message α} {acts : List (Act α)}

/-! ## Refusals -/

theorem refusal?_of_scheduled (h : m.channel ∈ s.schedules.expectedChannels m.pulse) {o : Outcome}
    {e : Event} (hrefusal : s.refusal? m = some (o, e)) :
    e = .ignored ∨ e = .stale m.channel m.pulse s.marks.boundary := by
  obtain ⟨r, hr, hexpects, hname⟩ := ScheduleSet.mem_expectedChannels.1 h
  unfold refusal? at hrefusal
  rw [ScheduleSet.get?_eq_some_iff.2 ⟨hr, hname⟩] at hrefusal
  simp only [hexpects, Bool.not_true, Bool.false_eq_true, if_false] at hrefusal
  split at hrefusal
  · cases hrefusal
    exact .inl rfl
  · split at hrefusal
    · cases hrefusal
      exact .inr rfl
    · cases hrefusal

theorem closed_of_add {now : UInt64} (h : (s.add now m).1 = .closed) : s.closed = true := by
  rw [add_eq] at h
  rcases hrefusal : s.refusal? m with _ | ⟨o, e⟩
  · rw [hrefusal] at h
    cases h
  · rw [hrefusal] at h
    cases h
    unfold refusal? at hrefusal
    by_contra hopen
    rw [if_neg hopen] at hrefusal
    split at hrefusal
    · cases hrefusal
    · split at hrefusal
      · cases hrefusal
      · split at hrefusal
        · cases hrefusal
        · cases hrefusal

/-! ## Duplicates -/

theorem Runs.tally_duplicates (h : s.Runs acts s') (hfresh : s.Fresh)
    (hstart : s.tally .duplicates = 0)
    (honce : ((Act.arrivals acts).map fun a => (a.message.channel, a.pulse)).Nodup) :
    s'.tally .duplicates = 0 := by
  induction h with
  | refl => exact hstart
  | @step t t' acts a hrun hact ih =>
    rw [Act.arrivals_append, List.map_append] at honce
    rw [hact.notes.tally, ih honce.of_append_left, Nat.add_zero]
    cases a with
    | remark e =>
      have hremark : e.isRemark = true := by
        cases hact
        assumption
      exact adds_of_isRemark hremark (by decide)
    | accept a =>
      -- No earlier arrival was of the same channel and pulse.
      have hnew : (t.finding a).replaced = false := by
        apply (hrun.sound hfresh).finding_replaced
        intro a' ha' hchannel hpulse
        exact (List.nodup_append.1 honce).2.2 _ (List.mem_map_of_mem ha') _
          (List.mem_map_of_mem (.head _)) (Prod.ext hchannel hpulse)
      show Tally.duplicates.sum (t.acceptEvents a) = 0
      rw [sum_acceptEvents, hnew]
      rfl
    | look now => exact sum_lookEvents t now _
    | resolve u => exact sum_resolve_eq_zero (by decide)
    | take b => rfl
    | close => rfl

end Synchronizer

namespace Session

variable {c : Config} {clock : UInt64} {t : Session α} {ops : List (Op α)}

theorem schedules_step (t : Session α) (op : Op α) :
    (t.step op).2.synchronizer.schedules = t.synchronizer.schedules := by
  obtain ⟨acts, hruns, -⟩ := t.performs_step op
  exact hruns.frame.schedules

theorem closed_step {op : Op α} (h : (t.step op).2.synchronizer.closed = true) :
    t.synchronizer.closed = true ∨ op = .close := by
  obtain ⟨acts, hruns, hacts⟩ := t.performs_step op
  have hcloses : Act.closes acts = (t.historyOf op).closed := congrArg History.closed hacts
  rw [hruns.closed_eq, hcloses, Bool.or_eq_true] at h
  refine h.imp_right fun hclosed => ?_
  cases op with
  | close => rfl
  | _ => cases hclosed

theorem sum_history_of_scheduled (hscheduled : ∀ m ∈ ops.filterMap Op.message?,
      m.channel ∈ t.synchronizer.schedules.expectedChannels m.pulse) :
    Tally.unknownChannel.sum (t.history ops).remarks = 0 ∧
      Tally.offSchedule.sum (t.history ops).remarks = 0 := by
  induction ops generalizing t with
  | nil => exact ⟨rfl, rfl⟩
  | cons op ops ih =>
    -- An operation leaves the schedules as they are.
    have hlater : ∀ m ∈ ops.filterMap Op.message?,
        m.channel ∈ (t.step op).2.synchronizer.schedules.expectedChannels m.pulse := by
      intro m hm
      rw [schedules_step]
      obtain ⟨op', hop', hmessage⟩ := List.mem_filterMap.1 hm
      exact hscheduled m (List.mem_filterMap.2 ⟨op', .tail _ hop', hmessage⟩)
    have hfirst : Tally.unknownChannel.sum (t.historyOf op).remarks = 0 ∧
        Tally.offSchedule.sum (t.historyOf op).remarks = 0 := by
      cases op with
      | add m =>
        show Tally.unknownChannel.sum (t.synchronizer.addHistory t.clock m).remarks = 0 ∧
          Tally.offSchedule.sum (t.synchronizer.addHistory t.clock m).remarks = 0
        unfold Synchronizer.addHistory
        rcases hrefusal : t.synchronizer.refusal? m with _ | ⟨o, e⟩
        · exact ⟨rfl, rfl⟩
        · rcases Synchronizer.refusal?_of_scheduled (hscheduled m (.head _)) hrefusal
            with rfl | rfl <;> exact ⟨rfl, rfl⟩
      | next =>
        unfold historyOf Synchronizer.nextRemarks
        cases t.synchronizer.outlet.pulls <;> exact ⟨rfl, rfl⟩
      | _ => exact ⟨rfl, rfl⟩
    obtain ⟨hunknown, hoff⟩ := ih hlater
    show Tally.sum _ ((t.historyOf op).remarks ++ _) = 0 ∧ Tally.sum _ (_ ++ _) = 0
    rw [Tally.sum_append, Tally.sum_append, hfirst.1, hfirst.2, hunknown, hoff]
    exact ⟨rfl, rfl⟩

theorem takenIn_sublist (ops : List (Op α)) (responses : List (Response α)) :
    (takenIn ops responses).Sublist (ops.filterMap Op.message?) := by
  induction ops generalizing responses with
  | nil => exact .slnil
  | cons op ops ih =>
    cases responses with
    | nil => exact List.nil_sublist _
    | cons r rs =>
      have hmessages : (op :: ops).filterMap Op.message? =
          [op].filterMap Op.message? ++ ops.filterMap Op.message? :=
        List.filterMap_append (l := [op])
      rw [takenIn_cons, hmessages]
      refine .append ?_ (ih rs)
      cases op with
      | add m =>
        cases r with
        | outcome o => cases o <;> first | exact .refl _ | exact List.nil_sublist _
        | _ => exact List.nil_sublist _
      | _ => exact List.nil_sublist _

/-! ## Counters and bundles -/

theorem duplicates_of_once (h : create c clock = .ok t)
    (honce : ((ops.filterMap Op.message?).map fun m => (m.channel, m.pulse)).Nodup) :
    (t.run ops).2.synchronizer.tally .duplicates = 0 := by
  obtain ⟨acts, hruns, hacts, -⟩ := sound_run h ops
  refine hruns.tally_duplicates (new_of_create h).fresh (tally_of_create h _) ?_
  have hmessages : (Act.arrivals acts).map (·.message) = takenIn ops (t.run ops).1 := by
    rw [← arrivals_history, ← hacts]
    rfl
  have hpairs : (Act.arrivals acts).map (fun a => (a.message.channel, a.pulse)) =
      (takenIn ops (t.run ops).1).map fun m => (m.channel, m.pulse) := by
    rw [← hmessages, List.map_map]
    rfl
  rw [hpairs]
  exact honce.sublist ((takenIn_sublist ops _).map _)

/-- Of messages on schedule, each value sent once, none is of an unknown channel, off schedule or a
duplicate, whatever their order and whatever else is asked for: each is taken in, stale or too late
for the close. -/
theorem counters_of_scheduled (h : create c clock = .ok t)
    (hscheduled : ∀ m ∈ ops.filterMap Op.message?,
      m.channel ∈ t.synchronizer.schedules.expectedChannels m.pulse)
    (honce : ((ops.filterMap Op.message?).map fun m => (m.channel, m.pulse)).Nodup)
    (hfew : (ops.filterMap Op.message?).length < UInt64.size) :
    let counters := (t.run ops).2.synchronizer.counters
    counters.unknownChannel = 0 ∧ counters.offSchedule = 0 ∧ counters.duplicates = 0 ∧
      counters.received.toNat = (ops.filterMap Op.message?).length ∧
      (t.history ops).arrivals.length + counters.stale.toNat +
        (t.run ops).1.countP Response.isClosed = (ops.filterMap Op.message?).length := by
  intro counters
  have hcount (k : Tally) := toNat_get h ops (Nat.lt_of_le_of_lt (tally_le h ops k) hfew)
  have hbuffered := tally_buffered h ops
  obtain ⟨hunknown, hoff⟩ := sum_history_of_scheduled hscheduled
  -- A message that is not taken in leaves a remark under the counter of its outcome.
  rw [← tally_of_remarks h ops (by decide)] at hunknown hoff
  obtain ⟨hreceived, hsplit⟩ := tally_messages h ops
  refine ⟨?_, ?_, ?_, ?_, ?_⟩
  · exact UInt64.toNat_inj.1 ((hcount .unknownChannel).trans hunknown)
  · exact UInt64.toNat_inj.1 ((hcount .offSchedule).trans hoff)
  · exact UInt64.toNat_inj.1 ((hcount .duplicates).trans (duplicates_of_once h honce))
  · exact (hcount .received).trans hreceived
  · have hstale : counters.stale.toNat = (t.run ops).2.synchronizer.tally .stale := hcount .stale
    omega

theorem obtained_of_run (h : create c clock = .ok t) (ops : List (Op α)) :
    ((t.run ops).1.filterMap Response.bundle?).Pairwise (fun b b' => b.pulse < b'.pulse) ∧
      ((t.run ops).1.filterMap Response.bundle?).length ≤ (ops.filterMap Op.message?).length := by
  constructor
  · obtain ⟨acts, hruns, hacts, hsound⟩ := sound_run h ops
    have hturns : ((Act.turns acts).map Turn.bundle).Pairwise fun b b' => b.pulse < b'.pulse :=
      List.pairwise_map.2 (hruns.ascending (new_of_create h).fresh)
    have htaken : (Act.taken acts).Sublist ((Act.turns acts).map Turn.bundle) :=
      ((List.sublist_append_left _ _).trans hsound.queue).trans List.filter_sublist
    rw [← obtained_history, ← hacts]
    exact hturns.sublist htaken
  · obtain ⟨hentered, hdelivered, -⟩ := tally_bundles h ops
    have hlength := congrArg List.length hentered
    rw [List.length_map, List.length_append, List.length_append] at hlength
    have hpulses := tally_pulses h ops
    have hcard := List.toFinset_card_le ((takenIn ops (t.run ops).1).map (·.pulse))
    rw [List.length_map] at hcard
    have hmessages := (takenIn_sublist ops (t.run ops).1).length_le
    dsimp only at hpulses hdelivered
    omega

end Session

end PulseJoin
