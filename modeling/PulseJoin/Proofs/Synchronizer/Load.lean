import PulseJoin.Proofs.Load
import PulseJoin.Proofs.Synchronizer.Waiting

/-!
# Loads that arrive

While a load arrives no resolution is forced, and the first pulse that is resolved is the least one.
So a pulse that the boundary has passed was resolved with all its values, and no message of the load
is left that could come too late for it.  When all messages are in, no pulse has to wait any longer.
-/

namespace PulseJoin

universe u

variable {α : Type u}

namespace Synchronizer

variable {s s' : Synchronizer α} {acts : List (Act α)} {first last : PulseId}
  {sent : List (Message α)}

/-! ## The startup rule switched off -/

theorem startupEvents_of_off (hstartup : s.config.sendFirstComplete = false) (complete : Bool)
    (p : PulseId) : s.startupEvents complete p = [] := by
  unfold startupEvents
  rw [hstartup]
  rfl

theorem startsWith_of_off (hstartup : s.config.sendFirstComplete = false) (a : Arrival α) :
    s.startsWith a = false := by
  unfold startsWith
  rw [hstartup]
  rfl

theorem Runs.boundary_of_no_turn (h : s.Runs acts s') (hfresh : s.Fresh)
    (hstartup : s.config.sendFirstComplete = false) (hturns : Act.turns acts = []) :
    s'.marks.boundary = Int64.minValue := by
  induction h with
  | refl => rw [hfresh.marks]
  | @step t t' acts a hrun hact ih =>
    rw [Act.turns_append, List.append_eq_nil_iff] at hturns
    have hbefore := ih hturns.1
    have halike := hact.alike
    cases hact with
    | accept =>
      have hoff := startsWith_of_off (s := t) (by rw [hrun.frame.config, hstartup])
      rw [(t.admitted_accept _).marks, hoff]
      exact hbefore
    | resolve => cases hturns.2
    | _ =>
      rw [(halike rfl rfl).marks]
      exact hbefore

theorem Runs.startupDiscarded_not_mem (h : s.Runs acts s')
    (hstartup : s.config.sendFirstComplete = false)
    (hstart : ∀ p n q, Event.startupDiscarded p n q ∉ s.journal) :
    ∀ p n q, Event.startupDiscarded p n q ∉ s'.journal := by
  intro p n q hmem
  rcases h.mem_journal hmem with hold | ⟨before, a, after, t, t', -, hbefore, hact, hnow⟩
  · exact hstart p n q hold
  have hoff : t.config.sendFirstComplete = false := by rw [hbefore.frame.config, hstartup]
  cases hact with
  | remark hremark =>
    rw [← List.mem_singleton.1 hnow] at hremark
    cases hremark
  | @accept a =>
    have hnoted : Event.startupDiscarded p n q ∈ t.acceptEvents a := hnow
    obtain ⟨hconfig, -⟩ := t.store_fields a
    unfold acceptEvents at hnoted
    rw [startupEvents_of_off (by rw [hconfig, hoff])] at hnoted
    split at hnoted <;> simp at hnoted
  | @look _ now =>
    have hnoted : Event.startupDiscarded p n q ∈ t.lookEvents now := hnow
    obtain ⟨p', q', hwaits⟩ := mem_lookEvents hnoted
    cases hwaits
  | resolve =>
    rcases List.mem_append.1 hnow with hsettle | hsize
    · cases settled?_settleEvents hsettle
    · cases List.mem_singleton.1 hsize
  | take => cases hnow
  | close => cases List.mem_singleton.1 hnow

/-! ## While a load arrives -/

/-- A run in which the messages of a load arrive, `sent` in this order, up to some of them. -/
structure Carries (s : Synchronizer α) (acts : List (Act α)) (s' : Synchronizer α)
    (first last : PulseId) (sent : List (Message α)) : Prop where
  runs : s.Runs acts s'
  fresh : s.Fresh
  quiet : ∀ e ∈ s.journal, e.settled? = none ∧ ∀ p n q, e ≠ .startupDiscarded p n q
  space : s.config.Spacious (s.schedules.pulsesWithin first last).length
  load : Load s.schedules first last sent
  bottom : Int64.minValue < first
  arrived : (Act.arrivals acts).map (·.message) <+: sent

namespace Carries

variable (h : s.Carries acts s' first last sent)

include h

theorem mem_sent {a : Arrival α} (ha : a ∈ Act.arrivals acts) : a.message ∈ sent :=
  h.arrived.subset (List.mem_map_of_mem ha)

theorem mem_pulses {a : Arrival α} (ha : a ∈ Act.arrivals acts) :
    a.pulse ∈ s.schedules.pulsesWithin first last :=
  (h.load.mem_pulses (h.mem_sent ha)).1

theorem unforced {u : Turn α} (hu : u ∈ Act.turns acts) :
    ¬ u.Forced s.config (Act.arrivals acts) := by
  intro hforced
  rcases hforced with hsize | ⟨limit, -, hlimit, -⟩
  · obtain ⟨before, after, t', hsplit, -, hsound, -, -⟩ := h.runs.turn h.fresh hu
    -- The buffer holds pulses of the load only, each of them once.
    have hle : u.before.buffer.size ≤ (s.schedules.pulsesWithin first last).length := by
      apply hsound.size_le
      intro a ha
      apply h.mem_pulses
      rw [hsplit, Act.arrivals_around]
      exact List.mem_append_left _ ha
    have hbuffer := h.space.buffer
    omega
  · rw [h.space.age] at hlimit
    cases hlimit

theorem complete {u : Turn α} (hu : u ∈ Act.turns acts) : u.bundle.isComplete = true :=
  (h.runs.unforced h.fresh hu (h.unforced hu)).1

theorem arrived_of_turn {u : Turn α} (hu : u ∈ Act.turns acts) {m : Message α} (hm : m ∈ sent)
    (hpulse : m.pulse = u.pulse) : m ∈ (Act.arrivals acts).map (·.message) := by
  have hexpected := (h.load.mem_pulses hm).2
  rw [hpulse] at hexpected
  have hchannel := ((h.runs.isComplete_turn_iff h.fresh hu).1 (h.complete hu) m.channel).2 hexpected
  obtain ⟨a, ha, hsame, hto⟩ := (h.runs.mem_channels_turn h.fresh hu).1 hchannel
  have heq : a.message = m := h.load.unique (h.mem_sent ha) hm hsame (hto.trans hpulse.symm)
  exact heq ▸ List.mem_map_of_mem ha

theorem get?_of_sent {u : Turn α} (hu : u ∈ Act.turns acts) {m : Message α} (hm : m ∈ sent)
    (hpulse : m.pulse = u.pulse) : u.bundle.get? m.channel = some m.payload := by
  obtain ⟨a, ha, hmessage⟩ := List.mem_map.1 (h.arrived_of_turn hu hm hpulse)
  have hsome : (Arrival.latest? (Act.arrivals acts) m.channel u.pulse).isSome = true := by
    rw [Arrival.latest?_isSome_iff]
    refine ⟨a, ha, by rw [hmessage], ?_⟩
    rw [← hpulse, ← hmessage]
    rfl
  obtain ⟨v, hv⟩ := Option.isSome_iff_exists.1 hsome
  rw [h.runs.get?_turn h.fresh hu, hv]
  obtain ⟨a', ha', hfrom, hto, hpayload⟩ := Arrival.mem_of_latest? hv
  -- Only one message was sent from the channel for the pulse.
  have hsame := h.load.unique (h.mem_sent ha') hm hfrom (hto.trans hpulse.symm)
  rw [← hpayload, hsame]

theorem head_of_turn {u : Turn α} {later : List (Turn α)} (hturns : Act.turns acts = u :: later) :
    (s.schedules.pulsesWithin first last).head? = some u.pulse := by
  have hu : u ∈ Act.turns acts := hturns ▸ List.mem_cons_self
  have hstartup : ∀ p n q, Event.startupDiscarded p n q ∉ u.before.journal := by
    obtain ⟨before, -, -, -, hbefore, -⟩ := h.runs.turn h.fresh hu
    exact hbefore.startupDiscarded_not_mem h.space.startup
      fun p n q hmem => (h.quiet _ hmem).2 p n q rfl
  obtain ⟨⟨a, ha, hpulse⟩, hleast⟩ := h.runs.first_turn h.fresh hturns hstartup
  have hin := h.mem_pulses ha
  rw [hpulse] at hin
  cases hhead : (s.schedules.pulsesWithin first last).head? with
  | none =>
    rw [List.head?_eq_none_iff.1 hhead] at hin
    cases hin
  | some least =>
    by_cases hsame : u.pulse = least
    · rw [hsame]
    · exfalso
      -- Some message for the least pulse was sent before the last one for `u`, which has arrived.
      obtain ⟨front, m, back, hsplit, hm, m', hback, hm'⟩ :=
        h.load.opens least hhead u.pulse hin hsame
      have hsent : m' ∈ sent := by
        rw [hsplit]
        exact List.mem_append_right _ (.tail _ hback)
      have hearly := h.load.mem_of_prefix h.arrived hsplit hback (h.arrived_of_turn hu hsent hm')
      obtain ⟨a', ha', hmessage⟩ := List.mem_map.1 hearly
      have hlow := hleast a' ha'
      have hpulse' : a'.pulse = least := by
        rw [← hm, ← hmessage]
        rfl
      have hle := PulseId.le_of_head? (s.schedules.pulsesWithin_ascending first last) hhead hin
      rw [hpulse'] at hlow
      exact hsame (Int64.le_antisymm hlow hle)

theorem turn_of_passed {p : PulseId} (hp : p ∈ s.schedules.pulsesWithin first last)
    (hpassed : p ≤ s'.marks.boundary) : ∃ u ∈ Act.turns acts, u.pulse = p := by
  obtain ⟨hlow, -, hexpected⟩ := ScheduleSet.mem_pulsesWithin.1 hp
  have hbottom := h.bottom
  cases hturns : Act.turns acts with
  | nil =>
    have hstart := h.runs.boundary_of_no_turn h.fresh h.space.startup hturns
    grind
  | cons u later =>
    have hleast := PulseId.le_of_head? (s.schedules.pulsesWithin_ascending first last)
      (h.head_of_turn hturns) hp
    rw [← hturns]
    exact h.runs.turn_of_between h.fresh (fun v hv => h.unforced hv) (by rw [hturns]; rfl)
      hexpected hleast hpassed

theorem next_not_passed {m : Message α}
    (hnext : (Act.arrivals acts).map (·.message) ++ [m] <+: sent) :
    s'.marks.boundary < m.pulse := by
  have hm : m ∈ sent := hnext.subset (List.mem_append_right _ (.head _))
  apply Int64.not_le.1
  intro hpassed
  obtain ⟨u, hu, hpulse⟩ := h.turn_of_passed (h.load.mem_pulses hm).1 hpassed
  have hagain := h.arrived_of_turn hu hm hpulse.symm
  -- Its pulse was resolved, so the message has arrived before.
  have hnodup : ((Act.arrivals acts).map (·.message) ++ [m]).Nodup :=
    h.load.once.of_map.sublist hnext.sublist
  rw [List.nodup_append] at hnodup
  exact hnodup.2.2 m hagain m (.head _) rfl

/-! ## When a load is in -/

variable (hall : (Act.arrivals acts).map (·.message) = sent)

include hall

theorem exists_arrival {p : PulseId} (hp : p ∈ s.schedules.pulsesWithin first last) :
    ∃ a ∈ Act.arrivals acts, a.pulse = p := by
  obtain ⟨m, hm, hpulse⟩ := h.load.exists_message hp
  rw [← hall] at hm
  obtain ⟨a, ha, rfl⟩ := List.mem_map.1 hm
  exact ⟨a, ha, hpulse⟩

theorem expectedCount_le {p : PulseId} {w : Pending α} (hw : (p, w) ∈ s'.buffer.toList) :
    s.schedules.expectedCount p ≤ w.size := by
  have hsound := h.runs.sound h.fresh
  obtain ⟨a, ha, hpulse⟩ := hsound.held.arrived hw
  have hp := h.mem_pulses ha
  rw [hpulse] at hp
  have hkeys : s.schedules.expectedChannels p ⊆ w.values.keys := by
    intro channel hchannel
    obtain ⟨m, hm, hfrom, hto⟩ := (h.load.covers channel p).2 ⟨hp, hchannel⟩
    rw [← hall] at hm
    obtain ⟨a', ha', rfl⟩ := List.mem_map.1 hm
    rw [SortedMap.mem_keys_iff]
    show (w.values.get? channel).isSome = true
    rw [hsound.held.values _ hw channel, Arrival.latest?_isSome_iff]
    exact ⟨a', ha', hfrom, hto⟩
  have hle := ((s.schedules.expectedChannels_nodup p).subperm hkeys).length_le
  rwa [ScheduleSet.length_expectedChannels, SortedMap.length_keys] at hle

theorem no_gap_below {p : PulseId} {w : Pending α} (hfirst : s'.buffer.first? = some (p, w)) :
    ∀ r, s'.marks.reference < r → r < p → s.schedules.expectedCount r = 0 := by
  intro r hlow hhigh
  apply Nat.eq_zero_of_not_pos
  intro hexpected
  have hsound := h.runs.sound h.fresh
  have hmem := (SortedMap.mem_of_first? hfirst).1
  unfold Watermarks.reference at hlow
  rw [PulseId.max_eq] at hlow
  -- Such a pulse would be of the range, so it would have arrived.
  obtain ⟨a, ha, hpulse⟩ := hsound.held.arrived hmem
  have hp := (ScheduleSet.mem_pulsesWithin.1 (h.mem_pulses ha)).2.1
  have hr : r ∈ s.schedules.pulsesWithin first last := by
    rcases hsound.seen.attained with ⟨hnone, -⟩ | ⟨b, hb, hleast⟩
    · rw [hnone] at ha
      cases ha
    · have hfrom := (ScheduleSet.mem_pulsesWithin.1 (h.mem_pulses hb)).1
      exact ScheduleSet.mem_pulsesWithin.2 ⟨by grind, by grind, hexpected⟩
  obtain ⟨b, hb, hsame⟩ := h.exists_arrival hall hr
  rcases hsound.held.le_or_le hfirst hb with hpassed | hlater
  · grind
  · grind

theorem buffer_empty (hsettled : s'.Settled) : s'.buffer.toList = [] := by
  rw [← SortedMap.first?_eq_none_iff]
  cases hfirst : s'.buffer.first? with
  | none => rfl
  | some e =>
    obtain ⟨p, w⟩ := e
    -- Complete and next, its oldest pulse would have left.
    have hsize := h.expectedCount_le hall (SortedMap.mem_of_first? hfirst).1
    have hgap := h.no_gap_below hall hfirst
    rw [← h.runs.frame.schedules] at hsize hgap
    exact absurd (verdict_of_next hsize hgap 0) (verdict_ne_ready (hsettled 0) hfirst _)

/-- At rest, the pulses of the load were resolved, each once and in ascending order. -/
theorem turns_eq (hsettled : s'.Settled) :
    (Act.turns acts).map Turn.pulse = s.schedules.pulsesWithin first last := by
  have hsound := h.runs.sound h.fresh
  have hempty := h.buffer_empty hall hsettled
  have hascending : ((Act.turns acts).map Turn.pulse).Pairwise (· < ·) :=
    List.pairwise_map.2 (h.runs.ascending h.fresh)
  have hwithin := s.schedules.pulsesWithin_ascending first last
  have hmem : ∀ p, p ∈ (Act.turns acts).map Turn.pulse ↔
      p ∈ s.schedules.pulsesWithin first last := by
    intro p
    constructor
    · intro hp
      obtain ⟨u, hu, rfl⟩ := List.mem_map.1 hp
      obtain ⟨a, ha, hpulse⟩ := h.runs.arrival_of_turn h.fresh hu
      exact hpulse ▸ h.mem_pulses ha
    · intro hp
      obtain ⟨a, ha, rfl⟩ := h.exists_arrival hall hp
      rcases hsound.held.kept a ha with hpassed | hbuffered
      · exact List.mem_map.2 (h.turn_of_passed hp hpassed)
      · obtain ⟨w, hw⟩ := SortedMap.contains_iff.1 hbuffered
        rw [hempty] at hw
        cases hw
  -- Two ascending lists with the same members are equal.
  have hperm := (List.perm_ext_iff_of_nodup (hascending.imp Int64.ne_of_lt)
    (hwithin.imp Int64.ne_of_lt)).2 hmem
  exact hperm.eq_of_pairwise
    (fun p q _ _ hpq hqp => absurd (Int64.lt_trans hpq hqp) Int64.lt_irrefl) hascending hwithin

end Carries

end Synchronizer

end PulseJoin
