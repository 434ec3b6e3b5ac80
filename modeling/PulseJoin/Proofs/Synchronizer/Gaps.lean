import PulseJoin.Proofs.Schedule.Gap
import PulseJoin.Proofs.Synchronizer.Journal
import PulseJoin.Proofs.Synchronizer.Turns

/-!
# Resolutions without force

A resolution is forced if the buffer is over its limit, or the pulse over its age.  Without force a
pulse is only resolved when it is complete and no pulse between the boundary and it is expected on
any channel, so nothing is ever skipped.
-/

namespace PulseJoin

universe u

variable {α : Type u}

open Arrival

/-- Whether a resolution was forced, by the number of buffered pulses or by the time since the first
of the `arrivals` for the pulse; a clock that went back behind that time gives no age. -/
def Turn.Forced (u : Turn α) (c : Config) (arrivals : List (Arrival α)) : Prop :=
  c.maxBuffered.toNat < u.before.buffer.size ∨
    ∃ limit a, c.maxAge? = some limit ∧ first? arrivals u.pulse = some a ∧
      limit.toNat < u.clock.toNat - a.clock.toNat

theorem Turn.Forced.append {u : Turn α} {c : Config} {arrivals : List (Arrival α)}
    (h : u.Forced c arrivals) (later : List (Arrival α)) : u.Forced c (arrivals ++ later) := by
  rcases h with hsize | ⟨limit, a, hlimit, hfirst, hage⟩
  · exact .inl hsize
  · exact .inr ⟨limit, a, hlimit, first?_append_of_some hfirst later, hage⟩

theorem Pending.toNat_age (w : Pending α) (now : UInt64) :
    (w.age now).toNat = now.toNat - w.createdAt.toNat := by
  unfold age
  split
  next h =>
    rw [UInt64.le_iff_toNat_le] at h
    rw [Nat.sub_eq_zero_of_le h]
    rfl
  next h =>
    rw [UInt64.le_iff_toNat_le] at h
    exact UInt64.toNat_sub_of_le _ _ (UInt64.le_iff_toNat_le.2 (by omega))

namespace Synchronizer

variable {s s' : Synchronizer α} {acts : List (Act α)} {u : Turn α}

/-! ## The verdict -/

theorem pressure?_eq_none_iff {now : UInt64} {w : Pending α} :
    s.pressure? now w = none ↔ s.buffer.size ≤ s.config.maxBuffered.toNat ∧
      ∀ limit, s.config.maxAge? = some limit → w.age now ≤ limit := by
  unfold pressure?
  by_cases hsize : s.config.maxBuffered.toNat < s.buffer.size
  · simp [hsize]
  · cases hlimit : s.config.maxAge? with
    | none => simp [hsize, Nat.not_lt.1 hsize]
    | some limit => simp [hsize, Nat.not_lt.1 hsize]

theorem verdict_eq_ready_iff {now : UInt64} {p : PulseId} {w : Pending α}
    (hnone : s.pressure? now w = none) :
    (∃ pressure, s.verdict now p w = .ready pressure) ↔ s.schedules.expectedCount p ≤ w.size ∧
      Schedule.pulseMissing s.schedules.toList s.marks.reference p = false := by
  unfold verdict
  rw [hnone]
  by_cases hsize : w.size < s.schedules.expectedCount p
  · simp [hsize]
  · cases Schedule.pulseMissing s.schedules.toList s.marks.reference p
    · simp [hsize, Nat.not_lt.1 hsize]
    · simp [hsize]

theorem pulseMissing_eq_false_iff {p q : PulseId} :
    Schedule.pulseMissing s.schedules.toList p q = false ↔
      ∀ r, p < r → r < q → s.schedules.expectedCount r = 0 := by
  rw [← Bool.not_eq_true, Schedule.pulseMissing_eq_true_iff fun _ => s.schedules.period_pos]
  constructor
  · intro h r hlow hhigh
    refine Nat.eq_zero_of_not_pos fun hpos => h ?_
    exact ⟨r, hlow, hhigh, ScheduleSet.expectedCount_pos_iff.1 hpos⟩
  · intro h ⟨r, hlow, hhigh, hr⟩
    have hpos := ScheduleSet.expectedCount_pos_iff.2 hr
    rw [h r hlow hhigh] at hpos
    exact Nat.lt_irrefl 0 hpos

/-- Without force, a pulse is resolved complete, with no pulse missing since the reference. -/
theorem Runs.unforced (h : s.Runs acts s') (hfresh : s.Fresh) (hu : u ∈ Act.turns acts)
    (hunforced : ¬ u.Forced s.config (Act.arrivals acts)) :
    u.bundle.isComplete = true ∧ ∀ r, u.before.marks.reference < r → r < u.pulse →
      s.schedules.expectedCount r = 0 := by
  obtain ⟨before, after, t', hsplit, hbefore, hsound, hact, -⟩ := h.turn hfresh hu
  obtain ⟨-, -, -, w, hfirst, hverdict, hbundle⟩ := hact.of_resolve
  obtain ⟨hconfig, hschedules, -⟩ := hbefore.frame
  have hnone : u.before.pressure? u.clock w = none := by
    rw [pressure?_eq_none_iff, hconfig]
    refine ⟨Nat.not_lt.1 fun hsize => hunforced (.inl hsize), fun limit hlimit => ?_⟩
    obtain ⟨a, ha, hclock⟩ := Option.map_eq_some_iff.1
      (hsound.held.created _ (SortedMap.mem_of_first? hfirst).1)
    have hin : first? (Act.arrivals acts) u.pulse = some a := by
      rw [hsplit, Act.arrivals_around]
      exact first?_append_of_some ha _
    rw [UInt64.le_iff_toNat_le, Pending.toNat_age, ← hclock]
    exact Nat.not_lt.1 fun hage => hunforced (.inr ⟨limit, a, hlimit, hin, hage⟩)
  obtain ⟨hsize, hgap⟩ := (verdict_eq_ready_iff hnone).1 ⟨_, hverdict⟩
  rw [pulseMissing_eq_false_iff, hschedules] at hgap
  refine ⟨?_, hgap⟩
  rw [hbundle]
  exact decide_eq_true hsize

/-! ## No gaps -/

/-- Without force, no pulse between the boundary and the resolved one is expected. -/
theorem Runs.no_gap (h : s.Runs acts s') (hfresh : s.Fresh) (hu : u ∈ Act.turns acts)
    (hunforced : ¬ u.Forced s.config (Act.arrivals acts)) {p : PulseId}
    (hmoved : u.before.marks.boundary ≠ Int64.minValue) (hlow : u.before.marks.boundary < p)
    (hhigh : p < u.pulse) : s.schedules.expectedCount p = 0 := by
  obtain ⟨before, after, t', -, hbefore, hsound, hact, -⟩ := h.turn hfresh hu
  obtain ⟨-, -, -, w, hfirst, -⟩ := hact.of_resolve
  obtain ⟨-, hgap⟩ := h.unforced hfresh hu hunforced
  have hsmallest : u.before.marks.smallestSeen ≤ p := by
    rcases hsound.seen.moved with hstart | hmoved'
    · exact absurd hstart hmoved
    · exact hmoved' p hlow
  by_cases href : u.before.marks.smallestSeen = p
  · -- Then the least arrival lies between the boundary and the oldest pulse.
    exfalso
    have hsome : ∃ a ∈ Act.arrivals before, a.pulse = p := by
      rcases hsound.seen.attained with ⟨-, hmax⟩ | ⟨a, ha, hpulse⟩
      · have hle := PulseId.le_maxValue u.pulse
        grind
      · exact ⟨a, ha, hpulse.trans href⟩
    obtain ⟨a, ha, rfl⟩ := hsome
    rcases hsound.held.le_or_le hfirst ha with hpassed | hlater
    · exact Int64.not_le.2 hlow hpassed
    · exact Int64.not_le.2 hhigh hlater
  · refine hgap p ?_ hhigh
    unfold Watermarks.reference
    rw [PulseId.max_eq]
    grind

/-- Before the first resolution, and unless the startup rule sets pulses aside, all that arrived is
buffered. -/
theorem Runs.buffered_of_no_turn (h : s.Runs acts s') (hturns : Act.turns acts = [])
    (hstartup : ∀ p n q, Event.startupDiscarded p n q ∉ s'.journal) :
    ∀ a ∈ Act.arrivals acts, s'.buffer.contains a.pulse = true := by
  induction h with
  | refl => exact fun a ha => nomatch ha
  | @step t t' acts a hrun hact ih =>
    rw [Act.turns_append, List.append_eq_nil_iff] at hturns
    have hnotes := hact.notes.journal
    have hbefore := ih hturns.1 fun p n q hmem =>
      hstartup p n q (hact.run.journal_suffix.subset hmem)
    rw [Act.arrivals_append]
    have halike := hact.alike
    cases hact with
    | @accept a ha =>
      have hbuffer := (t.admitted_accept a).buffer
      obtain ⟨-, -, hstore, -⟩ := t.store_fields a
      have hstored : ∀ a' ∈ Act.arrivals acts ++ [a],
          (t.store a).buffer.contains a'.pulse = true := by
        intro a' ha'
        rw [hstore, PulseBuffer.contains_store]
        rcases List.mem_append.1 ha' with hold | hnew
        · exact .inr (hbefore a' hold)
        · exact .inl (by rw [List.mem_singleton.1 hnew])
      rw [hbuffer, ← hstore]
      by_cases hstarts : t.startsWith a = true
      · rw [if_pos hstarts]
        -- The startup rule would have noted the pulses it set aside.
        have hbelow := below_eq_none_of_accept hstarts fun p n q hmem => hstartup p n q (by
          rw [hnotes]
          exact List.mem_append_left _ hmem)
        rw [SortedMap.above_of_below hbelow]
        exact hstored
      · rw [if_neg hstarts]
        exact hstored
    | resolve => cases hturns.2
    | _ =>
      rw [(halike rfl rfl).buffer]
      simpa [Act.arrivals] using hbefore

/-- The first pulse that is resolved is the least one that ever arrives, unless the startup rule set
pulses aside before. -/
theorem Runs.first_turn (h : s.Runs acts s') (hfresh : s.Fresh) {later : List (Turn α)}
    (hturns : Act.turns acts = u :: later)
    (hstartup : ∀ p n q, Event.startupDiscarded p n q ∉ u.before.journal) :
    (∃ a ∈ Act.arrivals acts, a.pulse = u.pulse) ∧
      ∀ a ∈ Act.arrivals acts, u.pulse ≤ a.pulse := by
  have hu : u ∈ Act.turns acts := hturns ▸ List.mem_cons_self
  obtain ⟨before, after, t', hsplit, hbefore, hsound, hact, hafter⟩ := h.turn hfresh hu
  obtain ⟨-, -, -, w, hfirst, -⟩ := hact.of_resolve
  have hnone : Act.turns before = [] := by
    rw [hsplit, Act.turns_append, Act.turns_append, List.append_assoc] at hturns
    cases hbegin : Act.turns before with
    | nil => rfl
    | cons v rest =>
      -- Then `u` was resolved before it was resolved.
      exfalso
      rw [hbegin, List.cons_append, List.cons.injEq] at hturns
      have hagain := (hbefore.passed hfresh (hbegin ▸ List.mem_cons_self : v ∈ _)).2
      have hlow := (hsound.boundary_lt hact).1
      rw [hturns.1] at hagain
      grind
  have hbuffered := hbefore.buffered_of_no_turn hnone hstartup
  rw [hsplit, Act.arrivals_around]
  constructor
  · obtain ⟨a, ha, hpulse⟩ := hsound.held.arrived (SortedMap.mem_of_first? hfirst).1
    exact ⟨a, List.mem_append_left _ ha, hpulse⟩
  · intro a ha
    rcases List.mem_append.1 ha with hold | hnew
    · exact PulseBuffer.le_of_first? hfirst (hbuffered a hold)
    · have hlow := hafter.lt_of_arrival hnew
      rw [(hsound.boundary_lt hact).2] at hlow
      exact Int64.le_of_lt hlow

/-- Without force, every expected pulse between the first resolved one and the boundary is
resolved. -/
theorem Runs.turn_of_between (h : s.Runs acts s') (hfresh : s.Fresh)
    (hunforced : ∀ v ∈ Act.turns acts, ¬ v.Forced s.config (Act.arrivals acts))
    (hu : (Act.turns acts).head? = some u) {p : PulseId}
    (hexpected : 0 < s.schedules.expectedCount p) (hlow : u.pulse ≤ p)
    (hhigh : p ≤ s'.marks.boundary) : ∃ v ∈ Act.turns acts, v.pulse = p := by
  induction h with
  | refl => cases hu
  | @step t t' acts a hrun hact ih =>
    have hall := Runs.step hrun hact
    have hsound := hrun.sound hfresh
    have hbefore : ∀ v ∈ Act.turns acts, ¬ v.Forced s.config (Act.arrivals acts) := by
      intro v hv hforced
      apply hunforced v (Act.subset_turns acts [a] hv)
      rw [Act.arrivals_append]
      exact hforced.append _
    cases a with
    | resolve v =>
      obtain ⟨hless, hreached⟩ := hsound.boundary_lt hact
      have hv := Act.mem_turns_concat acts v
      rw [hreached] at hhigh
      by_cases hnow : p = v.pulse
      · exact ⟨v, hv, hnow.symm⟩
      rw [Act.turns_append] at hu ⊢
      cases hturns : Act.turns acts with
      | nil =>
        -- The first resolution of all leaves no room below its pulse.
        rw [hturns] at hu
        cases hu
        exact absurd (Int64.le_antisymm hhigh hlow) hnow
      | cons first rest =>
        have hfirst := (hrun.passed hfresh (hturns ▸ List.mem_cons_self : first ∈ _))
        by_cases hold : p ≤ t.marks.boundary
        · obtain ⟨v', hv', hpulse⟩ := ih hbefore (by rw [hturns] at hu ⊢; exact hu) hold
          exact ⟨v', List.mem_append_left _ (hturns ▸ hv'), hpulse⟩
        · -- A pulse between the boundary and the resolved one is not expected.
          have hsame := hact.of_resolve.1
          have hzero := hall.no_gap hfresh hv (hunforced v hv) (p := p)
            (by rw [hsame]; grind) (by rw [hsame]; grind) (by grind)
          rw [hzero] at hexpected
          exact absurd hexpected (Nat.lt_irrefl 0)
    | _ =>
      -- No other action moves the boundary once a pulse was resolved.
      rw [Act.turns_append, show Act.turns [_] = [] from rfl, List.append_nil] at hu ⊢
      obtain ⟨z, hz⟩ := Option.isSome_iff_exists.1
        (List.getLast?_isSome.2 (List.ne_nil_of_mem (List.mem_of_head? hu)))
      have hboundary := (hsound.last z hz).1
      have hstill := ((hall.sound hfresh).last z (by
        rw [Act.turns_append]
        exact (congrArg List.getLast? (List.append_nil _)).trans hz)).1
      exact ih hbefore hu (by rw [hboundary, ← hstill]; exact hhigh)

end Synchronizer

end PulseJoin
