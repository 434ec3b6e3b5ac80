import PulseJoin.Proofs.Synchronizer.Gaps
import PulseJoin.Proofs.Synchronizer.Settled

/-!
# What the oldest pulse waits for

At rest the buffer is within its limit, and its oldest pulse lacks a channel or waits for an earlier
pulse behind the reference.  The reference is the boundary once a pulse was resolved; before that it
is the oldest pulse itself.  A pulse that fires the startup rule does not wait at all.
-/

namespace PulseJoin

universe u

variable {α : Type u}

open Arrival

namespace PulseBuffer

variable {b : PulseBuffer α} {p : PulseId} {w : Pending α}

theorem size_eq_zero (h : b.first? = none) : b.size = 0 :=
  List.length_eq_zero_iff.2 (SortedMap.first?_eq_none_iff.1 h)

theorem first?_above (h : (p, w) ∈ b.toList) : (b.above p).first? = some (p, w) := by
  have hself : compare p p ≠ .lt := by simp
  have hmem : (p, w) ∈ (b.above p).toList := SortedMap.mem_above.2 ⟨h, hself⟩
  cases hfirst : (b.above p).first? with
  | none =>
    rw [SortedMap.first?_eq_none_iff.1 hfirst] at hmem
    cases hmem
  | some e =>
    rcases lt_of_first? hfirst hmem with hsame | hlt
    · rw [hsame]
    · -- Nothing below the pulse is left.
      have hkept := (SortedMap.mem_above.1 (SortedMap.mem_of_first? hfirst).1).2
      exact absurd (Std.compare_eq_lt.2 hlt) hkept

end PulseBuffer

namespace Synchronizer

variable {s s' : Synchronizer α} {acts : List (Act α)} {p : PulseId} {w : Pending α}
  {now : UInt64}

/-! ## At rest -/

theorem verdict_ne_ready (hrest : (s.resolveOldest now).1 = none)
    (hfirst : s.buffer.first? = some (p, w)) (pressure : Option Pressure) :
    s.verdict now p w ≠ .ready pressure := by
  intro hready
  rw [resolveOldest_fst, hfirst, Option.bind_some] at hrest
  simp [hready] at hrest

theorem pressure?_eq_none (hrest : (s.resolveOldest now).1 = none)
    (hfirst : s.buffer.first? = some (p, w)) : s.pressure? now w = none := by
  cases hpressure : s.pressure? now w with
  | none => rfl
  | some pressure =>
    refine absurd ?_ (verdict_ne_ready hrest hfirst (some pressure))
    unfold verdict
    rw [hpressure]

theorem AtRest.size_le (h : s.AtRest) : s.buffer.size ≤ s.config.maxBuffered.toNat := by
  obtain ⟨now, hrest⟩ := h
  cases hfirst : s.buffer.first? with
  | none =>
    rw [PulseBuffer.size_eq_zero hfirst]
    exact Nat.zero_le _
  | some e => exact (pressure?_eq_none_iff.1 (pressure?_eq_none hrest hfirst)).1

theorem AtRest.waits (h : s.AtRest) (hfirst : s.buffer.first? = some (p, w)) :
    w.size < s.schedules.expectedCount p ∨
      ∃ q, s.marks.reference < q ∧ q < p ∧ 0 < s.schedules.expectedCount q := by
  obtain ⟨now, hrest⟩ := h
  have hnone := pressure?_eq_none hrest hfirst
  by_cases hsize : w.size < s.schedules.expectedCount p
  · exact .inl hsize
  · right
    by_contra hgap
    -- Complete and next, the pulse would have left.
    have hnext : ∀ q, s.marks.reference < q → q < p → s.schedules.expectedCount q = 0 := by
      intro q hlow hhigh
      by_contra hexpected
      exact hgap ⟨q, hlow, hhigh, Nat.pos_of_ne_zero hexpected⟩
    obtain ⟨pressure, hready⟩ := (verdict_eq_ready_iff hnone).2
      ⟨Nat.not_lt.1 hsize, pulseMissing_eq_false_iff.2 hnext⟩
    exact verdict_ne_ready hrest hfirst pressure hready

theorem exists_lacking (hsize : w.size < s.schedules.expectedCount p) :
    ∃ channel ∈ s.schedules.expectedChannels p, w.values.get? channel = none := by
  by_contra hall
  have hsub : s.schedules.expectedChannels p ⊆ w.values.keys := by
    intro channel hchannel
    rw [SortedMap.mem_keys_iff]
    show (w.values.get? channel).isSome = true
    rw [Option.isSome_iff_ne_none]
    exact fun hlacking => hall ⟨channel, hchannel, hlacking⟩
  have hle := ((s.schedules.expectedChannels_nodup p).subperm hsub).length_le
  rw [ScheduleSet.length_expectedChannels, SortedMap.length_keys] at hle
  exact Nat.not_le.2 hsize hle

theorem eq_of_look (hlook : s.resolveOldest now = (none, s')) :
    s' = { s with journal := s.lookEvents now ++ s.journal } := by
  rcases look_cases hlook with ⟨rfl, hevents⟩ | ⟨p, q, rfl, hevents⟩ <;> rw [hevents] <;> rfl

/-- Where no pulse may leave, a pass only remarks that the oldest one waits. -/
theorem resolve_of_rest (hrest : (s.resolveOldest now).1 = none) :
    s.resolve now = (0, { s with journal := s.lookEvents now ++ s.journal }) := by
  unfold resolve
  cases hsize : s.buffer.size with
  | zero =>
    have hempty : s.buffer.first? = none :=
      SortedMap.first?_eq_none_iff.2 (List.length_eq_zero_iff.1 hsize)
    have hquiet : s.lookEvents now = [] := by
      unfold lookEvents
      rw [hempty]
    rw [hquiet]
    rfl
  | succ limit =>
    unfold resolveUpTo
    rcases hlook : s.resolveOldest now with ⟨_ | r, s'⟩
    · rw [eq_of_look hlook]
    · rw [hlook] at hrest
      cases hrest

theorem Settled.evictExpired (h : s.Settled) (now : UInt64) :
    (s.evictExpired now).1 = 0 ∧ ∃ remarks, (∀ e ∈ remarks, ∃ p q, e = .waiting p q) ∧
      (s.evictExpired now).2 = { s with journal := remarks ++ s.journal } := by
  unfold Synchronizer.evictExpired
  split
  · exact ⟨rfl, [], nofun, rfl⟩
  · rw [resolve_of_rest (h now)]
    exact ⟨rfl, s.lookEvents now, fun e he => mem_lookEvents he, rfl⟩

/-! ## The reference -/

theorem Runs.reference_of_turns (h : s.Runs acts s') (hfresh : s.Fresh)
    (hturns : Act.turns acts ≠ []) :
    s'.marks.reference = s'.marks.boundary ∧ Int64.minValue < s'.marks.boundary := by
  have hsound := h.sound hfresh
  have hlast := List.getLast?_eq_some_getLast hturns
  obtain ⟨hboundary, hmoved⟩ := hsound.last _ hlast
  obtain ⟨a, ha, hpulse⟩ := h.arrival_of_turn hfresh (List.mem_of_getLast? hlast)
  have hseen := hsound.seen.least a ha
  unfold Watermarks.reference
  rw [PulseId.max_eq, if_pos (by rw [hboundary, ← hpulse]; exact hseen), hboundary]
  exact ⟨rfl, hmoved⟩

theorem Sound.reference_of_unmoved (h : Sound acts s)
    (hboundary : s.marks.boundary = Int64.minValue) (hfirst : s.buffer.first? = some (p, w)) :
    s.marks.reference = p := by
  have hreference : s.marks.reference = s.marks.smallestSeen := by
    unfold Watermarks.reference
    rw [hboundary, PulseId.max_eq]
    have hlow := PulseId.minValue_le s.marks.smallestSeen
    grind
  rw [hreference]
  obtain ⟨a, ha, hpulse⟩ := h.held.arrived (SortedMap.mem_of_first? hfirst).1
  rcases h.seen.attained with ⟨hnone, -⟩ | ⟨b, hb, hleast⟩
  · rw [hnone] at ha
    cases ha
  · -- The least arrival is still buffered.
    have hproper := h.seen.proper b hb
    have hseen := h.seen.least a ha
    rcases h.held.le_or_le hfirst hb with hpassed | hlater
    · grind
    · grind

/-! ## The startup rule -/

theorem verdict_of_next (hcomplete : s.schedules.expectedCount p ≤ w.size)
    (hnext : ∀ q, s.marks.reference < q → q < p → s.schedules.expectedCount q = 0)
    (now : UInt64) : s.verdict now p w = .ready (s.pressure? now w) := by
  unfold verdict
  cases s.pressure? now w with
  | some pressure => rfl
  | none =>
    dsimp only
    rw [if_neg (Nat.not_lt.2 hcomplete), pulseMissing_eq_false_iff.2 hnext]
    rfl

theorem resolveOldest_of_ready {pressure : Option Pressure} (hfirst : s.buffer.first? = some (p, w))
    (hready : s.verdict now p w = .ready pressure) :
    s.resolveOldest now =
      (some ⟨⟨p, w.values, s.schedules.expectedCount p⟩, pressure⟩, s.remove p) := by
  unfold resolveOldest
  rw [hfirst]
  dsimp only
  rw [hready]

/-- A pulse that fires the startup rule is the oldest one afterwards, and may leave at once. -/
theorem ready_of_startsWith {a : Arrival α} (ha : s.Welcomes a.message)
    (hstarts : s.startsWith a = true) (now : UInt64) :
    let t := s.accept a.clock a.message
    ∃ w, t.buffer.first? = some (a.pulse, w) ∧ t.schedules.expectedCount a.pulse ≤ w.size ∧
      t.verdict now a.pulse w = .ready (t.pressure? now w) := by
  intro t
  obtain ⟨-, hschedules, hbuffer, hmarks, -⟩ := s.admitted_accept a
  rw [if_pos hstarts] at hbuffer hmarks
  have hmin : Int64.minValue < a.pulse := by
    have hlow := PulseId.minValue_le s.marks.boundary
    have hpast : s.marks.boundary < a.pulse := ha.2.2
    grind
  have hstored := PulseBuffer.first?_above (PulseBuffer.mem_store.2 (.inl rfl) :
    (a.pulse, _) ∈ (s.buffer.store a.pulse a.message.channel a.message.payload a.clock).toList)
  rw [← hbuffer] at hstored
  have hcomplete : t.schedules.expectedCount a.pulse ≤ (s.finding a).filled := by
    rw [hschedules]
    exact of_decide_eq_true (Bool.and_eq_true_iff.1 (Bool.and_eq_true_iff.1 hstarts).1).2
  refine ⟨_, hstored, hcomplete, verdict_of_next hcomplete ?_ now⟩
  -- The boundary has moved up to the pulse, so there is no room between them.
  intro q hlow hhigh
  have hboundary : a.pulse.pred ≤ t.marks.reference := by
    unfold Watermarks.reference
    rw [hmarks, PulseId.max_eq]
    grind
  have hpred := (PulseId.le_pred_iff hmin).2 hhigh
  grind

theorem turns_of_startsWith {a : Arrival α} (ha : s.Welcomes a.message)
    (hstarts : s.startsWith a = true) (now : UInt64) :
    (s.accept a.clock a.message).turns now ≠ [] := by
  obtain ⟨w, hfirst, -, hready⟩ := ready_of_startsWith ha hstarts now
  unfold turns
  cases hsize : (s.accept a.clock a.message).buffer.size with
  | zero =>
    rw [SortedMap.first?_eq_none_iff.2 (List.length_eq_zero_iff.1 hsize)] at hfirst
    cases hfirst
  | succ limit =>
    unfold turnsUpTo
    rw [resolveOldest_of_ready hfirst hready]
    exact List.cons_ne_nil _ _

theorem boundary_add {m : Message α} (hturns : (s.addHistory now m).turns = []) :
    (s.add now m).2.marks.boundary = s.marks.boundary := by
  cases hrefusal : s.refusal? m with
  | some refusal =>
    rw [add_eq, hrefusal]
    rfl
  | none =>
    have hwelcome : (s.note .received).Welcomes m := refusal?_eq_none_iff.1 hrefusal
    rw [turns_addHistory (refusal?_eq_none_iff.1 hrefusal)] at hturns
    have hquiet : ¬ (s.note .received).startsWith ⟨now, m⟩ = true := by
      intro hstarts
      exact turns_of_startsWith (a := ⟨now, m⟩) hwelcome hstarts now hturns
    have hadmitted := (s.note .received).admitted_accept ⟨now, m⟩
    have hpass := performs_pass (s := s) hwelcome now
    rw [(hpass.alike rfl hturns).marks, hadmitted.marks, if_neg hquiet]
    rfl

end Synchronizer

end PulseJoin
