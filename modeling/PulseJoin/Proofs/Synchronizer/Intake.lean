import PulseJoin.Proofs.Synchronizer.Waiting

/-!
# The producers' side

What producers can tell of a synchronizer: its buffer, its watermarks and the counts of what it took
in or dropped, but not how bundles are handed on.  Every operation of a producer depends on nothing
else, and consumers do not change it as long as no pulse may leave the buffer.
-/

namespace PulseJoin

universe u

variable {α : Type u}

/-- The counters that do not depend on what becomes of bundles that consumers want. -/
def Counters.intake (c : Counters) : Counters :=
  { c with complete := 0, incomplete := 0, queueFull := 0 }

theorem Counters.intake_count (c : Counters) (e : Event) :
    (c.count e).intake = (c.intake.count e).intake := by
  cases e with
  | delivered p complete => cases complete <;> rfl
  | cutShort p expected received pressure kept => cases kept <;> rfl
  | _ => rfl

namespace Synchronizer

variable {s s' : Synchronizer α} {now : UInt64}

/-- The producers' side of a synchronizer, with an empty outlet and nothing written down. -/
def intake (s : Synchronizer α) : Synchronizer α :=
  { s with
    config := { s.config with delivery := .pull }
    outlet := { mode := .pull }
    counters := s.counters.intake
    readings := {}
    journal := [] }

@[simp] theorem intake_buffer (s : Synchronizer α) : s.intake.buffer = s.buffer := rfl
@[simp] theorem intake_marks (s : Synchronizer α) : s.intake.marks = s.marks := rfl
@[simp] theorem intake_closed (s : Synchronizer α) : s.intake.closed = s.closed := rfl

/-! ## One function after the other -/

theorem intake_note (s : Synchronizer α) (e : Event) :
    (s.note e).intake = (s.intake.note e).intake := by
  unfold intake note
  rw [Counters.intake_count]

theorem note_congr (h : s.intake = s'.intake) (e : Event) :
    (s.note e).intake = (s'.note e).intake := by
  rw [intake_note, h, ← intake_note]

theorem intake_discardBacklog (s : Synchronizer α) (p : PulseId) :
    (s.discardBacklog p).intake = (s.intake.discardBacklog p).intake := by
  unfold discardBacklog
  rw [intake_marks, intake_buffer]
  split
  · dsimp only
    cases (s.buffer.below p).first? <;> rfl
  · rfl

theorem discardBacklog_congr (h : s.intake = s'.intake) (p : PulseId) :
    (s.discardBacklog p).intake = (s'.discardBacklog p).intake := by
  rw [intake_discardBacklog, h, ← intake_discardBacklog]

theorem intake_store (s : Synchronizer α) (a : Arrival α) :
    (s.store a).intake = (s.intake.store a).intake := by
  have hfinding : s.intake.finding a = s.finding a := rfl
  unfold store
  rw [hfinding]
  split <;> rfl

theorem accept_congr (h : s.intake = s'.intake) (a : Arrival α) :
    (s.accept a.clock a.message).intake = (s'.accept a.clock a.message).intake := by
  have hstore : (s.store a).intake = (s'.store a).intake := by
    rw [intake_store, h, ← intake_store]
  have hcompletes : s.completes a = s'.completes a := by
    show s.intake.completes a = s'.intake.completes a
    rw [h]
  have hflag : (s.store a).config.sendFirstComplete = (s'.store a).config.sendFirstComplete := by
    show (s.store a).intake.config.sendFirstComplete = (s'.store a).intake.config.sendFirstComplete
    rw [hstore]
  have hstartup : ((s.store a).afterStartup (s.completes a) a.pulse).intake =
      ((s'.store a).afterStartup (s'.completes a) a.pulse).intake := by
    unfold afterStartup
    rw [hcompletes, hflag]
    split
    · exact discardBacklog_congr hstore a.pulse
    · exact hstore
  rw [accept_eq, accept_eq]
  dsimp only
  rw [← intake_buffer, hstartup, intake_buffer]
  exact note_congr (note_congr hstartup _) _

theorem intake_resolveOldest (s : Synchronizer α) (now : UInt64) :
    (s.resolveOldest now).1 = (s.intake.resolveOldest now).1 ∧
      (s.resolveOldest now).2.intake = (s.intake.resolveOldest now).2.intake := by
  have hverdict (p : PulseId) (w : Pending α) : s.intake.verdict now p w = s.verdict now p w := rfl
  unfold resolveOldest
  rw [intake_buffer]
  cases s.buffer.first? with
  | none => exact ⟨rfl, rfl⟩
  | some e =>
    dsimp only
    rw [hverdict]
    cases s.verdict now e.1 e.2 <;> exact ⟨rfl, rfl⟩

/-- The oldest pulse leaves, or waits, without regard to the outlet. -/
theorem resolveOldest_congr (h : s.intake = s'.intake) (now : UInt64) :
    (s.resolveOldest now).1 = (s'.resolveOldest now).1 ∧
      (s.resolveOldest now).2.intake = (s'.resolveOldest now).2.intake := by
  obtain ⟨hresolution, hrest⟩ := s.intake_resolveOldest now
  obtain ⟨hresolution', hrest'⟩ := s'.intake_resolveOldest now
  rw [hresolution, hrest, h]
  exact ⟨hresolution'.symm, hrest'.symm⟩

theorem intake_deliver (s : Synchronizer α) (b : Bundle α) (complete : Bool) :
    (s.deliver b complete).intake = s.intake := by
  unfold deliver
  cases s.outlet.handoff <;> cases complete <;> rfl

theorem settle_congr (h : s.intake = s'.intake) (r : Resolution α) :
    (s.settle r).intake = (s'.settle r).intake := by
  have hkept : s.config.sendIncomplete = s'.config.sendIncomplete := by
    show s.intake.config.sendIncomplete = s'.intake.config.sendIncomplete
    rw [h]
  unfold settle
  split
  · rw [intake_deliver, intake_deliver, h]
  · dsimp only
    rw [note_config, note_config, hkept]
    split
    · rw [intake_deliver, intake_deliver]
      exact note_congr h _
    · exact note_congr h _

/-! ## Passes -/

/-- The two passes resolve the same pulses and leave the same to producers. -/
theorem resolveUpTo_congr (h : s.intake = s'.intake) (now : UInt64) (limit : Nat) :
    (resolveUpTo now limit s).1 = (resolveUpTo now limit s').1 ∧
      (resolveUpTo now limit s).2.intake = (resolveUpTo now limit s').2.intake ∧
      (turnsUpTo now limit s).map Turn.resolution =
        (turnsUpTo now limit s').map Turn.resolution := by
  induction limit generalizing s s' with
  | zero => exact ⟨rfl, h, rfl⟩
  | succ limit ih =>
    obtain ⟨hresolution, hrest⟩ := resolveOldest_congr h now
    unfold resolveUpTo turnsUpTo
    rcases hlook : s.resolveOldest now with ⟨r, t⟩
    rcases hlook' : s'.resolveOldest now with ⟨r', t'⟩
    rw [hlook, hlook'] at hresolution hrest
    dsimp only at hresolution hrest
    subst hresolution
    cases r with
    | none => exact ⟨rfl, hrest, rfl⟩
    | some r =>
      obtain ⟨hcount, hafter, hturns⟩ := ih (settle_congr hrest r)
      exact ⟨congrArg (· + 1) hcount, hafter, congrArg (r :: ·) hturns⟩

theorem resolve_congr (h : s.intake = s'.intake) (now : UInt64) :
    (s.resolve now).1 = (s'.resolve now).1 ∧ (s.resolve now).2.intake = (s'.resolve now).2.intake ∧
      (s.turns now).map Turn.resolution = (s'.turns now).map Turn.resolution := by
  unfold resolve turns
  rw [← intake_buffer s, h, intake_buffer]
  exact resolveUpTo_congr h now _

theorem evictExpired_congr (h : s.intake = s'.intake) (now : UInt64) :
    (s.evictExpired now).1 = (s'.evictExpired now).1 ∧
      (s.evictExpired now).2.intake = (s'.evictExpired now).2.intake ∧
      (s.evictTurns now).map Turn.resolution = (s'.evictTurns now).map Turn.resolution := by
  unfold evictExpired evictTurns
  rw [← intake_closed s, h, intake_closed]
  split
  · exact ⟨rfl, h, rfl⟩
  · exact resolve_congr h now

theorem add_congr (h : s.intake = s'.intake) (now : UInt64) (m : Message α) :
    (s.add now m).1 = (s'.add now m).1 ∧ (s.add now m).2.intake = (s'.add now m).2.intake ∧
      (s.addHistory now m).turns.map Turn.resolution =
        (s'.addHistory now m).turns.map Turn.resolution := by
  have hreceived := note_congr h .received
  have hrefusal : s.refusal? m = s'.refusal? m := by
    show s.intake.refusal? m = s'.intake.refusal? m
    rw [h]
  unfold addHistory
  rw [add_eq, add_eq, hrefusal]
  rcases hwelcome : s'.refusal? m with _ | ⟨o, e⟩
  · obtain ⟨-, hrest, hturns⟩ := resolve_congr (accept_congr hreceived ⟨now, m⟩) now
    exact ⟨rfl, hrest, hturns⟩
  · have hrefused := (refusal?_isRemark hwelcome).1
    refine ⟨rfl, note_congr hreceived e, ?_⟩
    dsimp only
    rw [if_neg hrefused, if_neg hrefused]

/-! ## Consumers -/

theorem intake_pop (s : Synchronizer α) : s.pop.2.intake = s.intake := rfl

theorem intake_receive (s : Synchronizer α) : s.receive.2.intake = s.intake := rfl

theorem Settled.intake_evictExpired (h : s.Settled) (now : UInt64) :
    (s.evictExpired now).2.intake = s.intake ∧ s.evictTurns now = [] := by
  obtain ⟨hnone, remarks, -, hrest⟩ := h.evictExpired now
  constructor
  · rw [hrest]
    rfl
  · rw [← List.length_eq_zero_iff, length_evictTurns, hnone]

theorem Settled.of_alike (h : s.Settled) (halike : s.Alike s') : s'.Settled := by
  intro now
  rw [halike.resolveOldest_eq, h now]

theorem Settled.intake_pullWithin (h : s.Settled) (now : UInt64) (rounds : Nat) :
    (pullWithin now rounds s).2.intake = s.intake ∧ pullTurns now rounds s = [] := by
  cases rounds with
  | zero => exact ⟨s.intake_pop, rfl⟩
  | succ rounds =>
    have hpop := s.intake_pop
    have hrest := h.of_alike s.alike_pop
    unfold pullWithin pullTurns
    rcases htaken : s.pop with ⟨_ | b, t⟩ <;> rw [htaken] at hpop hrest
    · obtain ⟨hintake, hturns⟩ := hrest.intake_evictExpired now
      have hnone := (hrest.evictExpired now).1
      dsimp only at hintake hturns hnone ⊢
      rcases hpass : t.evictExpired now with ⟨n, t'⟩
      rw [hpass] at hintake hnone
      dsimp only at hintake hnone
      subst hnone
      rw [hturns]
      exact ⟨hintake.trans hpop, rfl⟩
    · exact ⟨hpop, rfl⟩

theorem intake_tryNext (h : s.outlet.pulls = true → s.Settled) (now : UInt64) :
    (s.tryNext now).2.intake = s.intake ∧ s.tryTurns now = [] := by
  rw [tryNext_eq]
  unfold tryTurns
  split
  next hpulls => exact (h hpulls).intake_evictExpired now
  next => exact ⟨s.intake_receive, rfl⟩

theorem intake_next (h : s.outlet.pulls = true → s.Settled) (now : UInt64) :
    (s.next now).2.intake = s.intake ∧ s.nextTurns now = [] := by
  unfold next nextTurns
  split
  next hpulls => exact (h hpulls).intake_pullWithin now _
  next => exact ⟨rfl, rfl⟩

end Synchronizer

end PulseJoin
