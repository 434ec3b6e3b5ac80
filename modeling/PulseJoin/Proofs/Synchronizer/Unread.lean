import PulseJoin.Proofs.Synchronizer.Operations

/-!
# What is not read

A resolution reads neither the journal nor whether the startup rule is on.  A change of such a part
(`Unread`) passes through resolutions and pulls: made before them it comes to the same as made
after them.  What stands in the journal is not read by an arrival either (`add_recording`).
-/

namespace PulseJoin.Synchronizer

universe u

variable {α : Type u}

/-- A change of a synchronizer that no resolution notices. -/
structure Unread (f : Synchronizer α → Synchronizer α) : Prop where
  buffer (s : Synchronizer α) : (f s).buffer = s.buffer
  outlet (s : Synchronizer α) : (f s).outlet = s.outlet
  closed (s : Synchronizer α) : (f s).closed = s.closed
  schedules (s : Synchronizer α) : (f s).schedules = s.schedules
  sendIncomplete (s : Synchronizer α) : (f s).config.sendIncomplete = s.config.sendIncomplete
  verdict (s : Synchronizer α) (now : UInt64) (p : PulseId) (w : Pending α) :
    (f s).verdict now p w = s.verdict now p w
  note (s : Synchronizer α) {e : Event} (he : ∀ c, e ≠ .created c) : (f s).note e = f (s.note e)
  remove (s : Synchronizer α) (p : PulseId) : (f s).remove p = f (s.remove p)
  put (s : Synchronizer α) (o : Outlet α) : { f s with outlet := o } = f { s with outlet := o }

namespace Unread

variable {f : Synchronizer α → Synchronizer α} (h : Unread f) (s : Synchronizer α) (now : UInt64)

include h

/-! ## Resolutions -/

theorem resolveOldest : (f s).resolveOldest now = (s.resolveOldest now).map id f := by
  unfold Synchronizer.resolveOldest
  rw [h.buffer]
  cases s.buffer.first? with
  | none => rfl
  | some e =>
    dsimp only
    rw [h.verdict, h.schedules, h.remove]
    cases s.verdict now e.1 e.2 with
    | incomplete => rfl
    | gap reference => exact congrArg (none, ·) (h.note s (by simp))
    | ready pressure => rfl

theorem deliver (b : Bundle α) (complete : Bool) :
    (f s).deliver b complete = f (s.deliver b complete) := by
  unfold Synchronizer.deliver
  rw [h.outlet, h.put]
  cases s.outlet.handoff <;> exact h.note _ (by simp)

theorem settle (r : Resolution α) : (f s).settle r = f (s.settle r) := by
  unfold Synchronizer.settle
  split
  · exact h.deliver s r.bundle true
  · dsimp only
    rw [note_config, note_config, h.sendIncomplete, h.note]
    case he => simp
    split
    · exact h.deliver _ r.bundle false
    · rfl

theorem resolveUpTo (limit : Nat) :
    Synchronizer.resolveUpTo now limit (f s) = (Synchronizer.resolveUpTo now limit s).map id f := by
  induction limit generalizing s with
  | zero => rfl
  | succ limit ih =>
    unfold Synchronizer.resolveUpTo
    rw [h.resolveOldest]
    rcases s.resolveOldest now with ⟨_ | r, t⟩
    · rfl
    · dsimp only [Prod.map, id]
      rw [h.settle, ih]
      rfl

theorem resolve : (f s).resolve now = (s.resolve now).map id f := by
  unfold Synchronizer.resolve
  rw [h.buffer, h.resolveUpTo]

/-! ## Operations of consumers -/

theorem evictExpired : (f s).evictExpired now = (s.evictExpired now).map id f := by
  unfold Synchronizer.evictExpired
  rw [h.closed]
  split
  · rfl
  · exact h.resolve s now

theorem pop : (f s).pop = s.pop.map id f := by
  unfold Synchronizer.pop
  rw [h.outlet]
  exact congrArg (_, ·) (h.put s _)

theorem receive : (f s).receive = s.receive.map id f := by
  unfold Synchronizer.receive
  rw [h.outlet]
  exact congrArg (_, ·) (h.put s _)

theorem tryNext : (f s).tryNext now = (s.tryNext now).map id f := by
  rw [tryNext_eq, tryNext_eq, h.outlet, h.evictExpired, h.receive]
  split
  · exact h.pop _
  · rfl

theorem pullWithin (rounds : Nat) :
    Synchronizer.pullWithin now rounds (f s) = (Synchronizer.pullWithin now rounds s).map id f := by
  induction rounds generalizing s with
  | zero => exact h.pop s
  | succ rounds ih =>
    unfold Synchronizer.pullWithin
    rw [h.pop]
    rcases s.pop with ⟨_ | b, t⟩
    · dsimp only [Prod.map, id]
      rw [h.evictExpired]
      rcases t.evictExpired now with ⟨_ | n, t'⟩
      · rfl
      · exact ih t'
    · rfl

theorem next : (f s).next now = (s.next now).map id f := by
  unfold Synchronizer.next
  rw [h.outlet, h.buffer]
  split
  · exact h.pullWithin s now _
  · exact congrArg (none, ·) (h.note s (by simp))

end Unread

/-! ## The journal -/

/-- A synchronizer with older events behind those of its journal. -/
def recording (old : List Event) (s : Synchronizer α) : Synchronizer α :=
  { s with journal := s.journal ++ old }

variable (old : List Event)

theorem unread_recording : Unread (recording old : Synchronizer α → Synchronizer α) where
  buffer _ := rfl
  outlet _ := rfl
  closed _ := rfl
  schedules _ := rfl
  sendIncomplete _ := rfl
  verdict _ _ _ _ := rfl
  note _ _ _ := rfl
  remove _ _ := rfl
  put _ _ := rfl

variable (s : Synchronizer α)

theorem recording_clearJournal : s.clearJournal.recording s.journal = s := rfl

theorem recording_recording (older : List Event) :
    (s.recording old).recording older = s.recording (old ++ older) := by
  unfold recording
  dsimp only
  rw [List.append_assoc]

theorem store_recording (a : Arrival α) :
    (s.recording old).store a = (s.store a).recording old := by
  have hfinding : (s.recording old).finding a = s.finding a := rfl
  unfold store
  rw [hfinding]
  split <;> rfl

theorem discardBacklog_recording (p : PulseId) :
    (s.recording old).discardBacklog p = (s.discardBacklog p).recording old := by
  have hmarks : (s.recording old).marks = s.marks := rfl
  have hbuffer : (s.recording old).buffer = s.buffer := rfl
  unfold discardBacklog
  rw [hmarks, hbuffer]
  split
  · dsimp only
    cases (s.buffer.below p).first? <;> rfl
  · rfl

theorem accept_recording (a : Arrival α) :
    (s.recording old).accept a.clock a.message = (s.accept a.clock a.message).recording old := by
  have hcompletes : (s.recording old).completes a = s.completes a := rfl
  have hstartup : ((s.recording old).store a).afterStartup (s.completes a) a.pulse =
      ((s.store a).afterStartup (s.completes a) a.pulse).recording old := by
    have hflag : ((s.store a).recording old).config = (s.store a).config := rfl
    rw [store_recording]
    unfold afterStartup
    rw [hflag]
    split
    · exact discardBacklog_recording old _ a.pulse
    · rfl
  rw [accept_eq, accept_eq, hcompletes, hstartup]
  rfl

/-- What was noted before makes no difference to an arrival. -/
theorem add_recording (now : UInt64) (m : Message α) :
    (s.recording old).add now m = (s.add now m).map id (recording old) := by
  have hrefusal : (s.recording old).refusal? m = s.refusal? m := rfl
  have haccept := accept_recording old (s.note .received) ⟨now, m⟩
  dsimp only at haccept
  have hreceived : (s.recording old).note .received = (s.note .received).recording old := rfl
  rw [add_eq, add_eq, hrefusal, hreceived]
  cases s.refusal? m with
  | some refusal => rfl
  | none =>
    dsimp only
    rw [haccept, (unread_recording old).resolve]
    rfl

end PulseJoin.Synchronizer
