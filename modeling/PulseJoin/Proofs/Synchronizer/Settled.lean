import PulseJoin.Proofs.Synchronizer.Operations

/-!
# Synchronizers at rest

A resolution pass goes on until the oldest pulse has to wait, so after every operation there is a
reading of the clock at which no pulse may leave the buffer.  Without a limit of age the clock does
not matter, and none may leave at any reading.
-/

namespace PulseJoin

universe u

variable {α : Type u}

namespace Synchronizer

variable {s s' s'' : Synchronizer α} {now now' : UInt64}

/-- No pulse may leave the buffer, by the clock of the last pass. -/
def AtRest (s : Synchronizer α) : Prop := ∃ now, (s.resolveOldest now).1 = none

/-- No pulse may leave the buffer, whatever the clock says. -/
def Settled (s : Synchronizer α) : Prop := ∀ now, (s.resolveOldest now).1 = none

theorem resolveOldest_fst (s : Synchronizer α) (now : UInt64) :
    (s.resolveOldest now).1 = s.buffer.first?.bind fun (p, w) =>
      match s.verdict now p w with
      | .ready pressure => some ⟨⟨p, w.values, s.schedules.expectedCount p⟩, pressure⟩
      | _ => none := by
  unfold resolveOldest
  cases s.buffer.first? with
  | none => rfl
  | some e => cases hverdict : s.verdict now e.1 e.2 <;> simp [hverdict]

theorem Alike.resolveOldest_eq (h : s.Alike s') (now : UInt64) :
    (s'.resolveOldest now).1 = (s.resolveOldest now).1 := by
  rw [resolveOldest_fst, resolveOldest_fst]
  unfold verdict pressure?
  rw [h.config, h.schedules, h.buffer, h.marks]

theorem AtRest.of_alike (h : s.AtRest) (halike : s.Alike s') : s'.AtRest := by
  obtain ⟨now, hnone⟩ := h
  exact ⟨now, by rw [halike.resolveOldest_eq, hnone]⟩

theorem atRest_of_empty (h : s.buffer = .empty) : s.AtRest := by
  refine ⟨0, ?_⟩
  rw [resolveOldest_fst, h]
  rfl

theorem AtRest.settled (h : s.AtRest) (hage : s.config.maxAge? = none) : s.Settled := by
  obtain ⟨now, hnone⟩ := h
  intro now'
  rw [← hnone, resolveOldest_fst, resolveOldest_fst]
  unfold verdict pressure?
  rw [hage]
  rfl

theorem size_resolved {r : Resolution α} (h : s.resolveOldest now = (some r, s')) :
    s.buffer.size = (s'.settle r).buffer.size + 1 := by
  obtain ⟨w, hfirst, -, -, rfl⟩ := resolveOldest_eq_some h
  rw [(settle_alike _ r).1.buffer]
  exact congrArg List.length (SortedMap.erase_first hfirst)

theorem resolveUpTo_rest (limit : Nat) (hlimit : s.buffer.size ≤ limit) :
    ((resolveUpTo now limit s).2.resolveOldest now).1 = none := by
  induction limit generalizing s with
  | zero =>
    have hempty : s.buffer.toList = [] := List.length_eq_zero_iff.1 (Nat.le_zero.1 hlimit)
    show (s.resolveOldest now).1 = none
    rw [resolveOldest_fst, SortedMap.first?_eq_none_iff.2 hempty]
    rfl
  | succ limit ih =>
    unfold resolveUpTo
    rcases h : s.resolveOldest now with ⟨_ | r, s'⟩
    · have halike : s.Alike s' := (steady_look h).toAlike
      show (s'.resolveOldest now).1 = none
      rw [halike.resolveOldest_eq, h]
    · apply ih
      have hsize := size_resolved h
      omega

theorem atRest_resolve (s : Synchronizer α) (now : UInt64) : (s.resolve now).2.AtRest :=
  ⟨now, resolveUpTo_rest _ (Nat.le_refl _)⟩

/-! ## The operations -/

theorem atRest_evictExpired (h : s.AtRest) (now : UInt64) : (s.evictExpired now).2.AtRest := by
  unfold evictExpired
  split
  · exact h
  · exact s.atRest_resolve now

theorem atRest_add (h : s.AtRest) (m : Message α) : (s.add now m).2.AtRest := by
  rw [add_eq]
  cases s.refusal? m with
  | none => exact atRest_resolve _ now
  | some refusal => exact h.of_alike ⟨rfl, rfl, rfl, rfl⟩

theorem alike_pop (s : Synchronizer α) : s.Alike s.pop.2 := ⟨rfl, rfl, rfl, rfl⟩

theorem alike_receive (s : Synchronizer α) : s.Alike s.receive.2 := ⟨rfl, rfl, rfl, rfl⟩

theorem atRest_pullWithin (h : s.AtRest) (rounds : Nat) : (pullWithin now rounds s).2.AtRest := by
  induction rounds generalizing s with
  | zero => exact h.of_alike s.alike_pop
  | succ rounds ih =>
    unfold pullWithin
    have hpop := h.of_alike s.alike_pop
    rcases htaken : s.pop with ⟨_ | b, s'⟩
    · rw [htaken] at hpop
      have hevict := atRest_evictExpired hpop now
      dsimp only
      rcases hpass : s'.evictExpired now with ⟨_ | n, s''⟩
      · rw [hpass] at hevict
        exact hevict
      · rw [hpass] at hevict
        exact ih hevict
    · rw [htaken] at hpop
      exact hpop

end Synchronizer

end PulseJoin
