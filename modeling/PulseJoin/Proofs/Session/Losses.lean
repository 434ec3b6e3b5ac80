import PulseJoin.Proofs.Session.Conservation
import PulseJoin.Proofs.Session.Rest
import PulseJoin.Proofs.Synchronizer.Intake
import PulseJoin.Proofs.Synchronizer.Losses

/-!
# What a small buffer loses

Without a limit of age only a message can cost a pulse, and only one that begins a new pulse while
the buffer is full.  So the pulses lost are never more than those that came beyond the limit.
-/

namespace PulseJoin.Session

universe u

variable {α : Type u} {c : Config} {clock : UInt64} {t : Session α} {ops : List (Op α)}
  {op : Op α} {m : Message α}

/-- Number of pulses that were dropped or delivered incomplete, by the counters. -/
def losses (t : Session α) : Nat :=
  t.synchronizer.counters.evicted.toNat + t.synchronizer.counters.incomplete.toNat

/-- The pulses of which a message was taken in, by the responses. -/
def takenPulses (t : Session α) (ops : List (Op α)) : Finset PulseId :=
  ((takenIn ops (t.run ops).1).map (·.pulse)).toFinset

theorem losses_run (h : create c clock = .ok t) (ops : List (Op α)) :
    (t.run ops).2.losses = (t.run ops).2.synchronizer.losses :=
  congrArg₂ (· + ·) (toNat_get_of_turns h ops (k := .evicted) (by decide))
    (toNat_get_of_turns h ops (k := .incomplete) (by decide))

/-! ## The pulses taken in -/

theorem takenPulses_eq (t : Session α) (ops : List (Op α)) :
    t.takenPulses ops = ((t.history ops).arrivals.map Arrival.pulse).toFinset := by
  unfold takenPulses
  rw [← arrivals_history, List.map_map]
  rfl

theorem takenPulses_concat (t : Session α) (ops : List (Op α)) (op : Op α) :
    t.takenPulses (ops ++ [op]) = t.takenPulses ops ∪
      (((t.run ops).2.historyOf op).arrivals.map Arrival.pulse).toFinset := by
  rw [takenPulses_eq, takenPulses_eq, history_concat, History.arrivals_append, List.map_append,
    List.toFinset_append]

theorem card_takenPulses_add (h : create c clock = .ok t)
    (hwelcome : (t.run ops).2.synchronizer.Welcomes m)
    (hnew : (t.run ops).2.synchronizer.buffer.contains m.pulse = false) :
    (t.takenPulses (ops ++ [.add m])).card = (t.takenPulses ops).card + 1 := by
  obtain ⟨acts, -, hacts, hsound⟩ := sound_run h ops
  have hone : ((t.run ops).2.historyOf (.add m)).arrivals = [⟨(t.run ops).2.clock, m⟩] :=
    (Synchronizer.addHistory_of_welcome hwelcome _).2
  have habsent : m.pulse ∉ t.takenPulses ops := by
    rw [takenPulses_eq, ← hacts]
    intro hmem
    have hbuffered := (hsound.mem_pulses_iff hwelcome.2.2).1 hmem
    rw [hnew] at hbuffered
    cases hbuffered
  rw [takenPulses_concat, hone, Finset.union_comm]
  exact Finset.card_insert_of_notMem habsent

theorem losses_add_size_le (h : create c clock = .ok t) (ops : List (Op α)) :
    (t.run ops).2.synchronizer.losses + (t.run ops).2.synchronizer.buffer.size ≤
      (t.takenPulses ops).card := by
  have hpulses := tally_pulses h ops
  unfold Synchronizer.losses takenPulses
  dsimp only at hpulses
  omega

/-! ## Operations -/

theorem turns_of_settled (h : t.synchronizer.Settled)
    (hop : ∀ m, op = .add m → ¬ t.synchronizer.Welcomes m) : (t.historyOf op).turns = [] := by
  cases op with
  | add m =>
    exact if_neg fun hbuffered => hop m rfl (Synchronizer.add_eq_buffered_iff.1 hbuffered)
  | evictExpired => exact (h.intake_evictExpired t.clock).2
  | tryNext => exact (Synchronizer.intake_tryNext (fun _ => h) t.clock).2
  | next => exact (Synchronizer.intake_next (fun _ => h) t.clock).2
  | _ => rfl

/-- An operation costs no pulse, or it is a message that costs one: the buffer is full, and the
message begins a new pulse. -/
theorem losses_step (h : create c clock = .ok t) (hage : c.maxAge? = none) (ops : List (Op α))
    (op : Op α) :
    let before := (t.run ops).2
    let after := (before.step op).2
    after.synchronizer.losses = before.synchronizer.losses ∨
      after.synchronizer.losses = before.synchronizer.losses + 1 ∧
        ∃ m, op = .add m ∧ before.synchronizer.Welcomes m ∧
          before.synchronizer.buffer.contains m.pulse = false ∧
          before.synchronizer.buffer.size = c.maxBuffered.toNat := by
  intro before after
  have hconfig : before.synchronizer.config = c := config_run h ops
  by_cases hwelcomed : ∃ m, op = .add m ∧ before.synchronizer.Welcomes m
  · obtain ⟨m, rfl, hwelcome⟩ := hwelcomed
    rcases (atRest_run h ops).losses_add (by rw [hconfig, hage]) hwelcome before.clock with
      hsame | ⟨hmore, hnew, hfull⟩
    · exact .inl hsame
    · rw [hconfig] at hfull
      exact .inr ⟨hmore, m, rfl, hwelcome, hnew, hfull⟩
  · obtain ⟨later, hlater, hhistory⟩ := before.performs_step op
    have hturns : Act.turns later = [] := by
      refine (congrArg History.turns hhistory).trans ?_
      apply turns_of_settled (settled_run h hage ops)
      exact fun m hm hwelcome => hwelcomed ⟨m, hm, hwelcome⟩
    exact .inl (hlater.losses_of_no_turn hturns)

/-! ## Runs -/

/-- Once a pulse is lost, the lost pulses and a full buffer were all taken in. -/
theorem losses_le_of_run (h : create c clock = .ok t) (hage : c.maxAge? = none)
    (ops : List (Op α)) :
    (t.run ops).2.synchronizer.losses = 0 ∨
      (t.run ops).2.synchronizer.losses + c.maxBuffered.toNat ≤ (t.takenPulses ops).card := by
  induction ops using List.reverseRecOn with
  | nil =>
    left
    show t.synchronizer.tally .evicted + t.synchronizer.tally .incomplete = 0
    rw [tally_of_create h, tally_of_create h]
  | append_singleton ops op ih =>
    have hgrows : (t.takenPulses ops).card ≤ (t.takenPulses (ops ++ [op])).card := by
      rw [takenPulses_concat]
      exact Finset.card_le_card Finset.subset_union_left
    rw [run_concat]
    rcases losses_step h hage ops op with hsame | ⟨hmore, m, rfl, hwelcome, hnew, hfull⟩
    · dsimp only at hsame ⊢
      rw [hsame]
      exact ih.imp_right fun hle => hle.trans hgrows
    · right
      have hplaces := losses_add_size_le h ops
      rw [card_takenPulses_add h hwelcome hnew]
      dsimp only at hmore hfull ⊢
      omega

/-- Without a limit of age a session loses no more pulses than come beyond the limit of its buffer:
those dropped and those delivered incomplete are at most as many as the pulses of which a message
was taken in, less the limit.  A message costs one of them at most, and only if it begins a new
pulse while as many as allowed are buffered. -/
theorem losses_bounded (h : create c clock = .ok t) (hage : c.maxAge? = none)
    (ops : List (Op α)) :
    let final := (t.run ops).2
    final.losses ≤ (t.takenPulses ops).card - c.maxBuffered.toNat ∧
      ∀ m, let after := (final.step (.add m)).2
        after.losses = final.losses ∨
          after.losses = final.losses + 1 ∧
            (final.step (.add m)).1 = .outcome .buffered ∧
            final.synchronizer.buffer.get? m.pulse = none ∧
            final.synchronizer.buffer.size = c.maxBuffered.toNat := by
  intro final
  have hfinal : final.losses = final.synchronizer.losses := losses_run h ops
  refine ⟨?_, fun m => ?_⟩
  · rw [hfinal]
    rcases losses_le_of_run h hage ops with hnone | hle
    · rw [hnone]
      exact Nat.zero_le _
    · exact Nat.le_sub_of_add_le hle
  · intro after
    have hafter : after.losses = after.synchronizer.losses := by
      have hrun := losses_run h (ops ++ [.add m])
      rwa [run_concat] at hrun
    rw [hfinal, hafter]
    rcases losses_step h hage ops (.add m) with hsame | ⟨hmore, m', hm, hwelcome, hnew, hfull⟩
    · exact .inl hsame
    · cases hm
      refine .inr ⟨hmore, ?_, ?_, hfull⟩
      · exact congrArg Response.outcome (Synchronizer.add_eq_buffered_iff.2 hwelcome)
      · exact Option.not_isSome_iff_eq_none.1 (Bool.not_eq_true _ ▸ hnew)

/-- Two pulses are allowed and three came, so the first was dropped.  A fourth pulse costs another
one; a message that completes the second pulse costs none. -/
theorem losses_bounded_fourth :
    ∃ t : Session Nat,
      create { channels := [⟨"a", 1, 0⟩, ⟨"b", 1, 0⟩], maxBuffered := 2 } 0 = .ok t ∧
        let ops : List (Op Nat) := [.add ⟨"a", 1, 10⟩, .add ⟨"a", 2, 20⟩, .add ⟨"a", 3, 30⟩]
        let final := (t.run ops).2
        final.losses = 1 ∧ final.losses ≤ (t.takenPulses ops).card - 2 ∧
          (final.step (.add ⟨"a", 4, 40⟩)).2.losses = final.losses + 1 ∧
          final.synchronizer.buffer.get? 4 = none ∧ final.synchronizer.buffer.size = 2 ∧
          (final.step (.add ⟨"b", 2, 21⟩)).2.losses = final.losses := by
  refine ⟨_, rfl, ?_⟩
  intro ops final
  have h : create (α := Nat)
      { channels := [⟨"a", 1, 0⟩, ⟨"b", 1, 0⟩], maxBuffered := 2 } 0 = .ok _ := rfl
  obtain ⟨hbound, hstep⟩ := losses_bounded h rfl ops
  refine ⟨rfl, hbound, ?_⟩
  rcases hstep ⟨"a", 4, 40⟩ with hsame | ⟨hmore, -, hnew, hfull⟩
  · exact absurd hsame (by decide)
  rcases hstep ⟨"b", 2, 21⟩ with hsame | ⟨-, -, hnone, -⟩
  · exact ⟨hmore, hnew, hfull, hsame⟩
  · cases hnone

end PulseJoin.Session
