import PulseJoin.Proofs.Synchronizer.Balance
import PulseJoin.Proofs.Synchronizer.Waiting

/-!
# What the size limit costs

Without a limit of age a pulse is cut short only while the buffer is over its limit, and leaves it.
So in a pass the losses and the excess of the buffer together never grow (`Runs.losses_le`), and a
message costs one pulse at most: the buffer was full, and the message begins a new pulse.
-/

namespace PulseJoin.Synchronizer

universe u

variable {α : Type u} {s s' : Synchronizer α} {acts : List (Act α)} {act : Act α} {u : Turn α}
  {m : Message α} {k : Tally}

/-- Number of pulses that were dropped or delivered incomplete. -/
def losses (s : Synchronizer α) : Nat := s.tally .evicted + s.tally .incomplete

def excess (s : Synchronizer α) : Nat := s.buffer.size - s.config.maxBuffered.toNat

/-! ## Actions -/

theorem Acts.tally_of_no_turn (h : s.Acts act s') (hturns : Act.turns [act] = [])
    (hk : k ∈ Tally.ofResolutions) : s'.tally k = s.tally k := by
  have hnone : k.sum (s.events act) = 0 := by
    cases h with
    | remark hremark => exact adds_of_isRemark hremark (List.mem_append_right _ hk)
    | accept => exact sum_acceptEvents_eq_zero (List.mem_append_right _ hk)
    | look => exact sum_lookEvents _ _ k
    | resolve => cases hturns
    | take => rfl
    | close => cases k <;> rfl
  rw [h.notes.tally, hnone, Nat.zero_add]

theorem Acts.losses_of_no_turn (h : s.Acts act s') (hturns : Act.turns [act] = []) :
    s'.losses = s.losses := by
  unfold losses
  rw [h.tally_of_no_turn hturns (by decide), h.tally_of_no_turn hturns (by decide)]

theorem Acts.losses_resolve (h : s.Acts (.resolve u) s') :
    s.losses ≤ s'.losses ∧ s'.losses ≤ s.losses + (!u.bundle.isComplete).toNat := by
  have hsum : Tally.evicted.sum (s.events (.resolve u)) +
      Tally.incomplete.sum (s.events (.resolve u)) ≤ (!u.bundle.isComplete).toNat := by
    rw [sum_resolve, sum_resolve, sum_settleEvents, sum_settleEvents]
    show (!(s.remove u.pulse).wants u.bundle).toNat +
      ((s.remove u.pulse).accepts u.bundle && !u.bundle.isComplete).toNat ≤ _
    unfold accepts wants
    cases u.bundle.isComplete <;> cases (s.remove u.pulse).config.sendIncomplete <;>
      cases (s.remove u.pulse).outlet.handoff <;> decide
  unfold losses
  rw [h.notes.tally, h.notes.tally]
  omega

theorem Acts.size_resolve (h : s.Acts (.resolve u) s') : s.buffer.size = s'.buffer.size + 1 := by
  cases h with
  | resolve hopen hr => exact size_resolved hr

theorem Acts.excess_pos (h : s.Acts (.resolve u) s') (hage : s.config.maxAge? = none)
    (hcut : u.bundle.isComplete = false) : 0 < s.excess := by
  obtain ⟨-, -, -, w, -, hverdict, hbundle⟩ := h.of_resolve
  unfold excess
  by_contra hfits
  have hnone : s.pressure? u.clock w = none := by
    rw [pressure?_eq_none_iff, hage]
    exact ⟨by omega, nofun⟩
  obtain ⟨hsize, -⟩ := (verdict_eq_ready_iff hnone).1 ⟨_, hverdict⟩
  rw [hbundle] at hcut
  exact of_decide_eq_false hcut hsize

/-- Losses and excess together do not grow where nothing is admitted: what is lost was in excess. -/
theorem Acts.losses_le (h : s.Acts act s') (hage : s.config.maxAge? = none)
    (harrivals : Act.arrivals [act] = []) :
    s.losses ≤ s'.losses ∧ s'.losses + s'.excess ≤ s.losses + s.excess := by
  have hlimit : s'.config.maxBuffered = s.config.maxBuffered := by rw [h.frame.config]
  by_cases hturns : Act.turns [act] = []
  · have hlosses := h.losses_of_no_turn hturns
    unfold excess
    rw [hlosses, hlimit, (h.alike harrivals hturns).buffer]
    exact ⟨Nat.le_refl _, Nat.le_refl _⟩
  · cases act with
    | resolve u =>
      obtain ⟨hmore, hfew⟩ := h.losses_resolve
      have hsize := h.size_resolve
      refine ⟨hmore, ?_⟩
      cases hcomplete : u.bundle.isComplete with
      | true =>
        rw [hcomplete] at hfew
        unfold excess
        rw [hlimit]
        simp only [Bool.not_true, Bool.toNat_false] at hfew
        omega
      | false =>
        have hexcess := h.excess_pos hage hcomplete
        rw [hcomplete] at hfew
        unfold excess at hexcess ⊢
        rw [hlimit]
        simp only [Bool.not_false, Bool.toNat_true] at hfew
        omega
    | _ => exact absurd rfl hturns

/-! ## Passes -/

/-- A pass loses no more pulses than are buffered beyond the limit. -/
theorem Runs.losses_le (h : s.Runs acts s') (hage : s.config.maxAge? = none)
    (harrivals : Act.arrivals acts = []) :
    s.losses ≤ s'.losses ∧ s'.losses + s'.excess ≤ s.losses + s.excess := by
  induction h with
  | refl => exact ⟨Nat.le_refl _, Nat.le_refl _⟩
  | step run act ih =>
    rw [Act.arrivals_append, List.append_eq_nil_iff] at harrivals
    obtain ⟨hmore, hless⟩ := ih harrivals.1
    obtain ⟨hmore', hless'⟩ := act.losses_le (by rw [run.frame.config, hage]) harrivals.2
    exact ⟨hmore.trans hmore', hless'.trans hless⟩

theorem Runs.losses_of_no_turn (h : s.Runs acts s') (hturns : Act.turns acts = []) :
    s'.losses = s.losses := by
  induction h with
  | refl => rfl
  | step _ act ih =>
    rw [Act.turns_append, List.append_eq_nil_iff] at hturns
    exact (act.losses_of_no_turn hturns.2).trans (ih hturns.1)

/-! ## Messages -/

theorem size_accept_le (s : Synchronizer α) (a : Arrival α) :
    (s.accept a.clock a.message).buffer.size ≤
      s.buffer.size + if s.buffer.contains a.pulse then 0 else 1 := by
  have hstored := PulseBuffer.size_store s.buffer a.pulse a.message.channel a.message.payload
    a.clock
  have hcut := (s.setAside_cut a).1
  omega

/-- At rest the buffer has room, but for one new pulse if it is full. -/
theorem AtRest.excess_accept (h : s.AtRest) (a : Arrival α) :
    (s.accept a.clock a.message).excess = 0 ∨
      (s.accept a.clock a.message).excess ≤ 1 ∧ s.buffer.contains a.pulse = false ∧
        s.buffer.size = s.config.maxBuffered.toNat := by
  have hroom := h.size_le
  have hsize := s.size_accept_le a
  unfold excess
  rw [(s.admitted_accept a).config]
  cases hnew : s.buffer.contains a.pulse with
  | true =>
    rw [hnew, if_pos rfl] at hsize
    left
    omega
  | false =>
    rw [hnew, if_neg Bool.false_ne_true] at hsize
    by_cases hfull : s.buffer.size = s.config.maxBuffered.toNat
    · exact .inr ⟨by omega, rfl, hfull⟩
    · left
      omega

/-- At rest a message costs no pulse, or it costs one: the buffer is full, and the message begins a
new pulse. -/
theorem AtRest.losses_add (h : s.AtRest) (hage : s.config.maxAge? = none)
    (hwelcome : s.Welcomes m) (now : UInt64) :
    (s.add now m).2.losses = s.losses ∨
      (s.add now m).2.losses = s.losses + 1 ∧ s.buffer.contains m.pulse = false ∧
        s.buffer.size = s.config.maxBuffered.toNat := by
  have hreceived : s.Acts (.remark .received) (s.note .received) := .remark rfl
  have haccepted : (s.note .received).Acts (.accept ⟨now, m⟩) ((s.note .received).accept now m) :=
    .accept hwelcome
  have hbefore : ((s.note .received).accept now m).losses = s.losses :=
    (haccepted.losses_of_no_turn rfl).trans (hreceived.losses_of_no_turn rfl)
  have hrest : (s.note .received).AtRest := h.of_alike (Steady.note s _).toAlike
  have hexcess := hrest.excess_accept ⟨now, m⟩
  obtain ⟨pass, hpass, hquiet, -⟩ := runs_add hwelcome now
  obtain ⟨hmore, hless⟩ :=
    hpass.losses_le (by rw [haccepted.frame.config, hreceived.frame.config, hage]) hquiet
  rw [hbefore] at hmore hless
  dsimp only at hexcess
  by_cases hsame : (s.add now m).2.losses = s.losses
  · exact .inl hsame
  · rcases hexcess with hnone | ⟨hone, hnew, hfull⟩
    · omega
    · exact .inr ⟨by omega, hnew, hfull⟩

end PulseJoin.Synchronizer
