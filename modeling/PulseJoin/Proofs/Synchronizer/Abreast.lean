import PulseJoin.Proofs.Synchronizer.Shift

/-!
# Operations side by side

Two synchronizers some pulses apart answer every operation alike and stay as far apart.  Within an
operation the startup rule may put one boundary at the end of the range and the other not; the pass
that follows resolves a pulse and puts both behind it.
-/

namespace PulseJoin

universe u

variable {α : Type u} {K : Int}

namespace Synchronizer

variable {s s' : Synchronizer α}

theorem Shifted.refusal? (h : Shifted K s s') {m : Message α} (hm : m.pulse.Fits K) :
    s'.refusal? (m.shift K) = (s.refusal? m).map (Prod.map id (·.shift K)) := by
  have hchannel : (m.shift K).channel = m.channel := rfl
  unfold Synchronizer.refusal?
  rw [h.closed, h.schedules, hchannel]
  split
  · rfl
  · cases hschedule : s.schedules.get? m.channel with
    | none => rfl
    | some schedule =>
      have hmem := (ScheduleSet.get?_eq_some_iff.1 hschedule).1
      have hexpects : schedule.expects (m.shift K).pulse = schedule.expects m.pulse :=
        Schedule.expects_of_moved (h.periods schedule hmem) hm.moved
      have hpassed : s'.marks.passed (m.shift K).pulse = s.marks.passed m.pulse := h.passed hm
      dsimp only
      rw [hexpects, hpassed]
      split
      · rfl
      · split
        next hstale =>
          rw [h.boundary_of_passed hm hstale]
          rfl
        next => rfl

/-! ## Passes -/

theorem Shifted.resolveUpTo (h : Shifted K s s') (now : UInt64) (limit : Nat) :
    (resolveUpTo now limit s').1 = (resolveUpTo now limit s).1 ∧
      Shifted K (resolveUpTo now limit s).2 (resolveUpTo now limit s').2 ∧
      ((resolveUpTo now limit s).1 ≠ 0 ∨ s'.marks.unresolved = s.marks.unresolved →
        (resolveUpTo now limit s').2.marks.unresolved =
          (resolveUpTo now limit s).2.marks.unresolved) := by
  induction limit generalizing s s' with
  | zero => exact ⟨rfl, h, fun hsame => hsame.resolve_left (not_not_intro rfl)⟩
  | succ limit ih =>
    obtain ⟨hresolution, hrest, hsame⟩ := h.resolveOldest now
    unfold Synchronizer.resolveUpTo
    rcases hlook : s.resolveOldest now with ⟨r, t⟩
    rcases hlook' : s'.resolveOldest now with ⟨r', t'⟩
    rw [hlook, hlook'] at hresolution hrest hsame
    dsimp only at hresolution hrest hsame
    subst hresolution
    cases r with
    | none => exact ⟨rfl, hrest, fun hboth => hsame (.inr (hboth.resolve_left (not_not_intro rfl)))⟩
    | some r =>
      -- Both boundaries are behind the resolved pulse now.
      have hafter : (t'.settle (r.shift K)).marks.unresolved = (t.settle r).marks.unresolved := by
        rw [(settle_alike t r).1.marks, (settle_alike t' _).1.marks]
        exact hsame (.inl (Option.some_ne_none r))
      obtain ⟨hcount, hend, hagree⟩ := ih (hrest.settle r)
      exact ⟨congrArg (· + 1) hcount, hend, fun _ => hagree (.inr hafter)⟩

theorem Shifted.resolve (h : Shifted K s s') (now : UInt64)
    (hsame : (s.resolve now).1 ≠ 0 ∨ s'.marks.unresolved = s.marks.unresolved) :
    (s'.resolve now).1 = (s.resolve now).1 ∧ Abreast K (s.resolve now).2 (s'.resolve now).2 := by
  unfold Synchronizer.resolve at hsame ⊢
  rw [h.buffer.size_eq]
  obtain ⟨hcount, hrest, hagree⟩ := h.resolveUpTo now s.buffer.size
  exact ⟨hcount, hrest, hagree hsame⟩

namespace Abreast

theorem note (h : Abreast K s s') (e : Event) : Abreast K (s.note e) (s'.note (e.shift K)) :=
  ⟨h.toShifted.note e, h.unresolved⟩

theorem evictExpired (h : Abreast K s s') (now : UInt64) :
    (s'.evictExpired now).1 = (s.evictExpired now).1 ∧
      Abreast K (s.evictExpired now).2 (s'.evictExpired now).2 := by
  unfold Synchronizer.evictExpired
  rw [h.closed]
  split
  · exact ⟨rfl, h⟩
  · exact h.toShifted.resolve now (.inr h.unresolved)

theorem startsWith (h : Abreast K s s') {a : Arrival α} (ha : a.pulse.Fits K) :
    s'.startsWith (a.shift K) = s.startsWith a := by
  unfold Synchronizer.startsWith
  rw [h.toShifted.completes ha, h.config, h.unresolved]

theorem resolve_accept (h : Abreast K s s') {a : Arrival α} (ha : s.Welcomes a.message)
    (hfits : a.pulse.Fits K) (now : UInt64) :
    Abreast K ((s.accept a.clock a.message).resolve now).2
      ((s'.accept a.clock (a.message.shift K)).resolve now).2 := by
  refine ((Shifted.accept h hfits).resolve now ?_).2
  by_cases hstarts : s.startsWith a = true
  · -- The pulse that fires the startup rule is resolved in the pass.
    left
    intro hnone
    have hturns := turns_of_startsWith ha hstarts now
    exact hturns (List.length_eq_zero_iff.1 ((length_turnsUpTo now _ _).trans hnone))
  · right
    have hmarks := (s.admitted_accept a).marks
    have hmarks' := (s'.admitted_accept (a.shift K)).marks
    rw [h.startsWith hfits, if_neg hstarts] at hmarks'
    rw [if_neg hstarts] at hmarks
    rw [hmarks, show (s'.accept a.clock (a.message.shift K)).marks = _ from hmarks']
    exact h.unresolved

theorem add (h : Abreast K s s') (now : UInt64) {m : Message α} (hm : m.pulse.Fits K) :
    (s'.add now (m.shift K)).1 = (s.add now m).1 ∧
      Abreast K (s.add now m).2 (s'.add now (m.shift K)).2 := by
  have hreceived : Abreast K (s.note .received) (s'.note .received) := h.note .received
  rw [add_eq, add_eq, h.toShifted.refusal? hm]
  rcases hrefusal : s.refusal? m with _ | ⟨o, e⟩
  · have hwelcome : (s.note .received).Welcomes m := refusal?_eq_none_iff.1 hrefusal
    dsimp only [Option.map_none]
    exact ⟨rfl, hreceived.resolve_accept (a := ⟨now, m⟩) hwelcome hm now⟩
  · exact ⟨rfl, hreceived.note e⟩

/-! ## Consumers -/

theorem with_outlet (h : Abreast K s s') {o o' : Outlet α} (ho : o' = o.shift K) :
    Abreast K { s with outlet := o } { s' with outlet := o' } :=
  ⟨{ h.toShifted with outlet := ho }, h.unresolved⟩

theorem pulls (h : Abreast K s s') : s'.outlet.pulls = s.outlet.pulls := by
  rw [h.outlet]
  rfl

theorem pop (h : Abreast K s s') :
    s'.pop.1 = s.pop.1.map (·.shift K) ∧ Abreast K s.pop.2 s'.pop.2 := by
  unfold Synchronizer.pop
  rw [h.outlet, Outlet.pop_shift]
  exact ⟨rfl, h.with_outlet rfl⟩

theorem receive (h : Abreast K s s') :
    s'.receive.1 = s.receive.1.shift K ∧ Abreast K s.receive.2 s'.receive.2 := by
  unfold Synchronizer.receive
  rw [h.outlet, Outlet.receive_shift]
  exact ⟨rfl, h.with_outlet rfl⟩

theorem tryNext (h : Abreast K s s') (now : UInt64) :
    (s'.tryNext now).1 = (s.tryNext now).1.map (·.shift K) ∧
      Abreast K (s.tryNext now).2 (s'.tryNext now).2 := by
  rw [tryNext_eq, tryNext_eq, h.pulls]
  split
  · exact (h.evictExpired now).2.pop
  · obtain ⟨hreceipt, hrest⟩ := h.receive
    refine ⟨?_, hrest⟩
    dsimp only
    rw [hreceipt]
    cases s.receive.1 <;> rfl

theorem pullWithin (h : Abreast K s s') (now : UInt64) (rounds : Nat) :
    (pullWithin now rounds s').1 = (pullWithin now rounds s).1.map (·.shift K) ∧
      Abreast K (pullWithin now rounds s).2 (pullWithin now rounds s').2 := by
  induction rounds generalizing s s' with
  | zero => exact h.pop
  | succ rounds ih =>
    obtain ⟨hbundle, hrest⟩ := h.pop
    unfold Synchronizer.pullWithin
    rcases htaken : s.pop with ⟨b, t⟩
    rcases htaken' : s'.pop with ⟨b', t'⟩
    rw [htaken, htaken'] at hbundle hrest
    dsimp only at hbundle hrest
    subst hbundle
    cases b with
    | some b => exact ⟨rfl, hrest⟩
    | none =>
      obtain ⟨hcount, hafter⟩ := hrest.evictExpired now
      dsimp only [Option.map_none]
      rcases hpass : t.evictExpired now with ⟨n, r⟩
      rcases hpass' : t'.evictExpired now with ⟨n', r'⟩
      rw [hpass, hpass'] at hcount hafter
      dsimp only at hcount hafter
      subst hcount
      cases n' with
      | zero => exact ⟨rfl, hafter⟩
      | succ n => exact ih hafter

theorem next (h : Abreast K s s') (now : UInt64) :
    (s'.next now).1 = (s.next now).1.map (·.shift K) ∧
      Abreast K (s.next now).2 (s'.next now).2 := by
  unfold Synchronizer.next
  rw [h.pulls, h.buffer.size_eq]
  split
  · exact h.pullWithin now _
  · exact ⟨rfl, h.note .pullWithoutQueue⟩

/-! ## The boundary and the close -/

theorem boundary?_eq (h : Abreast K s s') : s'.boundary? = s.boundary?.map (·.shift K) := by
  show s'.marks.boundary? = s.marks.boundary?.map _
  unfold Watermarks.boundary?
  rw [h.unresolved]
  split
  · rfl
  next hmoved =>
    rw [Watermarks.unresolved_iff] at hmoved
    rw [Option.map_some, (h.boundary.resolve_right fun hmin => hmoved hmin.1).shift_eq]

theorem fits_boundary (h : Abreast K s s') {p : PulseId} (hp : s.boundary? = some p) :
    p.Fits K := by
  obtain ⟨rfl, hmin⟩ := Watermarks.boundary?_eq_some_iff.1 hp
  have hother : s'.boundary? = some (s.marks.boundary.shift K) := by
    rw [h.boundary?_eq, hp]
    rfl
  obtain ⟨hboundary, hmin'⟩ := Watermarks.boundary?_eq_some_iff.1 hother
  have hmoved : PulseId.Moved K s.marks.boundary (s.marks.boundary.shift K) := by
    rcases h.toShifted.boundary with hmoved | ⟨hstart, -⟩
    · rwa [hboundary] at hmoved
    · rw [hstart] at hmin
      exact absurd hmin Int64.lt_irrefl
  rw [Int64.lt_iff_toInt_lt] at hmin hmin'
  rw [hmoved] at hmin'
  exact ⟨hmin, hmin', hmoved ▸ Int64.toInt_le _⟩

theorem close (h : Abreast K s s') : Abreast K s.close s'.close := by
  unfold Synchronizer.close
  rw [h.closed]
  split
  · exact h
  · have hclosed : Abreast K { s with closed := true, outlet := s.outlet.close }
        { s' with closed := true, outlet := s'.outlet.close } :=
      ⟨{ h.toShifted with
          closed := rfl
          outlet := by rw [h.outlet, Outlet.close_shift] }, h.unresolved⟩
    have hboundary : s'.marks.boundary? = s.marks.boundary?.map (·.shift K) := h.boundary?_eq
    rw [h.buffer.size_eq, hboundary]
    exact hclosed.note (.closed s.buffer.size s.marks.boundary?)

end Abreast

end Synchronizer

end PulseJoin
