import PulseJoin.Proofs.Synchronizer.Closed
import PulseJoin.Proofs.Synchronizer.Unread
import PulseJoin.Proofs.Synchronizer.Waiting

/-!
# A pass before or after the pull

`tryNext` runs a pass and pops; `next` pops, and runs a pass only where there was nothing to pop.
The outlet of a consumer that pulls takes in all it is handed, so a pass does the same whatever
waits in the queue (`evictExpired_ahead`).  And a pass does what a pass at an earlier time has done,
whether or not that one ran before (`evictExpired_evictExpired`).  So a pass can be moved behind the
pull, where it makes up for the one that `next` left out.
-/

namespace PulseJoin.Synchronizer

universe u

variable {α : Type u} {s s' : Synchronizer α} {r : Resolution α} {p : PulseId} {w : Pending α}
  {now later : UInt64}

/-! ## Up to the journal -/

theorem congr_of_recording {β : Type*} (g : Synchronizer α → β × Synchronizer α)
    (hg : ∀ old s, g (recording old s) = (g s).map id (recording old))
    (h : s.clearJournal = s'.clearJournal) :
    (g s).1 = (g s').1 ∧ (g s).2.clearJournal = (g s').2.clearJournal := by
  have hcleared (t : Synchronizer α) : g t = (g t.clearJournal).map id (recording t.journal) := by
    rw [← hg, recording_clearJournal]
  rw [hcleared s, hcleared s', h]
  exact ⟨rfl, rfl⟩

theorem clearJournal_evictExpired (h : s.clearJournal = s'.clearJournal) (now : UInt64) :
    (s.evictExpired now).2.clearJournal = (s'.evictExpired now).2.clearJournal :=
  (congr_of_recording (·.evictExpired now)
    (fun old t => (unread_recording old).evictExpired t now) h).2

theorem clearJournal_look (hlook : s.resolveOldest now = (none, s')) :
    s'.clearJournal = s.clearJournal := by
  rw [eq_of_look hlook]
  rfl

/-! ## One pass after another -/

theorem resolve_of_resolved (h : s.resolveOldest now = (some r, s')) :
    s.resolve now = (((s'.settle r).resolve now).1 + 1, ((s'.settle r).resolve now).2) := by
  unfold resolve
  rw [size_resolved h, resolveUpTo, h]

theorem rest_of_resolve (h : (s.resolve now).1 = 0) : (s.resolveOldest now).1 = none := by
  rcases hstep : s.resolveOldest now with ⟨_ | r, s'⟩
  · rfl
  · rw [resolve_of_resolved hstep] at h
    cases h

theorem evictExpired_of_rest (hrest : (s.resolveOldest now).1 = none) :
    (s.evictExpired now).1 = 0 ∧ (s.evictExpired now).2.outlet = s.outlet ∧
      (s.evictExpired now).2.clearJournal = s.clearJournal := by
  unfold evictExpired
  split
  · exact ⟨rfl, rfl, rfl⟩
  · rw [resolve_of_rest hrest]
    exact ⟨rfl, rfl, rfl⟩

theorem pressure?_later {forced : Pressure} (h : s.pressure? now w = some forced)
    (hle : now ≤ later) : s.pressure? later w = some forced := by
  unfold pressure? at h ⊢
  split at h
  next hsize =>
    rw [if_pos hsize]
    exact h
  next hsize =>
    rw [if_neg hsize]
    split at h
    next hage =>
      obtain ⟨limit, hlimit, hold⟩ := (Option.any_eq_true _ _).1 hage
      have holder : limit < w.age later := by
        have hlt := UInt64.lt_iff_toNat_lt.1 (of_decide_eq_true hold)
        have hclock := UInt64.le_iff_toNat_le.1 hle
        rw [Pending.toNat_age] at hlt
        rw [UInt64.lt_iff_toNat_lt, Pending.toNat_age]
        omega
      rw [if_pos ((Option.any_eq_true _ _).2 ⟨limit, hlimit, decide_eq_true holder⟩)]
      exact h
    next => cases h

/-- A pulse that may leave may do so later.  If another reason has come up by then, it is complete.
-/
theorem verdict_later {pressure : Option Pressure} (h : s.verdict now p w = .ready pressure)
    (hle : now ≤ later) :
    ∃ pressure', s.verdict later p w = .ready pressure' ∧
      (pressure' = pressure ∨ s.schedules.expectedCount p ≤ w.size) := by
  cases hnow : s.pressure? now w with
  | none =>
    obtain ⟨hcomplete, hnext⟩ := (verdict_eq_ready_iff hnow).1 ⟨pressure, h⟩
    exact ⟨_, verdict_of_next hcomplete (pulseMissing_eq_false_iff.1 hnext) later, .inr hcomplete⟩
  | some forced =>
    have hready {time : UInt64} (hforced : s.pressure? time w = some forced) :
        s.verdict time p w = .ready (some forced) := by
      unfold verdict
      rw [hforced]
    rw [hready hnow] at h
    cases h
    exact ⟨_, hready (pressure?_later hnow hle), .inl rfl⟩

theorem settle_of_complete (hcomplete : r.bundle.isComplete = true) (s : Synchronizer α)
    (pressure : Option Pressure) : s.settle ⟨r.bundle, pressure⟩ = s.settle r := by
  unfold settle
  rw [if_pos hcomplete, if_pos hcomplete]

/-- What is resolved now is resolved later, with the same result. -/
theorem resolveOldest_later (h : s.resolveOldest now = (some r, s')) (hle : now ≤ later) :
    ∃ r', s.resolveOldest later = (some r', s') ∧ s'.settle r' = s'.settle r := by
  obtain ⟨w, hfirst, hready, hbundle, rfl⟩ := resolveOldest_eq_some h
  obtain ⟨pressure, hlater, hreason⟩ := verdict_later hready hle
  refine ⟨⟨r.bundle, pressure⟩, ?_, ?_⟩
  · rw [resolveOldest_of_ready hfirst hlater, ← hbundle]
  · rcases hreason with rfl | hcomplete
    · rfl
    · refine settle_of_complete ?_ _ pressure
      rw [hbundle]
      exact decide_eq_true hcomplete

theorem resolve_resolveUpTo (hle : now ≤ later) (limit : Nat) :
    ((resolveUpTo now limit s).2.resolve later).2.clearJournal =
      (s.resolve later).2.clearJournal := by
  induction limit generalizing s with
  | zero => rfl
  | succ limit ih =>
    unfold resolveUpTo
    rcases hstep : s.resolveOldest now with ⟨_ | r, s'⟩
    · exact (congr_of_recording (·.resolve later)
        (fun old t => (unread_recording old).resolve t later) (clearJournal_look hstep)).2
    · obtain ⟨r', hlater, hsettle⟩ := resolveOldest_later hstep hle
      rw [resolve_of_resolved hlater, hsettle]
      exact ih

theorem closed_evictExpired (s : Synchronizer α) (now : UInt64) :
    (s.evictExpired now).2.closed = s.closed := by
  obtain ⟨acts, hruns, hacts⟩ := s.performs_evictExpired now
  have hcloses : Act.closes acts = false := congrArg History.closed hacts
  rw [hruns.closed_eq, hcloses, Bool.or_false]

theorem evictExpired_of_open (hopen : s.closed = false) (now : UInt64) :
    s.evictExpired now = s.resolve now := by
  unfold evictExpired
  rw [hopen]
  rfl

/-- A pass comes to the same whether or not another one ran before it, at an earlier time. -/
theorem evictExpired_evictExpired (hle : now ≤ later) :
    ((s.evictExpired now).2.evictExpired later).2.clearJournal =
      (s.evictExpired later).2.clearJournal := by
  cases hclosed : s.closed with
  | true =>
    have hnone : s.evictExpired now = (0, s) := if_pos hclosed
    rw [hnone]
  | false =>
    have hstill := (s.closed_evictExpired now).trans hclosed
    rw [evictExpired_of_open hstill, evictExpired_of_open hclosed, evictExpired_of_open hclosed]
    exact resolve_resolveUpTo hle _

/-! ## A bundle ahead in the queue -/

/-- A synchronizer with a bundle ahead of those in its queue. -/
def ahead (b : Bundle α) (s : Synchronizer α) : Synchronizer α :=
  { s with outlet := { s.outlet with queue := b :: s.outlet.queue } }

variable (b : Bundle α)

theorem resolveOldest_ahead (s : Synchronizer α) (now : UInt64) :
    (s.ahead b).resolveOldest now = (s.resolveOldest now).map id (ahead b) := by
  have hbuffer : (s.ahead b).buffer = s.buffer := rfl
  have hverdict : (s.ahead b).verdict = s.verdict := rfl
  unfold resolveOldest
  rw [hbuffer, hverdict]
  cases s.buffer.first? with
  | none => rfl
  | some e =>
    dsimp only
    cases s.verdict now e.1 e.2 <;> rfl

theorem outlet_settle (s : Synchronizer α) (r : Resolution α) :
    (s.settle r).outlet.mode = s.outlet.mode ∧ (s.settle r).outlet.closed = s.outlet.closed := by
  rw [settle_outlet]
  split
  · exact Outlet.offer_frame _ _
  · exact ⟨rfl, rfl⟩

theorem pulls_settle (s : Synchronizer α) (r : Resolution α) :
    (s.settle r).outlet.pulls = s.outlet.pulls := by
  unfold Outlet.pulls
  rw [(outlet_settle s r).1]

theorem outlet_closed_resolveUpTo (limit : Nat) (s : Synchronizer α) :
    (resolveUpTo now limit s).2.outlet.closed = s.outlet.closed := by
  induction limit generalizing s with
  | zero => rfl
  | succ limit ih =>
    unfold resolveUpTo
    rcases hstep : s.resolveOldest now with ⟨_ | r, s'⟩
    · exact congrArg Outlet.closed (steady_look hstep).outlet
    · obtain ⟨w, -, -, -, rfl⟩ := resolveOldest_eq_some hstep
      exact (ih _).trans (outlet_settle _ r).2

theorem outlet_closed_evictExpired (s : Synchronizer α) (now : UInt64) :
    (s.evictExpired now).2.outlet.closed = s.outlet.closed := by
  unfold evictExpired
  split
  · rfl
  · exact outlet_closed_resolveUpTo _ s

theorem ahead_of_head? {b : Bundle α} (h : s.outlet.queue.head? = some b) :
    ahead b { s with outlet := s.outlet.drop } = s := by
  obtain ⟨queue, hqueue⟩ := List.head?_eq_some_iff.1 h
  have hfront : { s.outlet with queue := b :: s.outlet.queue.tail } = s.outlet := by
    rw [hqueue, List.tail_cons, ← hqueue]
  unfold ahead Outlet.drop
  rw [hfront]

section Pulls

variable (hpulls : s.outlet.pulls = true)

include hpulls

theorem deliver_ahead (c : Bundle α) (complete : Bool) :
    (s.ahead b).deliver c complete = (s.deliver c complete).ahead b := by
  have hmode : s.outlet.mode = .pull := eq_of_beq hpulls
  have hhandoff : (s.ahead b).outlet.handoff = s.outlet.handoff := by
    unfold Outlet.handoff Outlet.isFull ahead
    rw [hmode]
  unfold deliver Outlet.offer
  rw [hhandoff]
  cases s.outlet.handoff <;> rfl

theorem settle_ahead (r : Resolution α) : (s.ahead b).settle r = (s.settle r).ahead b := by
  unfold settle
  split
  · exact deliver_ahead b hpulls r.bundle true
  · have hsend : (s.ahead b).config.sendIncomplete = s.config.sendIncomplete := rfl
    dsimp only
    rw [note_config, note_config, hsend]
    split
    · exact deliver_ahead b (s := s.note _) hpulls r.bundle false
    · rfl

theorem resolveUpTo_ahead (limit : Nat) :
    resolveUpTo now limit (s.ahead b) = (resolveUpTo now limit s).map id (ahead b) := by
  induction limit generalizing s with
  | zero => rfl
  | succ limit ih =>
    unfold resolveUpTo
    rw [resolveOldest_ahead]
    rcases hstep : s.resolveOldest now with ⟨_ | r, s'⟩
    · rfl
    · obtain ⟨w, -, -, -, rfl⟩ := resolveOldest_eq_some hstep
      have hafter : (s.remove r.bundle.pulse).outlet.pulls = true := hpulls
      dsimp only [Prod.map, id]
      rw [settle_ahead b hafter, ih ((pulls_settle _ r).trans hafter)]
      rfl

/-- What waits for a consumer that pulls makes no difference to a pass. -/
theorem evictExpired_ahead (now : UInt64) :
    (s.ahead b).evictExpired now = (s.evictExpired now).map id (ahead b) := by
  have hclosed : (s.ahead b).closed = s.closed := rfl
  unfold evictExpired
  rw [hclosed]
  split
  · rfl
  · exact resolveUpTo_ahead b hpulls _

end Pulls

/-! ## The pull -/

theorem pop_of_open (hopen : s.outlet.closed = false) :
    s.pop = (s.outlet.queue.head?, { s with outlet := s.outlet.drop }) := by
  unfold pop Outlet.pop
  rw [hopen]
  rfl

theorem pop_ahead (hopen : s.outlet.closed = false) : (s.ahead b).pop = (some b, s) :=
  pop_of_open (s := s.ahead b) hopen

theorem tryNext_of_pulls (hpulls : s.outlet.pulls = true) (now : UInt64) :
    s.tryNext now = (s.evictExpired now).2.pop := by
  rw [tryNext_eq, if_pos hpulls]

theorem next_of_pulls (hpulls : s.outlet.pulls = true) (now : UInt64) :
    s.next now = pullWithin now (s.buffer.size + 1) s := if_pos hpulls

section Front

variable (hpulls : s.outlet.pulls = true) (hopen : s.outlet.closed = false) (now : UInt64)

include hpulls hopen

theorem tryNext_ahead : (s.ahead b).tryNext now = (some b, (s.evictExpired now).2) := by
  have hafter := (s.outlet_closed_evictExpired now).trans hopen
  rw [tryNext_of_pulls (s := s.ahead b) hpulls, evictExpired_ahead b hpulls]
  exact pop_ahead b hafter

theorem next_ahead : (s.ahead b).next now = (some b, s) := by
  rw [next_of_pulls (s := s.ahead b) hpulls, pullWithin, pop_ahead b hopen]

end Front

theorem pullWithin_of_rest (hrest : (s.resolveOldest now).1 = none) (rounds : Nat) :
    (pullWithin now rounds s).1 = s.pop.1 ∧
      (pullWithin now rounds s).2.clearJournal = s.pop.2.clearJournal := by
  cases rounds with
  | zero => exact ⟨rfl, rfl⟩
  | succ rounds =>
    have hpopped : (s.pop.2.resolveOldest now).1 = none :=
      (s.alike_pop.resolveOldest_eq now).trans hrest
    obtain ⟨hnone, -, hsame⟩ := evictExpired_of_rest hpopped
    unfold pullWithin
    rcases hpop : s.pop with ⟨_ | b, t⟩
    · rw [hpop] at hnone hsame
      dsimp only at hnone hsame ⊢
      rcases hpass : t.evictExpired now with ⟨n, t'⟩
      rw [hpass] at hnone hsame
      dsimp only at hnone hsame
      subst hnone
      exact ⟨rfl, hsame⟩
    · exact ⟨rfl, rfl⟩

/-- Where nothing is ready, a pull is a pass and a pop, however many passes it may run. -/
theorem pullWithin_of_empty (hopen : s.closed = false) (houtlet : s.outlet.closed = false)
    (hempty : s.outlet.queue = []) (now : UInt64) (rounds : Nat) :
    (pullWithin now (rounds + 1) s).1 = (s.evictExpired now).2.pop.1 ∧
      (pullWithin now (rounds + 1) s).2.clearJournal =
        (s.evictExpired now).2.pop.2.clearJournal := by
  have hnothing {t : Synchronizer α} (hsame : t.outlet = s.outlet) : t.pop = (none, t) := by
    have hnone : t.outlet.queue = [] := hsame ▸ hempty
    rw [pop_of_open (hsame ▸ houtlet), hnone, Outlet.drop_of_nil hnone]
    rfl
  have hresolve := evictExpired_of_open hopen now
  unfold pullWithin
  rw [hnothing rfl]
  dsimp only
  rcases hpass : s.evictExpired now with ⟨_ | n, t⟩
  · have hrest : (s.resolveOldest now).1 = none := by
      apply rest_of_resolve
      rw [← hresolve, hpass]
    have hsame := (evictExpired_of_rest hrest).2.1
    rw [hpass] at hsame
    rw [hnothing hsame]
    exact ⟨rfl, rfl⟩
  · -- A second pass has nothing left to resolve.
    have hrest : (t.resolveOldest now).1 = none := by
      have hdone : ((s.resolve now).2.resolveOldest now).1 = none :=
        resolveUpTo_rest _ (Nat.le_refl _)
      rwa [← hresolve, hpass] at hdone
    exact pullWithin_of_rest hrest rounds

/-- The two pulls hand out the same bundle, and a pass makes up for the one that `next` left out. -/
theorem tryNext_next (hpulls : s.outlet.pulls = true) (houtlet : s.outlet.closed = s.closed)
    (now : UInt64) :
    (s.tryNext now).1 = (s.next now).1 ∧ ∀ later, now ≤ later →
      ((s.tryNext now).2.evictExpired later).2.clearJournal =
        ((s.next now).2.evictExpired later).2.clearJournal := by
  by_cases hclosed : s.closed = true
  · have hpop : s.pop = (none, s) := by
      unfold pop Outlet.pop
      rw [houtlet, if_pos hclosed]
    have hpass : s.evictExpired now = (0, s) := if_pos hclosed
    have htried : s.tryNext now = (none, s) := by
      rw [tryNext_of_pulls hpulls, hpass, hpop]
    have hpulled : s.next now = (none, s) := by
      rw [next_of_pulls hpulls, pullWithin]
      simp only [hpop, hpass]
    rw [htried, hpulled]
    exact ⟨rfl, fun _ _ => rfl⟩
  rw [Bool.not_eq_true] at hclosed
  rw [hclosed] at houtlet
  cases hfront : s.outlet.queue.head? with
  | none =>
    have hempty := List.head?_eq_none_iff.1 hfront
    obtain ⟨hsame, hafter⟩ := pullWithin_of_empty hclosed houtlet hempty now s.buffer.size
    rw [tryNext_of_pulls hpulls, next_of_pulls hpulls]
    exact ⟨hsame.symm, fun later _ => clearJournal_evictExpired hafter.symm later⟩
  | some b =>
    obtain ⟨t, rfl⟩ : ∃ t, s = ahead b t := ⟨_, (ahead_of_head? hfront).symm⟩
    rw [tryNext_ahead b (s := t) hpulls houtlet, next_ahead b (s := t) hpulls houtlet]
    exact ⟨rfl, fun later hle => evictExpired_evictExpired hle⟩

end PulseJoin.Synchronizer
