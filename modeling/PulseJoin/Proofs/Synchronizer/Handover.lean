import PulseJoin.Proofs.Synchronizer.Counters
import PulseJoin.Proofs.Synchronizer.Deliveries

/-!
# What becomes of resolved pulses

A resolved pulse is dropped, refused by a full queue or accepted, and counted accordingly.  The
bundles that the queue accepted are, in order, those that consumers took, those that were thrown
away at the close and those that still wait; the journal says of them that they were delivered.
-/

namespace PulseJoin

universe u v

variable {α : Type u}

namespace Turn

def wanted (u : Turn α) : Bool := u.before.wants u.bundle

def accepted (u : Turn α) : Bool := u.before.accepts u.bundle

end Turn

namespace Synchronizer

variable {s s' : Synchronizer α} {acts : List (Act α)} {thrown : List (Bundle α)}

theorem Sound.handoff_eq_full (h : Sound acts s) (hopen : s.closed = false) :
    (s.outlet.handoff == .full) = !(s.outlet.handoff == .accepted) := by
  rw [h.handoff hopen]
  cases s.outlet.isFull <;> rfl

theorem settle_queue (s : Synchronizer α) (r : Resolution α) :
    (s.settle r).outlet.queue =
      s.outlet.queue ++ if s.accepts r.bundle then [r.bundle] else [] := by
  rw [settle_outlet]
  unfold accepts
  cases s.wants r.bundle with
  | false => exact (List.append_nil _).symm
  | true =>
    rw [if_pos rfl, Outlet.offer_queue, Bool.true_and]
    cases s.outlet.handoff
    case accepted => rfl
    all_goals exact (List.append_nil _).symm

theorem Runs.wanted_turn (h : s.Runs acts s') (hfresh : s.Fresh) {u : Turn α}
    (hu : u ∈ Act.turns acts) : u.wanted = s.wants u.bundle := by
  obtain ⟨before, after, t', -, hbefore, -⟩ := h.turn hfresh hu
  unfold Turn.wanted wants
  rw [hbefore.frame.config]

theorem Acts.wants_remove {u : Turn α} (h : s.Acts (.resolve u) s') :
    (s.remove u.pulse).wants u.resolution.bundle = u.wanted := by
  unfold Turn.wanted
  rw [h.of_resolve.1]
  rfl

theorem Acts.accepts_remove {u : Turn α} (h : s.Acts (.resolve u) s') :
    (s.remove u.pulse).accepts u.resolution.bundle = u.accepted := by
  unfold Turn.accepted
  rw [h.of_resolve.1]
  rfl

theorem map_filter_singleton {β : Type u} {γ : Type v} (p : β → Bool) (f : β → γ) (x : β) :
    ([x].filter p).map f = if p x then [f x] else [] := by
  rw [List.filter_singleton]
  cases p x <;> rfl

/-! ## The notes of deliveries -/

theorem delivered?_settleEvents (s : Synchronizer α) (r : Resolution α) :
    (s.settleEvents r).filterMap Event.delivered? =
      if s.accepts r.bundle then [r.bundle.pulse] else [] := by
  unfold settleEvents accepts wants
  cases r.bundle.isComplete <;> cases s.config.sendIncomplete <;> cases s.outlet.handoff <;> rfl

theorem Acts.delivered_eq {a : Act α} (h : s.Acts a s') :
    s'.delivered = s.delivered ++ ((Act.turns [a]).filter Turn.accepted).map Turn.pulse := by
  have hnotes : s'.delivered =
      s.delivered ++ (s.events a).reverse.filterMap Event.delivered? := by
    unfold delivered
    rw [h.notes.journal, List.reverse_append, List.filterMap_append]
  rw [hnotes]
  refine congrArg (s.delivered ++ ·) ?_
  cases a with
  | resolve u =>
    have hevents : (s.events (.resolve u)).filterMap Event.delivered? =
        if u.accepted then [u.pulse] else [] := by
      show (_ ++ [_]).filterMap _ = _
      rw [List.filterMap_append, delivered?_settleEvents, h.accepts_remove]
      exact List.append_nil _
    rw [List.filterMap_reverse, hevents]
    show _ = ([u].filter Turn.accepted).map Turn.pulse
    rw [map_filter_singleton]
    cases u.accepted <;> rfl
  | _ =>
    -- No other action notes that a pulse has ended.
    refine List.filterMap_eq_nil_iff.2 fun e he => ?_
    cases hsettled : e.settled? with
    | none => cases e <;> first | rfl | cases hsettled
    | some p =>
      obtain ⟨u, hother, -⟩ := h.resolve_of_settled (List.mem_reverse.1 he) hsettled
      cases hother

/-- The journal says of exactly the accepted pulses that they were delivered. -/
theorem Runs.delivered_eq (h : s.Runs acts s') (hnone : s.delivered = []) :
    s'.delivered = ((Act.turns acts).filter Turn.accepted).map Turn.pulse := by
  induction h with
  | refl => exact hnone
  | step _ hact ih =>
    rw [hact.delivered_eq, ih, Act.turns_append, List.filter_append, List.map_append]

theorem Runs.accepted_turn (h : s.Runs acts s') (hfresh : s.Fresh) {u : Turn α}
    (hu : u ∈ Act.turns acts) (hcomplete : u.bundle.isComplete = true)
    (hroom : ∀ p complete, Event.queueFull p complete ∉ s'.journal) : u.accepted = true := by
  obtain ⟨before, after, t', -, -, hsound, hact, hafter⟩ := h.turn hfresh hu
  have hhandoff := hsound.accepted hact hcomplete fun p complete hmem =>
    hroom p complete (hafter.journal_suffix.subset hmem)
  unfold Turn.accepted accepts wants
  rw [hcomplete, hhandoff]
  rfl

/-! ## The resolved pulses -/

/-- What became of the resolved pulses; `thrown` lists the bundles thrown away at the close. -/
structure Handed (acts : List (Act α)) (thrown : List (Bundle α)) (s : Synchronizer α) : Prop where
  complete : s.tally .complete = (Act.turns acts).countP fun u => u.accepted && u.bundle.isComplete
  incomplete : s.tally .incomplete =
    (Act.turns acts).countP fun u => u.accepted && !u.bundle.isComplete
  refused : s.tally .queueFull = (Act.turns acts).countP fun u => u.wanted && !u.accepted
  dropped : s.tally .evicted = (Act.turns acts).countP fun u => !u.wanted
  entered : ((Act.turns acts).filter Turn.accepted).map Turn.bundle =
    Act.taken acts ++ thrown ++ s.outlet.queue
  spent : thrown = [] ∨ s.closed = true ∧ s.outlet.queue = []

namespace Handed

theorem of_fresh (h : s.Fresh) (hquiet : ∀ k, s.tally k = 0) : Handed [] [] s where
  complete := hquiet _
  incomplete := hquiet _
  refused := hquiet _
  dropped := hquiet _
  entered := h.queue.symm
  spent := .inl rfl

theorem thrown_eq_nil (h : Handed acts thrown s) (hopen : s.closed = false) : thrown = [] := by
  rcases h.spent with hnone | ⟨hclosed, -⟩
  · exact hnone
  · rw [hopen] at hclosed
    cases hclosed

theorem keep {act : Act α} {thrown' : List (Bundle α)} (h : Handed acts thrown s)
    (hact : s.Acts act s') (hturns : Act.turns [act] = [])
    (hsum : ∀ k ∈ Tally.ofResolutions, k.sum (s.events act) = 0)
    (hentered : Act.taken acts ++ Act.taken [act] ++ thrown' ++ s'.outlet.queue =
      Act.taken acts ++ thrown ++ s.outlet.queue)
    (hspent : thrown' = [] ∨ s'.closed = true ∧ s'.outlet.queue = []) :
    Handed (acts ++ [act]) thrown' s' := by
  have hsame {k : Tally} (hk : k ∈ Tally.ofResolutions) : s'.tally k = s.tally k := by
    rw [hact.notes.tally, hsum k hk, Nat.zero_add]
  have hstill : Act.turns (acts ++ [act]) = Act.turns acts := by
    rw [Act.turns_append, hturns, List.append_nil]
  constructor
  case complete => rw [hsame (by decide), hstill]; exact h.complete
  case incomplete => rw [hsame (by decide), hstill]; exact h.incomplete
  case refused => rw [hsame (by decide), hstill]; exact h.refused
  case dropped => rw [hsame (by decide), hstill]; exact h.dropped
  case entered => rw [hstill, Act.taken_append, hentered]; exact h.entered
  case spent => exact hspent

theorem resolve {u : Turn α} (h : Handed acts thrown s) (hsound : Sound acts s)
    (hu : s.Acts (.resolve u) s') : Handed (acts ++ [Act.resolve u]) thrown s' := by
  obtain ⟨-, hopen, hs', -⟩ := hu.of_resolve
  have htally (k : Tally) : s'.tally k =
      s.tally k + k.sum ((s.remove u.pulse).settleEvents u.resolution) := by
    rw [hu.notes.tally, sum_resolve, Nat.add_comm]
  have haccepted := hu.accepts_remove
  have hwanted := hu.wants_remove
  -- The outlet of an open synchronizer is open, so what it does not accept it refuses as full.
  have hrefused : (u.wanted && (s.remove u.pulse).outlet.handoff == .full) =
      (u.wanted && !u.accepted) := by
    have hopposite : ((s.remove u.pulse).outlet.handoff == .full) =
        !((s.remove u.pulse).outlet.handoff == .accepted) := hsound.handoff_eq_full hopen
    rw [← haccepted]
    unfold accepts
    rw [hwanted, hopposite]
    cases u.wanted <;> rfl
  have hturns : Act.turns (acts ++ [Act.resolve u]) = Act.turns acts ++ [u] := Act.turns_append _ _
  have hcount (p : Turn α → Bool) :
      (Act.turns (acts ++ [Act.resolve u])).countP p = (Act.turns acts).countP p + (p u).toNat := by
    rw [hturns, List.countP_append, List.countP_singleton]
    cases p u <;> rfl
  constructor
  case complete =>
    rw [htally, hcount, h.complete, sum_settleEvents, haccepted]
    rfl
  case incomplete =>
    rw [htally, hcount, h.incomplete, sum_settleEvents, haccepted]
    rfl
  case refused =>
    rw [htally, hcount, h.refused, sum_settleEvents, hwanted, hrefused]
  case dropped =>
    rw [htally, hcount, h.dropped, sum_settleEvents, hwanted]
  case entered =>
    have htaken : Act.taken (acts ++ [Act.resolve u]) = Act.taken acts := by simp [Act.taken]
    rw [hturns, List.filter_append, List.map_append, h.entered, htaken, h.thrown_eq_nil hopen, hs',
      settle_queue, haccepted, map_filter_singleton, List.append_assoc]
    rfl
  case spent => exact .inl (h.thrown_eq_nil hopen)

theorem close (h : Handed acts thrown s) (hact : s.Acts .close s') :
    Handed (acts ++ [Act.close]) (if s.outlet.pulls then s.outlet.queue else []) s' := by
  cases hact with
  | close hopen =>
    have hclose : s.close = { s with closed := true, outlet := s.outlet.close }.note
        (.closed s.buffer.size s.marks.boundary?) := by
      unfold Synchronizer.close
      rw [hopen]
      rfl
    have hqueue : s.close.outlet.queue = if s.outlet.pulls then [] else s.outlet.queue := by
      rw [hclose]
      rfl
    apply h.keep (.close hopen) rfl
    · intro k _
      cases k <;> rfl
    · rw [hqueue, h.thrown_eq_nil hopen]
      show Act.taken acts ++ [] ++ _ ++ _ = _
      cases s.outlet.pulls <;> simp
    · rw [hqueue, hclose]
      cases s.outlet.pulls
      · exact .inl rfl
      · exact .inr ⟨rfl, rfl⟩

theorem step {act : Act α} (h : Handed acts thrown s) (hsound : Sound acts s)
    (hact : s.Acts act s') (hopen : Act.closes [act] = false) :
    Handed (acts ++ [act]) thrown s' := by
  have hclosed : s'.closed = s.closed := by
    rw [hact.closed_eq, hopen, Bool.or_false]
  -- An action that leaves the outlet alone and counts no resolution changes nothing here.
  have hquiet (hturns : Act.turns [act] = []) (htaken : Act.taken [act] = [])
      (hsum : ∀ k ∈ Tally.ofResolutions, k.sum (s.events act) = 0) :
      Handed (acts ++ [act]) thrown s' := by
    have houtlet := hact.outlet_eq hturns htaken hopen
    apply h.keep hact hturns hsum
    · rw [htaken, houtlet, List.append_nil]
    · rw [hclosed, houtlet]
      exact h.spent
  cases hact with
  | remark hremark =>
    exact hquiet rfl rfl fun k hk => adds_of_isRemark hremark (List.mem_append_right _ hk)
  | accept =>
    exact hquiet rfl rfl fun k hk => sum_acceptEvents_eq_zero (List.mem_append_right _ hk)
  | look => exact hquiet rfl rfl fun k _ => sum_lookEvents s _ k
  | resolve hstill hr => exact h.resolve hsound (.resolve hstill hr)
  | take htake =>
    obtain ⟨rest, hrest⟩ := List.head?_eq_some_iff.1 htake
    -- A bundle can be taken only as long as none was thrown away.
    have hthrown : thrown = [] := by
      rcases h.spent with hnone | ⟨-, hempty⟩
      · exact hnone
      · rw [hempty] at hrest
        cases hrest
    apply h.keep (.take htake) rfl (fun _ _ => rfl)
    · show Act.taken acts ++ [_] ++ thrown ++ s.outlet.queue.tail = _
      rw [hthrown, hrest, List.append_nil, List.append_nil, List.append_assoc]
      rfl
    · exact .inl hthrown
  | close => cases hopen

theorem run {later : List (Act α)} (h : Handed acts thrown s) (hsound : Sound acts s)
    (hrun : s.Runs later s') (hopen : Act.closes later = false) :
    Handed (acts ++ later) thrown s' ∧ Sound (acts ++ later) s' := by
  induction hrun with
  | refl =>
    rw [List.append_nil]
    exact ⟨h, hsound⟩
  | step _ act ih =>
    rw [Act.closes_append, Bool.or_eq_false_iff] at hopen
    obtain ⟨hhanded, hsofar⟩ := ih hopen.1
    rw [← List.append_assoc]
    exact ⟨hhanded.step hsofar act hopen.2, hsofar.step act⟩

/-! ## The sums -/

theorem countP_split (us : List (Turn α)) (p q : Turn α → Bool) :
    us.countP (fun u => p u && q u) + us.countP (fun u => p u && !q u) = us.countP p := by
  rw [List.countP_eq_countP_filter_add us p q, List.countP_filter, List.countP_filter]

theorem sum_delivered (h : Handed acts thrown s) :
    s.tally .complete + s.tally .incomplete = (Act.turns acts).countP Turn.accepted := by
  rw [h.complete, h.incomplete]
  exact countP_split _ _ _

theorem sum_wanted (h : Handed acts thrown s) :
    s.tally .complete + s.tally .incomplete + s.tally .queueFull =
      (Act.turns acts).countP Turn.wanted := by
  -- Only bundles that consumers want are handed over.
  have haccepted : (Act.turns acts).countP Turn.accepted =
      (Act.turns acts).countP fun u => u.wanted && u.accepted := by
    apply List.countP_congr
    intro u _
    rw [Bool.and_eq_true]
    exact ⟨fun haccepted => ⟨(Bool.and_eq_true_iff.1 haccepted).1, haccepted⟩, And.right⟩
  rw [h.sum_delivered, h.refused, haccepted]
  exact countP_split _ _ _

theorem sum_eq (h : Handed acts thrown s) :
    s.tally .complete + s.tally .incomplete + s.tally .queueFull + s.tally .evicted =
      (Act.turns acts).length := by
  rw [h.sum_wanted, h.dropped, List.length_eq_countP_add_countP Turn.wanted]
  simp only [Bool.not_eq_true, Bool.decide_eq_false]

end Handed

end Synchronizer

end PulseJoin
