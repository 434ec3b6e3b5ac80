import PulseJoin.Proofs.Synchronizer.Handover
import PulseJoin.Proofs.Synchronizer.Waiting

/-!
# What a pass resolves

A pass asks again after each removal whether the oldest pulse may leave: one pulse fewer is buffered
then, and the boundary stands at the pulse that left.  So the pulses it takes are the longest
beginning of the buffer in which each one may leave when its turn comes (`MayResolve`).  This holds
in every `Regular` state, also between the admission of a message and the pass that follows it, and
whatever the queue holds.
-/

namespace PulseJoin

universe u

variable {α : Type u}

namespace Outlet

/-- Of bundles that are handed over one after the other, those that the outlet takes in: all on a
pull, else as many as there is room for. -/
def admits (o : Outlet α) (bundles : List (Bundle α)) : List (Bundle α) :=
  if o.closed then []
  else match o.mode with
    | .push capacity => bundles.take (capacity.toNat - o.queue.length)
    | .pull => bundles

variable (o : Outlet α)

theorem admits_prefix (bundles : List (Bundle α)) : o.admits bundles <+: bundles := by
  unfold admits
  cases o.closed
  · cases o.mode with
    | push capacity => exact List.take_prefix _ _
    | pull => exact List.prefix_refl _
  · exact List.nil_prefix

@[simp] theorem admits_nil : o.admits [] = [] := List.prefix_nil.1 (o.admits_prefix [])

theorem admits_cons (b : Bundle α) (bundles : List (Bundle α)) :
    o.admits (b :: bundles) =
      (if o.handoff = .accepted then [b] else []) ++ (o.offer b).admits bundles := by
  unfold admits
  rw [(o.offer_frame b).1, (o.offer_frame b).2, offer_queue]
  unfold handoff isFull
  cases o.closed
  · cases o.mode with
    | push capacity =>
      by_cases hfull : capacity.toNat ≤ o.queue.length
      · have hroom : capacity.toNat - o.queue.length = 0 := Nat.sub_eq_zero_of_le hfull
        simp [hfull, hroom]
      · have hroom : capacity.toNat - o.queue.length =
            capacity.toNat - (o.queue.length + 1) + 1 := by omega
        simp [hfull, hroom]
    | pull => rfl
  · rfl

end Outlet

namespace Synchronizer

variable {s s' : Synchronizer α} {acts : List (Act α)} {u : Turn α} {p : PulseId} {w : Pending α}
  {now : UInt64} {k : Nat}

/-! ## Which pulses may leave -/

/-- The buffered pulses lie above the boundary and have values of expected channels only. -/
structure Regular (s : Synchronizer α) : Prop where
  above : ∀ e ∈ s.buffer.toList, s.marks.boundary < e.1
  expected : ∀ e ∈ s.buffer.toList, e.2.values.keys ⊆ s.schedules.expectedChannels e.1

theorem Sound.regular (h : Sound acts s) : s.Regular where
  above := h.held.above
  expected e he channel hchannel := by
    have hsome : (e.2.values.get? channel).isSome = true := SortedMap.mem_keys_iff.1 hchannel
    rw [h.held.values e he, Arrival.latest?_isSome_iff] at hsome
    obtain ⟨a, ha, hsame, hpulse⟩ := hsome
    have hexpected := h.expected a ha
    rwa [hsame, hpulse] at hexpected

/-- Whether the oldest of the pulses that wait may leave at time `now`, with the boundary at a place
below it: they are too many, or it is too old, or it has all its channels and no pulse is expected
on any channel between the reference and it. -/
def MayLeave (s : Synchronizer α) (now : UInt64) (boundary : PulseId) :
    List (PulseId × Pending α) → Prop
  | [] => False
  | (p, w) :: later =>
    s.config.maxBuffered.toNat < later.length + 1 ∨
      (∃ limit, s.config.maxAge? = some limit ∧
        limit.toNat < now.toNat - w.createdAt.toNat) ∨
      (∀ channel ∈ s.schedules.expectedChannels p, (w.values.get? channel).isSome = true) ∧
        ∀ q, max s.marks.smallestSeen boundary < q → q < p → s.schedules.expectedChannels q = []

/-- Where the boundary stands after the first `k` buffered pulses. -/
def boundaryAfter (s : Synchronizer α) (k : Nat) : PulseId :=
  (s.buffer.keys.take k).getLast?.getD s.marks.boundary

/-- Whether each of the first `k` buffered pulses may leave when those before it have left. -/
def MayResolve (s : Synchronizer α) (now : UInt64) (k : Nat) : Prop :=
  ∀ i < k, s.MayLeave now (s.boundaryAfter i) (s.buffer.toList.drop i)

theorem le_boundaryAfter_succ (hfirst : s.buffer.first? = some (p, w)) (k : Nat) :
    p ≤ s.boundaryAfter (k + 1) := by
  obtain ⟨later, hentries⟩ := List.head?_eq_some_iff.1 hfirst
  have hkeys : s.buffer.keys = p :: later.map (·.1) := by
    unfold SortedMap.keys
    rw [hentries, List.map_cons]
  unfold boundaryAfter
  rw [hkeys, List.take_succ_cons, List.getLast?_cons, Option.getD_some]
  cases hlast : ((later.map (·.1)).take k).getLast? with
  | none => exact Int64.le_refl _
  | some q =>
    have hq : q ∈ s.buffer.keys :=
      hkeys ▸ List.mem_cons_of_mem _ (List.mem_of_mem_take (List.mem_of_getLast? hlast))
    exact PulseBuffer.le_of_first? hfirst (SortedMap.mem_keys_iff.1 hq)

theorem pressure?_ne_none_iff :
    s.pressure? now w ≠ none ↔ s.config.maxBuffered.toNat < s.buffer.size ∨
      ∃ limit, s.config.maxAge? = some limit ∧ limit.toNat < now.toNat - w.createdAt.toNat := by
  rw [ne_eq, pressure?_eq_none_iff, not_and_or, Nat.not_le, not_forall]
  refine or_congr_right (exists_congr fun limit => ?_)
  rw [Classical.not_imp, UInt64.le_iff_toNat_le, Pending.toNat_age, Nat.not_le]

theorem expectedCount_le_iff (hsub : w.values.keys ⊆ s.schedules.expectedChannels p) :
    s.schedules.expectedCount p ≤ w.size ↔
      ∀ channel ∈ s.schedules.expectedChannels p, (w.values.get? channel).isSome = true := by
  have hlength := length_le_iff_of_subset w.values.keys_nodup
    (s.schedules.expectedChannels_nodup p) hsub
  rw [ScheduleSet.length_expectedChannels, SortedMap.length_keys] at hlength
  refine hlength.trans ⟨fun hsame channel hchannel => ?_, fun hall channel => ?_⟩
  · exact SortedMap.mem_keys_iff.1 ((hsame channel).2 hchannel)
  · exact ⟨fun hchannel => hsub hchannel,
      fun hchannel => SortedMap.mem_keys_iff.2 (hall channel hchannel)⟩

theorem expectedChannels_eq_nil_iff : s.schedules.expectedChannels p = [] ↔
    s.schedules.expectedCount p = 0 := by
  rw [← ScheduleSet.length_expectedChannels, List.length_eq_zero_iff]

theorem Regular.mayLeave_iff (h : s.Regular) (hfirst : s.buffer.first? = some (p, w)) :
    s.MayLeave now s.marks.boundary s.buffer.toList ↔
      ∃ pressure, s.verdict now p w = .ready pressure := by
  have hsub := h.expected _ (SortedMap.mem_of_first? hfirst).1
  obtain ⟨later, hentries⟩ := List.head?_eq_some_iff.1 hfirst
  have hsize : later.length + 1 = s.buffer.size := (congrArg List.length hentries).symm
  rw [hentries, MayLeave, hsize, ← or_assoc, ← pressure?_ne_none_iff]
  cases hpressure : s.pressure? now w with
  | some pressure =>
    have hready : s.verdict now p w = .ready (some pressure) := by
      unfold verdict
      rw [hpressure]
    exact iff_of_true (.inl nofun) ⟨_, hready⟩
  | none =>
    rw [verdict_eq_ready_iff hpressure, pulseMissing_eq_false_iff, expectedCount_le_iff hsub]
    simp only [expectedChannels_eq_nil_iff]
    exact or_iff_right fun hforced => hforced rfl

/-! ## One resolution -/

def bundleOf (s : Synchronizer α) (e : PulseId × Pending α) : Bundle α :=
  ⟨e.1, e.2.values, s.schedules.expectedCount e.1⟩

section Resolution

variable (h : s.Regular) (hact : s.Acts (.resolve u) s')

include hact in
theorem Acts.toList_resolve :
    ∃ w, u.bundle = s.bundleOf (u.pulse, w) ∧
      s.buffer.toList = (u.pulse, w) :: s'.buffer.toList := by
  obtain ⟨-, -, rfl, w, hfirst, -, hbundle⟩ := hact.of_resolve
  refine ⟨w, hbundle, ?_⟩
  rw [(settle_alike _ _).1.buffer]
  exact SortedMap.erase_first hfirst

include hact in
theorem Acts.closed_resolve : s'.closed = s.closed := by
  rw [hact.closed_eq]
  exact Bool.or_false _

include h hact

theorem Regular.marks_resolve : s'.marks = { s.marks with boundary := u.pulse } := by
  obtain ⟨-, -, rfl, w, hfirst, -⟩ := hact.of_resolve
  have hpast : s.marks.boundary < u.pulse := h.above _ (SortedMap.mem_of_first? hfirst).1
  rw [(settle_alike _ _).1.marks]
  show s.marks.advance u.pulse = _
  unfold Watermarks.advance
  rw [PulseId.max_eq, if_pos (by grind)]

theorem Regular.resolve : s'.Regular := by
  obtain ⟨w, -, hentries⟩ := hact.toList_resolve
  have hfirst : s.buffer.first? = some (u.pulse, w) := by
    unfold SortedMap.first?
    rw [hentries, List.head?_cons]
  constructor
  · intro e he
    rw [h.marks_resolve hact]
    -- What is left are the later pulses.
    have hasc := s.buffer.ascending
    rw [hentries, List.pairwise_cons] at hasc
    exact PulseBuffer.lt_of_compare (hasc.1 e he)
  · intro e he
    rw [hact.frame.schedules]
    exact h.expected e (hentries ▸ List.mem_cons_of_mem _ he)

theorem Regular.boundaryAfter_succ (k : Nat) : s.boundaryAfter (k + 1) = s'.boundaryAfter k := by
  obtain ⟨w, -, hentries⟩ := hact.toList_resolve
  unfold boundaryAfter SortedMap.keys
  rw [hentries, h.marks_resolve hact, List.map_cons, List.take_succ_cons, List.getLast?_cons]
  rfl

/-- The first pulse may leave now, and what may leave after it may also leave behind it. -/
theorem Regular.mayResolve_succ_iff (k : Nat) :
    s.MayResolve now (k + 1) ↔
      s.MayLeave now s.marks.boundary s.buffer.toList ∧ s'.MayResolve now k := by
  obtain ⟨w, -, hentries⟩ := hact.toList_resolve
  have hsame : s'.MayLeave now = s.MayLeave now := by
    funext boundary entries
    unfold MayLeave
    rw [hact.frame.config, hact.frame.schedules, h.marks_resolve hact]
  have hlater (i : Nat) : s.MayLeave now (s.boundaryAfter (i + 1)) (s.buffer.toList.drop (i + 1)) ↔
      s'.MayLeave now (s'.boundaryAfter i) (s'.buffer.toList.drop i) := by
    rw [h.boundaryAfter_succ hact, hsame, hentries, List.drop_succ_cons]
  unfold MayResolve
  constructor
  · intro hall
    exact ⟨hall 0 (Nat.succ_pos k), fun i hi => (hlater i).1 (hall (i + 1) (by omega))⟩
  · intro ⟨hnow, hall⟩ i hi
    cases i with
    | zero => exact hnow
    | succ i => exact (hlater i).2 (hall i (by omega))

end Resolution

/-! ## What the resolved pulses are handed over as -/

def bundles (s : Synchronizer α) (k : Nat) : List (Bundle α) :=
  (s.buffer.toList.take k).map s.bundleOf

/-- The bundles of the first `k` buffered pulses that are handed to the outlet. -/
def kept (s : Synchronizer α) (k : Nat) : List (Bundle α) := (s.bundles k).filter s.wants

/-- What the resolution of the first `k` buffered pulses adds to a tally. -/
def gains (s : Synchronizer α) (k : Nat) : Tally → Nat
  | .complete => (s.outlet.admits (s.kept k)).countP (·.isComplete)
  | .incomplete => (s.outlet.admits (s.kept k)).countP (!·.isComplete)
  | .queueFull =>
    if s.outlet.closed then 0 else (s.kept k).length - (s.outlet.admits (s.kept k)).length
  | .evicted => (s.bundles k).countP (!s.wants ·)
  | _ => 0

section Resolution

variable (hact : s.Acts (.resolve u) s') (k : Nat)

include hact

theorem Acts.outlet_resolve :
    s'.outlet = if s.wants u.bundle then s.outlet.offer u.bundle else s.outlet := by
  obtain ⟨-, -, rfl, -⟩ := hact.of_resolve
  exact settle_outlet _ _

theorem Acts.wants_eq : s'.wants = s.wants := by
  unfold wants
  rw [hact.frame.config]

theorem Acts.bundles_succ : s.bundles (k + 1) = u.bundle :: s'.bundles k := by
  obtain ⟨w, hbundle, hentries⟩ := hact.toList_resolve
  unfold bundles bundleOf
  rw [hentries, hact.frame.schedules, List.take_succ_cons, List.map_cons]
  exact congrArg (· :: _) hbundle.symm

theorem Acts.kept_succ :
    s.kept (k + 1) = (if s.wants u.bundle then [u.bundle] else []) ++ s'.kept k := by
  unfold kept
  rw [hact.bundles_succ, hact.wants_eq, List.filter_cons]
  split <;> rfl

theorem Acts.admits_succ :
    s.outlet.admits (s.kept (k + 1)) =
      (if s.accepts u.bundle then [u.bundle] else []) ++ s'.outlet.admits (s'.kept k) := by
  rw [hact.kept_succ, hact.outlet_resolve]
  unfold accepts
  cases s.wants u.bundle with
  | false => rfl
  | true =>
    show s.outlet.admits (u.bundle :: s'.kept k) = _
    rw [Outlet.admits_cons]
    simp only [Bool.true_and, beq_iff_eq, ↓reduceIte]

theorem Acts.gains_succ (tally : Tally) :
    s.gains (k + 1) tally = tally.sum (s.events (.resolve u)) + s'.gains k tally := by
  have hsingle (taken : Bool) (test : Bundle α → Bool) :
      (if taken then [u.bundle] else []).countP test = (taken && test u.bundle).toNat := by
    cases taken
    · rfl
    · rw [if_pos rfl, List.countP_singleton, Bool.true_and, Bool.toNat, Bool.cond_eq_ite]
  -- The removal of the pulse changes neither what is wanted nor the outlet.
  rw [sum_resolve, sum_settleEvents]
  cases tally with
  | complete =>
    show (s.outlet.admits (s.kept (k + 1))).countP _ = _
    rw [hact.admits_succ, List.countP_append, hsingle]
    rfl
  | incomplete =>
    show (s.outlet.admits (s.kept (k + 1))).countP _ = _
    rw [hact.admits_succ, List.countP_append, hsingle]
    rfl
  | evicted =>
    show (s.bundles (k + 1)).countP _ = (!s.wants u.bundle).toNat + (s'.bundles k).countP _
    rw [hact.bundles_succ, hact.wants_eq, List.countP_cons, Nat.add_comm, Bool.toNat,
      Bool.cond_eq_ite]
  | queueFull =>
    have hclosed : s'.outlet.closed = s.outlet.closed := by
      rw [hact.outlet_resolve]
      split
      · exact (Outlet.offer_frame _ _).2
      · rfl
    have hle := (s'.outlet.admits_prefix (s'.kept k)).length_le
    show (if s.outlet.closed then 0 else _) =
      (s.wants u.bundle && s.outlet.handoff == .full).toNat + if s'.outlet.closed then 0 else _
    rw [hclosed, hact.admits_succ, hact.kept_succ, List.length_append, List.length_append]
    unfold accepts Outlet.handoff
    cases s.outlet.closed with
    | true => cases s.wants u.bundle <;> rfl
    | false =>
      -- An open outlet takes the bundle in, or it is full and counts it.
      cases s.wants u.bundle with
      | false => simp
      | true =>
        cases s.outlet.isFull with
        | false =>
          show 1 + (s'.kept k).length - (1 + (s'.outlet.admits (s'.kept k)).length) = 0 + _
          rw [Nat.add_sub_add_left, Nat.zero_add]
          rfl
        | true =>
          show 1 + (s'.kept k).length - (0 + (s'.outlet.admits (s'.kept k)).length) = 1 + _
          rw [Nat.zero_add, Nat.add_sub_assoc hle]
          rfl
  | _ => rfl

end Resolution

/-! ## A pass -/

/-- From `s` to `s'` a pass at time `now` took the first `k` buffered pulses out.  Each of them was
allowed to leave when its turn came, and the next one was not. -/
structure Passed (s : Synchronizer α) (now : UInt64) (k : Nat) (s' : Synchronizer α) : Prop where
  may : s.MayResolve now k
  most : ∀ m, s.MayResolve now m → m ≤ k
  buffer : s'.buffer.toList = s.buffer.toList.drop k
  marks : s'.marks = { s.marks with boundary := s.boundaryAfter k }
  outlet : s'.outlet = { s.outlet with queue := s.outlet.queue ++ s.outlet.admits (s.kept k) }
  config : s'.config = s.config
  schedules : s'.schedules = s.schedules
  closed : s'.closed = s.closed
  /-- Nothing is noted of other pulses, but that one waits. -/
  noted : ∃ events, s.Notes events s' ∧ (∀ tally, tally.sum events = s.gains k tally) ∧
    ∀ e ∈ events, (∃ n, e = .occupancy n) ∨ (∃ p q, e = .waiting p q) ∨
      ∃ p ∈ s.buffer.keys.take k, e.settled? = some p

theorem Regular.not_mayLeave (h : s.Regular) (hrest : (s.resolveOldest now).1 = none) :
    ¬ s.MayLeave now s.marks.boundary s.buffer.toList := by
  cases hfirst : s.buffer.first? with
  | none =>
    rw [SortedMap.first?_eq_none_iff.1 hfirst]
    exact id
  | some e =>
    intro hleave
    obtain ⟨pressure, hready⟩ := (h.mayLeave_iff hfirst).1 hleave
    exact verdict_ne_ready hrest hfirst pressure hready

theorem Regular.passed_of_look (h : s.Regular) (hlook : s.resolveOldest now = (none, s')) :
    s.Passed now 0 s' := by
  have hsteady := steady_look hlook
  constructor
  case may => exact nofun
  case most =>
    intro m hm
    cases m with
    | zero => exact Nat.le_refl 0
    | succ m => exact absurd (hm 0 (Nat.succ_pos m)) (h.not_mayLeave (by rw [hlook]))
  case buffer => rw [hsteady.buffer, List.drop_zero]
  case marks => rw [hsteady.marks]; rfl
  case outlet =>
    have hnone : s.kept 0 = [] := rfl
    rw [hsteady.outlet, hnone, Outlet.admits_nil, List.append_nil]
  case config => exact hsteady.config
  case schedules => exact hsteady.schedules
  case closed => exact hsteady.closed
  case noted =>
    refine ⟨_, notes_look hlook, fun tally => ?_, fun e he => .inr (.inl (mem_lookEvents he))⟩
    rw [sum_lookEvents]
    cases tally <;> simp [gains, kept, bundles]

theorem Passed.step {s'' : Synchronizer α} (h : s.Regular) (hact : s.Acts (.resolve u) s')
    (hmay : s.MayLeave now s.marks.boundary s.buffer.toList) (hpass : s'.Passed now k s'') :
    s.Passed now (k + 1) s'' := by
  obtain ⟨w, hbundle, hentries⟩ := hact.toList_resolve
  have hkeys : s.buffer.keys = u.pulse :: s'.buffer.keys := by
    unfold SortedMap.keys
    rw [hentries, List.map_cons]
  constructor
  case may => exact (h.mayResolve_succ_iff hact k).2 ⟨hmay, hpass.may⟩
  case most =>
    intro m hm
    cases m with
    | zero => exact Nat.zero_le _
    | succ m => exact Nat.succ_le_succ (hpass.most m ((h.mayResolve_succ_iff hact m).1 hm).2)
  case buffer => rw [hpass.buffer, hentries, List.drop_succ_cons]
  case marks => rw [hpass.marks, h.boundaryAfter_succ hact, h.marks_resolve hact]
  case outlet =>
    have houtlet : s'.outlet = { s.outlet with
        queue := s.outlet.queue ++ if s.accepts u.bundle then [u.bundle] else [] } := by
      rw [hact.outlet_resolve]
      unfold accepts Outlet.offer
      cases s.wants u.bundle <;> cases s.outlet.handoff <;> simp
    rw [hpass.outlet, hact.admits_succ, ← List.append_assoc, houtlet]
  case config => exact hpass.config.trans hact.frame.config
  case schedules => exact hpass.schedules.trans hact.frame.schedules
  case closed => exact hpass.closed.trans hact.closed_resolve
  case noted =>
    obtain ⟨events, hnotes, hsum, hevents⟩ := hpass.noted
    refine ⟨_, hact.notes.trans hnotes, fun tally => ?_, fun e he => ?_⟩
    · rw [Tally.sum_append, hsum, hact.gains_succ, Nat.add_comm]
    · rw [hkeys, List.take_succ_cons]
      rcases List.mem_append.1 he with hlater | hnow
      · refine (hevents e hlater).imp_right (.imp_right ?_)
        exact fun ⟨p, hp, hsettled⟩ => ⟨p, List.mem_cons_of_mem _ hp, hsettled⟩
      · rcases List.mem_append.1 hnow with hsettle | hremove
        · exact .inr (.inr ⟨_, List.mem_cons_self, settled?_settleEvents hsettle⟩)
        · exact .inl ⟨_, List.mem_singleton.1 hremove⟩

/-- A pass takes out the longest beginning of the buffer that may leave. -/
theorem Regular.passed_resolveUpTo (h : s.Regular) (hopen : s.closed = false) {limit : Nat}
    (hlimit : s.buffer.size ≤ limit) :
    s.Passed now (resolveUpTo now limit s).1 (resolveUpTo now limit s).2 := by
  induction limit generalizing s with
  | zero =>
    have hempty : s.buffer.first? = none :=
      SortedMap.first?_eq_none_iff.2 (List.length_eq_zero_iff.1 (Nat.le_zero.1 hlimit))
    have hlook : s.resolveOldest now = (none, s) := by
      unfold resolveOldest
      rw [hempty]
    exact h.passed_of_look hlook
  | succ limit ih =>
    unfold resolveUpTo
    rcases hstep : s.resolveOldest now with ⟨_ | r, s'⟩
    · exact h.passed_of_look hstep
    · have hact : s.Acts (.resolve ⟨s, now, r⟩) (s'.settle r) := .resolve hopen hstep
      obtain ⟨-, -, -, w, hfirst, hready, -⟩ := hact.of_resolve
      have hsize := size_resolved hstep
      have hpass := ih (h.resolve hact) (hact.closed_resolve.trans hopen) (by omega)
      exact hpass.step h hact ((h.mayLeave_iff hfirst).2 ⟨_, hready⟩)

theorem Regular.passed_resolve (h : s.Regular) (hopen : s.closed = false) (now : UInt64) :
    s.Passed now (s.resolve now).1 (s.resolve now).2 :=
  h.passed_resolveUpTo hopen (Nat.le_refl _)

theorem bundle_turnsUpTo (hopen : s.closed = false) (now : UInt64) (limit : Nat) :
    (turnsUpTo now limit s).map Turn.bundle = s.bundles (resolveUpTo now limit s).1 := by
  induction limit generalizing s with
  | zero => rfl
  | succ limit ih =>
    unfold turnsUpTo resolveUpTo
    rcases hstep : s.resolveOldest now with ⟨_ | r, s'⟩
    · rfl
    · have hact : s.Acts (.resolve ⟨s, now, r⟩) (s'.settle r) := .resolve hopen hstep
      rw [List.map_cons, ih (hact.closed_resolve.trans hopen)]
      exact (hact.bundles_succ _).symm

section Admission

variable {m : Message α} (h : Sound acts s) (hwelcome : s.Welcomes m) (now : UInt64)

include hwelcome in
theorem closed_accept_of_welcome : ((s.note .received).accept now m).closed = false :=
  ((s.note .received).admitted_accept ⟨now, m⟩).closed.trans hwelcome.1

include h hwelcome in
theorem Sound.regular_accept : ((s.note .received).accept now m).Regular := by
  have hreceived : s.Acts (.remark .received) (s.note .received) := .remark rfl
  exact ((h.step hreceived).accept (a := ⟨now, m⟩) hwelcome).regular

include h hwelcome in
theorem Sound.passed_add : ((s.note .received).accept now m).Passed now
    (((s.note .received).accept now m).resolve now).1 (s.add now m).2 := by
  rw [add_of_welcome hwelcome]
  exact (h.regular_accept hwelcome now).passed_resolve (closed_accept_of_welcome hwelcome now) now

end Admission

theorem Passed.get (h : s.Passed now k s') (tally : Tally) :
    s'.counters.get tally = s.counters.get tally + .ofNat (s.gains k tally) := by
  obtain ⟨events, hnotes, hsum, -⟩ := h.noted
  rw [hnotes.get, hsum]

/-- A pass resolves the longest beginning of the buffer that may leave and touches nothing else.
The state is any in which the buffered pulses lie above the boundary and have values of expected
channels only, the clock reads anything.  The call answers with the number of resolved pulses; they
are handed to the outlet in their order, the boundary stands at the last of them, and the counters
grow by what became of them. -/
theorem evictExpired_passed (hopen : s.closed = false) (h : s.Regular) (now : UInt64) :
    s.Passed now (s.evictExpired now).1 (s.evictExpired now).2 ∧
      ∀ tally, (s.evictExpired now).2.counters.get tally =
        s.counters.get tally + .ofNat (s.gains (s.evictExpired now).1 tally) := by
  have hpass : s.evictExpired now = s.resolve now := by
    unfold evictExpired
    rw [hopen]
    rfl
  rw [hpass]
  exact ⟨h.passed_resolve hopen now, (h.passed_resolve hopen now).get⟩

/-- Three pulses are buffered and two allowed.  The first leaves because they are too many, though
it lacks a channel; the second is complete and next behind it; the third lacks a channel.  The queue
has room for one bundle. -/
theorem evictExpired_passed_two :
    let s : Synchronizer Nat :=
      { config := { channels := [⟨"a", 1, 0⟩, ⟨"b", 1, 0⟩], maxBuffered := 2,
                    sendIncomplete := true, delivery := .push 1 }
        schedules := ⟨[⟨"a", 1, 0⟩, ⟨"b", 1, 0⟩], rfl⟩
        buffer := .ofList [(5, ⟨5, 0, .ofList [("a", 50)]⟩),
          (6, ⟨6, 0, .ofList [("a", 60), ("b", 61)]⟩), (7, ⟨7, 0, .ofList [("b", 71)]⟩)]
        marks := ⟨3, 3⟩
        outlet := { mode := .push 1 } }
    (s.evictExpired 0).1 = 2 ∧ s.MayResolve 0 2 ∧ ¬ s.MayResolve 0 3 ∧
      (s.evictExpired 0).2.buffer.keys = [7] ∧ (s.evictExpired 0).2.marks = ⟨3, 6⟩ ∧
      (s.evictExpired 0).2.outlet.queue.map (·.pulse) = [5] ∧
      (s.evictExpired 0).2.counters.queueFull = 1 := by
  intro s
  have hregular : s.Regular := ⟨by decide, by decide⟩
  obtain ⟨hpass, hcounters⟩ := evictExpired_passed (s := s) rfl hregular 0
  have htwo : (s.evictExpired 0).1 = 2 := by decide
  rw [htwo] at hpass
  refine ⟨htwo, hpass.may, fun hthree => absurd (hpass.most 3 hthree) (by decide), ?_, ?_, ?_, ?_⟩
  · decide
  · exact hpass.marks
  · rw [hpass.outlet]
    decide
  · decide

end Synchronizer

end PulseJoin
