import PulseJoin.Proofs.Synchronizer.Pass

/-!
# The first complete pulse

The startup rule fires on the message that makes its pulse complete while nothing is resolved.  All
older pulses are set aside then.  No pulse can be missing before the complete one, so it leaves in
the same operation, and the pass goes on with the pulses above it.
-/

namespace PulseJoin

universe u v

variable {α : Type u}

/-! ## The buffer around a stored value -/

theorem SortedMap.filter_insertEntry {κ : Type u} {β : Type v} [Ord κ] [Std.LawfulEqOrd κ]
    {test : κ × β → Bool} {k : κ} (htest : ∀ v, test (k, v) = false) (v : β) (l : List (κ × β)) :
    (insertEntry k v l).filter test = l.filter test := by
  have hstored : ¬ test (k, v) = true := by rw [htest]; exact nofun
  induction l with
  | nil => exact List.filter_cons_of_neg hstored
  | cons e rest ih =>
    unfold insertEntry
    split
    · exact List.filter_cons_of_neg hstored
    next heq =>
      have hold : ¬ test e = true := by
        rw [show e = (k, e.2) from Prod.ext (Std.LawfulEqOrd.eq_of_compare heq).symm rfl, htest]
        exact nofun
      rw [List.filter_cons_of_neg hstored, List.filter_cons_of_neg hold]
    · rw [List.filter_cons, List.filter_cons, ih]

namespace PulseBuffer

variable (b : PulseBuffer α) (p : PulseId) (channel : String) (v : α) (now : UInt64)

theorem toList_below_store :
    ((b.store p channel v now).below p).toList = b.toList.filter (·.1 < p) := by
  refine (SortedMap.filter_insertEntry (fun w => ?_) _ _).trans (List.filter_congr fun e _ => ?_)
  · simp
  · rw [beq_eq_decide, decide_eq_decide]
    exact Std.compare_eq_lt

theorem toList_above_store :
    ((b.store p channel v now).above p).toList =
      (p, { b.entry p now with values := (b.entry p now).values.insert channel v }) ::
        b.toList.filter (p < ·.1) := by
  have hstored : (p, { b.entry p now with values := (b.entry p now).values.insert channel v }) ∈
      (b.store p channel v now).toList := mem_store.2 (.inl rfl)
  rw [SortedMap.erase_first (first?_above hstored)]
  refine congrArg (_ :: ·) ?_
  show (((b.store p channel v now).toList.filter _).filter _) = _
  rw [List.filter_filter]
  refine (SortedMap.filter_insertEntry (fun w => ?_) _ _).trans (List.filter_congr fun e _ => ?_)
  · simp
  · cases hcompare : compare e.1 p with
    | lt => exact (decide_eq_false (Int64.lt_asymm (Std.compare_eq_lt.1 hcompare))).symm
    | eq =>
      rw [Std.LawfulEqOrd.eq_of_compare hcompare]
      exact (decide_eq_false Int64.lt_irrefl).symm
    | gt => exact (decide_eq_true (Std.compare_eq_gt.1 hcompare)).symm

theorem values_entry : (b.entry p now).values = (b.get? p).elim .empty (·.values) := by
  unfold entry
  cases b.get? p <;> rfl

end PulseBuffer

namespace Synchronizer

variable {s : Synchronizer α} {acts : List (Act α)} {m : Message α} {now : UInt64}

/-! ## When the rule fires -/

def valuesWith (s : Synchronizer α) (m : Message α) : ChannelMap α :=
  ((s.buffer.get? m.pulse).elim .empty (·.values)).insert m.channel m.payload

def bundleWith (s : Synchronizer α) (m : Message α) : Bundle α :=
  ⟨m.pulse, s.valuesWith m, s.schedules.expectedCount m.pulse⟩

def MakesComplete (s : Synchronizer α) (m : Message α) : Prop :=
  ∀ channel ∈ s.schedules.expectedChannels m.pulse, channel = m.channel ∨
    ∃ w, s.buffer.get? m.pulse = some w ∧ (w.values.get? channel).isSome = true

theorem get?_valuesWith_isSome_iff {channel : String} :
    ((s.valuesWith m).get? channel).isSome = true ↔ channel = m.channel ∨
      ∃ w, s.buffer.get? m.pulse = some w ∧ (w.values.get? channel).isSome = true := by
  unfold valuesWith
  rw [SortedMap.get?_insert]
  by_cases hchannel : channel = m.channel
  · simp [hchannel]
  · cases s.buffer.get? m.pulse <;> simp [hchannel]

section Welcome

variable (h : s.Regular) (hexpected : m.channel ∈ s.schedules.expectedChannels m.pulse)

include h hexpected

theorem Regular.keys_valuesWith_subset :
    (s.valuesWith m).keys ⊆ s.schedules.expectedChannels m.pulse := by
  intro channel hchannel
  rcases get?_valuesWith_isSome_iff.1 (SortedMap.mem_keys_iff.1 hchannel) with rfl | ⟨w, hw, hold⟩
  · exact hexpected
  · exact h.expected _ (SortedMap.get?_eq_some_iff.1 hw) (SortedMap.mem_keys_iff.2 hold)

theorem Regular.isComplete_bundleWith_iff :
    (s.bundleWith m).isComplete = true ↔ s.MakesComplete m := by
  have hcount := expectedCount_le_iff (w := ⟨m.pulse, 0, s.valuesWith m⟩)
    (h.keys_valuesWith_subset hexpected)
  simp only [get?_valuesWith_isSome_iff] at hcount
  exact decide_eq_true_iff.trans hcount

theorem Regular.mem_channels_bundleWith_iff (hmakes : s.MakesComplete m) {channel : String} :
    channel ∈ (s.bundleWith m).channels ↔ channel ∈ s.schedules.expectedChannels m.pulse := by
  rw [Bundle.mem_channels_iff]
  refine ⟨fun hsome => ?_, fun hchannel => ?_⟩
  · exact h.keys_valuesWith_subset hexpected (SortedMap.mem_keys_iff.2 hsome)
  · exact get?_valuesWith_isSome_iff.2 (hmakes channel hchannel)

/-- The startup rule fires on a message that makes its pulse complete while nothing is resolved. -/
theorem Regular.startsWith_iff : s.startsWith ⟨now, m⟩ = true ↔
    s.config.sendFirstComplete = true ∧ s.MakesComplete m ∧ s.boundary? = none := by
  have hcompletes : s.completes ⟨now, m⟩ = true ↔ s.MakesComplete m := by
    rw [← h.isComplete_bundleWith_iff hexpected]
    unfold completes finding PulseBuffer.storing
    rw [PulseBuffer.values_entry]
    rfl
  have hboundary : s.marks.unresolved = true ↔ s.boundary? = none := by
    unfold boundary? Watermarks.boundary?
    cases s.marks.unresolved <;> simp
  unfold startsWith
  rw [Bool.and_eq_true, Bool.and_eq_true, hcompletes, hboundary, and_assoc]

end Welcome

/-! ## What it does then -/

section Starts

variable {a : Arrival α} (hstarts : s.startsWith a = true)

include hstarts

theorem toList_setAside_of_startsWith :
    (s.setAside a).toList = s.buffer.toList.filter (·.1 < a.pulse) := by
  unfold setAside
  rw [if_pos hstarts]
  exact s.buffer.toList_below_store _ _ _ _

theorem toList_accept_of_startsWith :
    (s.accept a.clock a.message).buffer.toList =
      (a.pulse, { s.buffer.entry a.pulse a.clock with values := s.valuesWith a.message }) ::
        s.buffer.toList.filter (a.pulse < ·.1) := by
  rw [(s.admitted_accept a).buffer, if_pos hstarts, PulseBuffer.toList_above_store,
    PulseBuffer.values_entry]
  rfl

theorem bundles_accept_of_startsWith (k : Nat) :
    (s.accept a.clock a.message).bundles (k + 1) =
      s.bundleWith a.message ::
        ((s.buffer.toList.filter (a.pulse < ·.1)).take k).map s.bundleOf := by
  unfold bundles bundleOf
  rw [toList_accept_of_startsWith hstarts, (s.admitted_accept a).schedules, List.take_succ_cons,
    List.map_cons]
  rfl

theorem exists_resolve_of_startsWith (h : (s.accept a.clock a.message).Regular)
    (hwelcome : s.Welcomes a.message) (now : UInt64) :
    ∃ k, ((s.accept a.clock a.message).resolve now).1 = k + 1 := by
  have hopen : (s.accept a.clock a.message).closed = false :=
    (s.admitted_accept a).closed.trans hwelcome.1
  obtain ⟨w, hfirst, -, hready⟩ := ready_of_startsWith hwelcome hstarts now
  have hone : (s.accept a.clock a.message).MayResolve now 1 := by
    intro i hi
    rw [Nat.lt_one_iff.1 hi]
    exact (h.mayLeave_iff hfirst).2 ⟨_, hready⟩
  exact Nat.exists_eq_add_of_le' ((h.passed_resolve hopen now).most 1 hone)

end Starts

/-- From `s` to `s'` a message was taken in at time `now` that made its pulse the first to be
complete. -/
structure Opens (s : Synchronizer α) (now : UInt64) (m : Message α) (s' : Synchronizer α) :
    Prop where
  complete : (s.bundleWith m).isComplete = true
  channels : ∀ channel, channel ∈ (s.bundleWith m).channels ↔
    channel ∈ s.schedules.expectedChannels m.pulse
  /-- The pulses below are gone.  Those above are as they were, but for the first `k` of them, which
  are resolved after the pulse itself. -/
  pass : ∃ k, s'.buffer.toList = (s.buffer.toList.filter (m.pulse < ·.1)).drop k ∧
    (s.addHistory now m).turns.map Turn.bundle =
      s.bundleWith m :: ((s.buffer.toList.filter (m.pulse < ·.1)).take k).map s.bundleOf
  queue : ∃ later, s'.outlet.queue = s.outlet.queue ++ s.bundleWith m :: later
  boundary : ∃ q, s'.boundary? = some q ∧ m.pulse ≤ q

theorem opens_of_startsWith (hsound : Sound acts s) (hwelcome : s.Welcomes m)
    (hstarts : s.startsWith ⟨now, m⟩ = true) (hroom : s.outlet.handoff = .accepted) :
    s.Opens now m (s.add now m).2 := by
  have hmakes := ((hsound.regular.startsWith_iff hwelcome.2.1).1 hstarts).2.1
  have hcomplete := (hsound.regular.isComplete_bundleWith_iff hwelcome.2.1).2 hmakes
  -- The message stands first after its admission, so the pass resolves its pulse and `k` more.
  have hnoted : (s.note .received).startsWith ⟨now, m⟩ = true := hstarts
  obtain ⟨k, hk⟩ := exists_resolve_of_startsWith hnoted (hsound.regular_accept hwelcome now)
    hwelcome now
  have hentries := toList_accept_of_startsWith hnoted
  have hbundles := bundles_accept_of_startsWith hnoted k
  have hpass := hsound.passed_add hwelcome now
  dsimp only at hk hentries hbundles
  rw [hk] at hpass
  constructor
  case complete => exact hcomplete
  case channels =>
    exact fun channel => hsound.regular.mem_channels_bundleWith_iff hwelcome.2.1 hmakes
  case pass =>
    refine ⟨k, ?_, ?_⟩
    · rw [hpass.buffer, hentries]
      rfl
    · rw [turns_addHistory hwelcome now]
      refine (bundle_turnsUpTo (closed_accept_of_welcome hwelcome now) now _).trans ?_
      exact (congrArg (bundles _) hk).trans hbundles
  case queue =>
    have hwanted : ((s.note .received).accept now m).wants (s.bundleWith m) = true := by
      unfold wants
      rw [hcomplete, Bool.true_or]
    obtain ⟨later, hkept⟩ : ∃ later,
        ((s.note .received).accept now m).kept (k + 1) = s.bundleWith m :: later := by
      unfold kept
      rw [hbundles]
      exact ⟨_, List.filter_cons_of_pos hwanted⟩
    rw [hpass.outlet, hkept, ((s.note .received).admitted_accept ⟨now, m⟩).outlet]
    dsimp only
    rw [note_outlet, Outlet.admits_cons, if_pos hroom]
    exact ⟨_, rfl⟩
  case boundary =>
    have hreached : m.pulse ≤ _ := le_boundaryAfter_succ (congrArg List.head? hentries) k
    have hlow := PulseId.minValue_le s.marks.boundary
    have hpast := hwelcome.2.2
    unfold boundary?
    rw [hpass.marks]
    exact ⟨_, Watermarks.boundary?_eq_some_iff.2 ⟨rfl, by grind⟩, hreached⟩

end Synchronizer

end PulseJoin
