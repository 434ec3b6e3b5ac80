import PulseJoin.Proofs.Session.History
import PulseJoin.Proofs.Synchronizer.Balance
import PulseJoin.Proofs.Synchronizer.Handover

/-!
# Conservation

Nothing is lost and nothing is counted twice: every message, every pulse, every value and every
bundle is in exactly one of the places where it can be.
-/

namespace PulseJoin

universe u v

variable {α : Type u}

/-- Whether a message was refused because the synchronizer was closed. -/
def Response.isClosed : Response α → Bool
  | .outcome .closed => true
  | _ => false

namespace Session

variable {c : Config} {clock : UInt64} {t : Session α}

/-! ## What is set aside and thrown away -/

/-- What `f` finds at each operation, one after the other. -/
def gather {β : Type v} (f : Session α → Op α → List β) (t : Session α) : List (Op α) → List β
  | [] => []
  | op :: ops => f t op ++ gather f (t.step op).2 ops

theorem gather_append {β : Type v} (f : Session α → Op α → List β) (t : Session α)
    (ops ops' : List (Op α)) :
    gather f t (ops ++ ops') = gather f t ops ++ gather f (t.run ops).2 ops' := by
  induction ops generalizing t with
  | nil => rfl
  | cons op ops ih =>
    show f t op ++ gather f (t.step op).2 (ops ++ ops') = _
    rw [ih, ← List.append_assoc]
    rfl

theorem gather_concat {β : Type v} (f : Session α → Op α → List β) (t : Session α)
    (ops : List (Op α)) (op : Op α) :
    gather f t (ops ++ [op]) = gather f t ops ++ f (t.run ops).2 op := by
  rw [gather_append]
  exact congrArg (gather f t ops ++ ·) (List.append_nil _)

theorem gather_eq_nil {β : Type v} {f : Session α → Op α → List β} {ops : List (Op α)}
    (h : ∀ op ∈ ops, ∀ t, f t op = []) (t : Session α) : gather f t ops = [] := by
  induction ops generalizing t with
  | nil => rfl
  | cons op ops ih =>
    show f t op ++ gather f (t.step op).2 ops = []
    rw [h op (.head _), ih fun op' hop' => h op' (.tail _ hop')]
    rfl

/-- The pulses that the startup rule sets aside in an operation. -/
def setAsideBy (t : Session α) : Op α → List (PulseId × Pending α)
  | .add m =>
    if (t.synchronizer.add t.clock m).1 = .buffered then
      (t.synchronizer.setAside ⟨t.clock, m⟩).toList
    else []
  | _ => []

theorem setAsideBy_of_welcome {m : Message α} (h : t.synchronizer.Welcomes m) :
    t.setAsideBy (.add m) = (t.synchronizer.setAside ⟨t.clock, m⟩).toList :=
  if_pos (Synchronizer.add_eq_buffered_iff.2 h)

/-- The bundles that an operation throws away, which only the close of a pull queue does. -/
def thrownBy (t : Session α) : Op α → List (Bundle α)
  | .close =>
    if !t.synchronizer.closed && t.synchronizer.outlet.pulls then t.synchronizer.outlet.queue
    else []
  | _ => []

theorem tally_of_create (h : create c clock = .ok t) (k : Tally) :
    t.synchronizer.tally k = 0 := by
  unfold Synchronizer.tally
  rw [(new_of_create h).journal]
  cases k <;> rfl

theorem counted_of_create (h : create c clock = .ok t) : t.synchronizer.Counted := by
  intro k
  rw [tally_of_create h, (new_of_create h).counters]
  cases k <;> rfl

/-! ## Messages -/

/-- The messages that were taken in, by the responses. -/
def takenIn (ops : List (Op α)) (responses : List (Response α)) : List (Message α) :=
  (ops.zip responses).filterMap fun
    | (.add m, .outcome .buffered) => some m
    | _ => none

theorem sum_addHistory (s : Synchronizer α) (now : UInt64) (m : Message α) :
    let h := s.addHistory now m
    Tally.received.sum h.remarks = 1 ∧
      h.arrivals.length + Tally.stale.sum h.remarks + Tally.unknownChannel.sum h.remarks +
        Tally.offSchedule.sum h.remarks +
        (Response.isClosed (α := α) (.outcome (s.add now m).1)).toNat = 1 := by
  unfold Synchronizer.addHistory
  rw [Synchronizer.add_eq]
  rcases hrefusal : s.refusal? m with _ | ⟨o, e⟩
  · exact ⟨rfl, rfl⟩
  · rcases Synchronizer.refusal?_cases hrefusal with
      ⟨rfl, rfl⟩ | ⟨rfl, rfl⟩ | ⟨rfl, schedule, rfl⟩ | ⟨rfl, rfl⟩ <;> exact ⟨rfl, rfl⟩

theorem sum_historyOf (t : Session α) (op : Op α) :
    let h := t.historyOf op
    Tally.received.sum h.remarks = op.message?.toList.length ∧
      h.arrivals.length + Tally.stale.sum h.remarks + Tally.unknownChannel.sum h.remarks +
        Tally.offSchedule.sum h.remarks + (t.step op).1.isClosed.toNat =
          op.message?.toList.length := by
  cases op with
  | add m => exact sum_addHistory t.synchronizer t.clock m
  | next =>
    unfold historyOf Synchronizer.nextRemarks
    cases t.synchronizer.outlet.pulls <;> exact ⟨rfl, rfl⟩
  | _ => exact ⟨rfl, rfl⟩

theorem sum_history (t : Session α) (ops : List (Op α)) :
    let h := t.history ops
    Tally.received.sum h.remarks = (ops.filterMap Op.message?).length ∧
      h.arrivals.length + Tally.stale.sum h.remarks + Tally.unknownChannel.sum h.remarks +
        Tally.offSchedule.sum h.remarks + (t.run ops).1.countP Response.isClosed =
          (ops.filterMap Op.message?).length := by
  induction ops using List.reverseRecOn with
  | nil => exact ⟨rfl, rfl⟩
  | append_singleton ops op ih =>
    obtain ⟨hreceived, hsplit⟩ := ih
    obtain ⟨hreceived', hsplit'⟩ := (t.run ops).2.sum_historyOf op
    have hlast : ([op].filterMap Op.message?).length = op.message?.toList.length := by
      cases op <;> rfl
    have hclosed : [((t.run ops).2.step op).1].countP Response.isClosed =
        ((t.run ops).2.step op).1.isClosed.toNat := by
      rw [List.countP_singleton]
      cases ((t.run ops).2.step op).1.isClosed <;> rfl
    rw [history_concat, run_concat, List.filterMap_append, List.length_append, hlast]
    simp only [History.remarks_append, History.arrivals_append, Tally.sum_append,
      List.length_append, List.countP_append, hclosed]
    omega

theorem takenIn_cons (op : Op α) (ops : List (Op α)) (r : Response α) (rs : List (Response α)) :
    takenIn (op :: ops) (r :: rs) = takenIn [op] [r] ++ takenIn ops rs :=
  List.filterMap_append (l := [(op, r)])

theorem arrivals_history (t : Session α) (ops : List (Op α)) :
    (t.history ops).arrivals.map (·.message) = takenIn ops (t.run ops).1 := by
  induction ops generalizing t with
  | nil => rfl
  | cons op ops ih =>
    have hstep : (t.historyOf op).arrivals.map (·.message) = takenIn [op] [(t.step op).1] := by
      cases op with
      | add m =>
        show List.map _ (if (t.synchronizer.add t.clock m).1 = Outcome.buffered then _ else []) =
          takenIn [.add m] [.outcome (t.synchronizer.add t.clock m).1]
        cases (t.synchronizer.add t.clock m).1 <;> rfl
      | _ => rfl
    show ((t.historyOf op).arrivals ++ ((t.step op).2.history ops).arrivals).map (·.message) =
      takenIn (op :: ops) ((t.step op).1 :: ((t.step op).2.run ops).1)
    rw [takenIn_cons, List.map_append, ih, hstep]

/-! ## Invariants with what was gathered -/

section Invariants

variable {β : Type v}

/-- An operation comes to some actions, behind which `P` holds of all actions so far and of
`found`. -/
def Extends (P : List (Act α) → List β → Synchronizer α → Prop) (acts : List (Act α))
    (found : List β) (t : Session α) (op : Op α) : Prop :=
  ∃ later, t.synchronizer.Runs later (t.step op).2.synchronizer ∧
    Act.history later = t.historyOf op ∧ P (acts ++ later) found (t.step op).2.synchronizer

/-- What holds at first and is kept by every operation holds of what was gathered in a run. -/
theorem exists_run_of_extends {P : List (Act α) → List β → Synchronizer α → Prop}
    {f : Session α → Op α → List β} (hfresh : t.synchronizer.Fresh)
    (hstart : P [] [] t.synchronizer)
    (hstep : ∀ {acts found t'}, P acts found t'.synchronizer →
      Synchronizer.Sound acts t'.synchronizer → ∀ op, Extends P acts (found ++ f t' op) t' op)
    (ops : List (Op α)) :
    ∃ acts, t.synchronizer.Runs acts (t.run ops).2.synchronizer ∧
      Act.history acts = t.history ops ∧ P acts (t.gather f ops) (t.run ops).2.synchronizer := by
  induction ops using List.reverseRecOn with
  | nil => exact ⟨[], .refl, rfl, hstart⟩
  | append_singleton ops op ih =>
    obtain ⟨acts, hruns, hacts, hbefore⟩ := ih
    obtain ⟨later, hthen, hlater, hafter⟩ := hstep hbefore (hruns.sound hfresh) op
    rw [run_concat, history_concat, gather_concat, ← hacts, ← hlater, ← Act.history_append]
    exact ⟨acts ++ later, hruns.trans hthen, rfl, hafter⟩

end Invariants

/-! ## Pulses and values -/

theorem balanced_add {s : Synchronizer α} {m : Message α} {now : UInt64} {acts : List (Act α)}
    {aside : List (PulseId × Pending α)} (h : Synchronizer.Balanced acts aside s)
    (hsound : Synchronizer.Sound acts s) (hwelcome : s.Welcomes m) :
    ∃ later, s.Runs later (s.add now m).2 ∧ Act.history later = s.addHistory now m ∧
      Synchronizer.Balanced (acts ++ later) (aside ++ (s.setAside ⟨now, m⟩).toList)
        (s.add now m).2 := by
  have hreceived : s.Acts (.remark .received) (s.note .received) := .remark rfl
  have haccepted : (s.note .received).Acts (.accept ⟨now, m⟩) ((s.note .received).accept now m) :=
    .accept hwelcome
  obtain ⟨pass, hpass, hquiet, hhistory⟩ := Synchronizer.runs_add hwelcome now
  refine ⟨_, (hreceived.run.trans haccepted.run).trans hpass, hhistory, ?_⟩
  have hafter := (h.step hreceived rfl).accept (hsound.step hreceived) (a := ⟨now, m⟩) hwelcome
  rw [← List.append_assoc, ← List.append_assoc]
  exact hafter.run hpass hquiet

theorem balanced_step {acts : List (Act α)} {aside : List (PulseId × Pending α)}
    (h : Synchronizer.Balanced acts aside t.synchronizer)
    (hsound : Synchronizer.Sound acts t.synchronizer) (op : Op α) :
    Extends Synchronizer.Balanced acts (aside ++ t.setAsideBy op) t op := by
  -- An operation that takes nothing in sets nothing aside.
  have hquiet (harrivals : (t.historyOf op).arrivals = []) (hnone : t.setAsideBy op = []) :
      Extends Synchronizer.Balanced acts (aside ++ t.setAsideBy op) t op := by
    obtain ⟨later, hruns, hlater⟩ := t.performs_step op
    rw [← hlater] at harrivals
    rw [hnone, List.append_nil]
    exact ⟨later, hruns, hlater, h.run hruns harrivals⟩
  cases op with
  | add m =>
    by_cases hwelcome : t.synchronizer.Welcomes m
    · rw [setAsideBy_of_welcome hwelcome]
      exact balanced_add h hsound hwelcome
    · have hrefused : (t.synchronizer.add t.clock m).1 ≠ .buffered :=
        fun hbuffered => hwelcome (Synchronizer.add_eq_buffered_iff.1 hbuffered)
      exact hquiet (if_neg hrefused) (if_neg hrefused)
  | _ => exact hquiet rfl rfl

theorem balanced_run (h : create c clock = .ok t) (ops : List (Op α)) :
    ∃ acts, t.synchronizer.Runs acts (t.run ops).2.synchronizer ∧
      Act.history acts = t.history ops ∧
      Synchronizer.Balanced acts (t.gather setAsideBy ops) (t.run ops).2.synchronizer :=
  have hfresh := (new_of_create h).fresh
  exists_run_of_extends hfresh (.of_fresh hfresh (tally_of_create h)) balanced_step ops

/-! ## Bundles -/

theorem handed_step {acts : List (Act α)} {thrown : List (Bundle α)}
    (h : Synchronizer.Handed acts thrown t.synchronizer)
    (hsound : Synchronizer.Sound acts t.synchronizer) (op : Op α) :
    Extends Synchronizer.Handed acts (thrown ++ t.thrownBy op) t op := by
  have hquiet (hopen : (t.historyOf op).closed = false) (hnone : t.thrownBy op = []) :
      Extends Synchronizer.Handed acts (thrown ++ t.thrownBy op) t op := by
    obtain ⟨later, hruns, hlater⟩ := t.performs_step op
    rw [← hlater] at hopen
    rw [hnone, List.append_nil]
    exact ⟨later, hruns, hlater, (h.run hsound hruns hopen).1⟩
  cases op with
  | close =>
    -- Only the first close does anything.
    by_cases hclosed : t.synchronizer.closed = true
    · apply hquiet
      · show (!t.synchronizer.closed) = false
        rw [hclosed]
        rfl
      · unfold thrownBy
        rw [hclosed]
        rfl
    · rw [Bool.not_eq_true] at hclosed
      have hact : t.synchronizer.Acts .close t.synchronizer.close := .close hclosed
      refine ⟨[.close], hact.run, ?_, ?_⟩
      · unfold historyOf
        rw [hclosed]
        rfl
      · have hafter := h.close hact
        unfold thrownBy
        rw [h.thrown_eq_nil hclosed, hclosed]
        exact hafter
  | _ => exact hquiet rfl rfl

theorem handed_run (h : create c clock = .ok t) (ops : List (Op α)) :
    ∃ acts, t.synchronizer.Runs acts (t.run ops).2.synchronizer ∧
      Act.history acts = t.history ops ∧
      Synchronizer.Handed acts (t.gather thrownBy ops) (t.run ops).2.synchronizer :=
  have hfresh := (new_of_create h).fresh
  exists_run_of_extends hfresh (.of_fresh hfresh (tally_of_create h)) handed_step ops

/-! ## The balance -/

section Tallies

variable (h : create c clock = .ok t) (ops : List (Op α))

include h

theorem tally_of_remarks {k : Tally} (hk : k ∈ Tally.ofRemarks) :
    (t.run ops).2.synchronizer.tally k = k.sum (t.history ops).remarks := by
  obtain ⟨acts, -, hacts, hbalanced⟩ := balanced_run h ops
  rw [hbalanced.remarks k hk, ← hacts]
  rfl

theorem tally_buffered :
    (t.run ops).2.synchronizer.tally .buffered = (t.history ops).arrivals.length := by
  obtain ⟨acts, -, hacts, hbalanced⟩ := balanced_run h ops
  rw [hbalanced.buffered, ← hacts]
  rfl

theorem tally_messages :
    let final := (t.run ops).2.synchronizer
    final.tally .received = (ops.filterMap Op.message?).length ∧
      final.tally .received = final.tally .buffered + final.tally .stale +
        final.tally .unknownChannel + final.tally .offSchedule +
        (t.run ops).1.countP Response.isClosed := by
  obtain ⟨hreceived, hsplit⟩ := t.sum_history ops
  have hremarks (k : Tally) (hk : k ∈ Tally.ofRemarks) := tally_of_remarks h ops hk
  dsimp only
  rw [hremarks .received (by decide), hremarks .stale (by decide),
    hremarks .unknownChannel (by decide), hremarks .offSchedule (by decide), tally_buffered h]
  exact ⟨hreceived, hreceived.trans hsplit.symm⟩

theorem tally_pulses :
    let final := (t.run ops).2.synchronizer
    ((takenIn ops (t.run ops).1).map (·.pulse)).toFinset.card =
      final.tally .complete + final.tally .incomplete + final.tally .evicted +
        final.tally .startupDiscarded + final.tally .queueFull + final.buffer.size := by
  obtain ⟨acts, -, hacts, hbalanced⟩ := balanced_run h ops
  obtain ⟨acts', -, hacts', hhanded⟩ := handed_run h ops
  have hpulses : (takenIn ops (t.run ops).1).map (·.pulse) =
      (Act.arrivals acts).map Arrival.pulse := by
    rw [← arrivals_history, ← hacts, List.map_map]
    rfl
  have hturns : Act.turns acts' = Act.turns acts := congrArg History.turns (hacts'.trans hacts.symm)
  have hended := hhanded.sum_eq
  have hplaces := hbalanced.pulses
  have hdiscarded := hbalanced.discarded
  rw [hturns] at hended
  dsimp only
  rw [hpulses]
  omega

theorem tally_values :
    let final := (t.run ops).2.synchronizer
    final.tally .buffered = final.tally .duplicates +
      ((t.history ops).turns.map (·.bundle.size)).sum +
      PulseBuffer.valueCount (t.gather setAsideBy ops) +
      PulseBuffer.valueCount final.buffer.toList := by
  obtain ⟨acts, -, hacts, hbalanced⟩ := balanced_run h ops
  rw [← hacts]
  exact hbalanced.buffered.trans hbalanced.values

theorem tally_bundles :
    let final := (t.run ops).2.synchronizer
    let accepted := (t.history ops).turns.filter Turn.accepted
    accepted.map Turn.bundle = (t.run ops).1.filterMap Response.bundle? ++
        t.gather thrownBy ops ++ final.outlet.queue ∧
      final.tally .complete + final.tally .incomplete = accepted.length ∧
      final.tally .complete = accepted.countP (·.bundle.isComplete) := by
  obtain ⟨acts, -, hacts, hhanded⟩ := handed_run h ops
  rw [← obtained_history, ← hacts]
  refine ⟨hhanded.entered, ?_, ?_⟩
  · rw [← List.countP_eq_length_filter]
    exact hhanded.sum_delivered
  · rw [List.countP_filter, hhanded.complete]
    simp only [Bool.and_comm]
    rfl

theorem tally_le (k : Tally) :
    (t.run ops).2.synchronizer.tally k ≤ (ops.filterMap Op.message?).length := by
  obtain ⟨hreceived, hmessages⟩ := tally_messages h ops
  have hpulses := tally_pulses h ops
  have hvalues := tally_values h ops
  have hcard : ((takenIn ops (t.run ops).1).map (·.pulse)).toFinset.card ≤
      (t.run ops).2.synchronizer.tally .buffered := by
    obtain ⟨acts, -, hacts, hbalanced⟩ := balanced_run h ops
    rw [hbalanced.buffered, ← arrivals_history, ← hacts]
    refine (List.toFinset_card_le _).trans ?_
    rw [List.length_map, List.length_map]
    exact Nat.le_refl _
  cases k <;> omega

/-- Each pulse is counted once at most, and there are not enough of them to run over. -/
theorem tally_lt {k : Tally} (hk : k ∈ .startupDiscarded :: Tally.ofResolutions) :
    (t.run ops).2.synchronizer.tally k < UInt64.size := by
  have hpulses := tally_pulses h ops
  have hcard : ((takenIn ops (t.run ops).1).map (·.pulse)).toFinset.card < UInt64.size := by
    apply PulseId.card_lt
    intro p hp
    obtain ⟨acts, -, hacts, hsound⟩ := sound_run h ops
    rw [← arrivals_history, ← hacts, List.map_map, List.mem_toFinset] at hp
    obtain ⟨a, ha, rfl⟩ := List.mem_map.1 hp
    exact hsound.seen.proper a ha
  simp only [Tally.ofResolutions, List.mem_cons, List.not_mem_nil, or_false] at hk
  rcases hk with rfl | rfl | rfl | rfl | rfl <;> omega

theorem toNat_get {k : Tally} (hk : (t.run ops).2.synchronizer.tally k < UInt64.size) :
    ((t.run ops).2.synchronizer.counters.get k).toNat = (t.run ops).2.synchronizer.tally k := by
  obtain ⟨acts, hruns, -⟩ := t.performs_run ops
  rw [hruns.counted (counted_of_create h) k]
  exact UInt64.toNat_ofNat_of_lt' hk

theorem toNat_get_of_turns {k : Tally} (hk : k ∈ Tally.ofResolutions) :
    ((t.run ops).2.synchronizer.counters.get k).toNat = (t.run ops).2.synchronizer.tally k :=
  toNat_get h ops (tally_lt h ops (.tail _ hk))

end Tallies

/-- Nothing is lost and nothing is counted twice, after any operations with fewer than `2 ^ 64`
messages.  Each message was taken in or refused for one of four reasons; each pulse of which a
message was taken in is in one of six places; so is each value that replaced none; and the bundles
that the queue accepted are those consumers obtained, those the close threw away and those that
wait, in this order. -/
theorem conservation (h : create c clock = .ok t) (ops : List (Op α))
    (hfew : (ops.filterMap Op.message?).length < UInt64.size) :
    let responses := (t.run ops).1
    let final := (t.run ops).2.synchronizer
    let counters := final.counters
    let accepted := (t.history ops).turns.filter Turn.accepted
    counters.received.toNat = counters.buffered.toNat + counters.stale.toNat +
      counters.unknownChannel.toNat + counters.offSchedule.toNat +
      responses.countP Response.isClosed ∧
    ((takenIn ops responses).map (·.pulse)).toFinset.card =
      counters.complete.toNat + counters.incomplete.toNat + counters.evicted.toNat +
        counters.startupDiscarded.toNat + counters.queueFull.toNat + final.buffer.size ∧
    counters.buffered.toNat = counters.duplicates.toNat +
      ((t.history ops).turns.map (·.bundle.size)).sum +
      PulseBuffer.valueCount (t.gather setAsideBy ops) +
      PulseBuffer.valueCount final.buffer.toList ∧
    accepted.map Turn.bundle = responses.filterMap Response.bundle? ++ t.gather thrownBy ops ++
      final.outlet.queue ∧
    counters.complete.toNat + counters.incomplete.toNat =
      (responses.filterMap Response.bundle?).length + final.pending +
        (t.gather thrownBy ops).length ∧
    counters.complete.toNat = accepted.countP fun u =>
      ∀ channel ∈ t.synchronizer.schedules.expectedChannels u.pulse,
        channel ∈ u.bundle.channels := by
  have hcount (k : Tally) := toNat_get h ops (Nat.lt_of_le_of_lt (tally_le h ops k) hfew)
  obtain ⟨hentered, hdelivered, hcomplete⟩ := tally_bundles h ops
  intro responses final counters accepted
  refine ⟨?_, ?_, ?_, hentered, ?_, ?_⟩
  · have hmessages := (tally_messages h ops).2
    rwa [← hcount, ← hcount, ← hcount, ← hcount, ← hcount] at hmessages
  · have hpulses := tally_pulses h ops
    dsimp only at hpulses
    rwa [← hcount, ← hcount, ← hcount, ← hcount, ← hcount] at hpulses
  · have hvalues := tally_values h ops
    dsimp only at hvalues
    rwa [← hcount, ← hcount] at hvalues
  · have hlength := congrArg List.length hentered
    rw [List.length_map, List.length_append, List.length_append, ← hdelivered, ← hcount, ← hcount]
      at hlength
    rw [Nat.add_right_comm]
    exact hlength
  · obtain ⟨acts, hruns, hacts, -⟩ := sound_run h ops
    rw [← hcount] at hcomplete
    refine hcomplete.trans (List.countP_congr fun u hu => ?_)
    have hturn : u ∈ Act.turns acts := by
      rw [show Act.turns acts = (t.history ops).turns from congrArg History.turns hacts]
      exact (List.mem_filter.1 hu).1
    have hfresh := (new_of_create h).fresh
    -- The channels of a bundle are expected ones, so only the other inclusion is left to ask for.
    have hsubset := hruns.channels_turn_subset hfresh hturn
    rw [hruns.isComplete_turn_iff hfresh hturn, decide_eq_true_iff]
    exact ⟨fun hall channel => (hall channel).2,
      fun hall channel => ⟨fun hin => hsubset hin, hall channel⟩⟩

/-- One message of each kind: the third sets the first pulse aside, the last one comes after the
close, which throws a bundle away. -/
theorem conservation_close :
    ∃ t : Session Nat,
      create { channels := [⟨"a", 1, 0⟩, ⟨"b", 2, 0⟩], sendFirstComplete := true,
               delivery := .pull } 0 = .ok t ∧
        let ops : List (Op Nat) := [.add ⟨"b", 2, 20⟩, .add ⟨"b", 3, 30⟩, .add ⟨"a", 3, 31⟩,
          .add ⟨"c", 4, 40⟩, .add ⟨"a", 2, 21⟩, .add ⟨"a", 4, 41⟩, .add ⟨"a", 4, 42⟩, .close,
          .add ⟨"b", 4, 43⟩]
        let final := (t.run ops).2.synchronizer
        final.counters = { received := 8, buffered := 4, stale := 1, unknownChannel := 1,
                           offSchedule := 1, duplicates := 1, complete := 1,
                           startupDiscarded := 1 } ∧
          ((takenIn ops (t.run ops).1).map (·.pulse)).toFinset.card = 2 + final.buffer.size ∧
          1 = final.pending + (t.gather thrownBy ops).length := by
  refine ⟨_, rfl, ?_⟩
  intro ops final
  have h : create (α := Nat) { channels := [⟨"a", 1, 0⟩, ⟨"b", 2, 0⟩], sendFirstComplete := true,
                               delivery := .pull } 0 = .ok _ := rfl
  obtain ⟨-, hpulses, -, -, hbundles, -⟩ := conservation h ops (by decide)
  exact ⟨rfl, hpulses, hbundles⟩

end Session

end PulseJoin
