import PulseJoin.Proofs.Session.Independence
import PulseJoin.Proofs.Synchronizer.Deliveries
import PulseJoin.Proofs.Synchronizer.Load

/-!
# Loads lose nothing

Each message of a load finds the boundary below its pulse, so it is taken in, whatever else is asked
for meanwhile.  After every operation the synchronizer is at rest, so once the last message is in
all pulses of the load were resolved.
-/

namespace PulseJoin

universe u

variable {α : Type u}

/-- A history in which `messages` were taken in and nothing else remarked on but calls in vain. -/
structure History.Admits (h : History α) (messages : List (Message α)) : Prop where
  arrivals : h.arrivals.map (·.message) = messages
  remarks : ∀ e ∈ h.remarks, e = .received ∨ e = .pullWithoutQueue
  received : h.remarks.count .received = messages.length
  opened : h.closed = false

namespace History.Admits

theorem nil : ({} : History α).Admits [] := ⟨rfl, nofun, rfl, rfl⟩

theorem append {h h' : History α} {messages messages' : List (Message α)}
    (hfront : h.Admits messages) (hback : h'.Admits messages') :
    (h ++ h').Admits (messages ++ messages') where
  arrivals := by rw [arrivals_append, List.map_append, hfront.arrivals, hback.arrivals]
  remarks e he := (List.mem_append.1 he).elim (hfront.remarks e) (hback.remarks e)
  received := by
    rw [remarks_append, List.count_append, hfront.received, hback.received, List.length_append]
  opened := by rw [closed_append, hfront.opened, hback.opened, Bool.or_false]

end History.Admits

namespace Session

variable {c : Config} {clock : UInt64} {t : Session α} {first last : PulseId}
  {sent : List (Message α)}

/-! ## While a load arrives -/

theorem admits_add {m : Message α} (h : t.synchronizer.Welcomes m) :
    (t.historyOf (.add m)).Admits [m] := by
  obtain ⟨hremarks, harrivals⟩ := Synchronizer.addHistory_of_welcome h t.clock
  constructor
  case arrivals =>
    show (t.synchronizer.addHistory t.clock m).arrivals.map _ = [m]
    rw [harrivals]
    rfl
  case remarks =>
    show ∀ e ∈ (t.synchronizer.addHistory t.clock m).remarks, _
    rw [hremarks]
    intro e he
    exact .inl (List.mem_singleton.1 he)
  case received =>
    show (t.synchronizer.addHistory t.clock m).remarks.count _ = 1
    rw [hremarks]
    rfl
  case opened => rfl

theorem admits_other {op : Op α} (hmessage : op.message? = none) (hclose : op ≠ .close) :
    (t.historyOf op).Admits [] := by
  cases op with
  | add m => cases hmessage
  | close => exact absurd rfl hclose
  | next =>
    have hcall : ∀ e ∈ t.synchronizer.nextRemarks, e = .pullWithoutQueue := by
      unfold Synchronizer.nextRemarks
      intro e he
      split at he
      · cases he
      · exact List.mem_singleton.1 he
    refine ⟨rfl, fun e he => .inr (hcall e he), ?_, rfl⟩
    apply List.count_eq_zero.2
    intro hreceived
    cases hcall _ hreceived
  | _ => exact ⟨rfl, nofun, rfl, rfl⟩

section Arrives

variable (h : create c clock = .ok t) (hfirst : Int64.minValue < first)
  (hload : Load t.synchronizer.schedules first last sent)
  (hspace : c.Spacious (t.synchronizer.schedules.pulsesWithin first last).length)

include h hfirst hload hspace

theorem carries_run {ops : List (Op α)} {early : List (Message α)} (hearly : early <+: sent)
    (hadmits : (t.history ops).Admits early) :
    ∃ acts, t.synchronizer.Carries acts (t.run ops).2.synchronizer first last sent ∧
      Act.history acts = t.history ops := by
  obtain ⟨hfresh, hconfig, -, -, -, hjournal⟩ := new_of_create h
  obtain ⟨acts, hruns, hacts, -⟩ := sound_run h ops
  refine ⟨acts, ⟨hruns, hfresh, ?_, by rw [hconfig]; exact hspace, hload, hfirst, ?_⟩, hacts⟩
  · rw [hjournal]
    intro e he
    rw [List.mem_singleton.1 he]
    exact ⟨rfl, nofun⟩
  · have harrivals := hadmits.arrivals
    rw [← hacts] at harrivals
    exact harrivals ▸ hearly

theorem welcomes_next {ops : List (Op α)} {early : List (Message α)} {m : Message α}
    (hnext : early ++ [m] <+: sent) (hadmits : (t.history ops).Admits early) :
    (t.run ops).2.synchronizer.Welcomes m := by
  obtain ⟨acts, hcarries, hacts⟩ := carries_run h hfirst hload hspace
    ((List.prefix_append _ _).trans hnext) hadmits
  rw [← hacts] at hadmits
  refine ⟨?_, ?_, ?_⟩
  · rw [hcarries.runs.closed_eq, hcarries.fresh.closed]
    exact hadmits.opened
  · rw [hcarries.runs.frame.schedules]
    exact (hload.mem_pulses (hnext.subset (List.mem_append_right _ (.head _)))).2
  · apply hcarries.next_not_passed
    exact hadmits.arrivals.symm ▸ hnext

/-- The messages of a load are all taken in, whatever consumers and the clock do meanwhile. -/
theorem admits_of_load {ops : List (Op α)} (hopen : ∀ op ∈ ops, op ≠ .close)
    (hsent : ops.filterMap Op.message? <+: sent) :
    (t.history ops).Admits (ops.filterMap Op.message?) := by
  induction ops using List.reverseRecOn with
  | nil => exact .nil
  | append_singleton ops op ih =>
    rw [List.filterMap_append] at hsent ⊢
    have hsofar := ih (fun op' hop' => hopen op' (List.mem_append_left _ hop'))
      ((List.prefix_append _ _).trans hsent)
    rw [history_concat]
    apply hsofar.append
    cases op with
    | add m => exact admits_add (welcomes_next h hfirst hload hspace hsent hsofar)
    | close => exact absurd rfl (hopen .close (List.mem_append_right _ (.head _)))
    | _ => exact admits_other rfl nofun

end Arrives

/-! ## When a load is in -/

section Arrived

variable (h : create c clock = .ok t) (hfirst : Int64.minValue < first)
  {ops : List (Op α)} (hopen : ∀ op ∈ ops, op ≠ .close)
  (hload : Load t.synchronizer.schedules first last (ops.filterMap Op.message?))
  (hspace : c.Spacious (t.synchronizer.schedules.pulsesWithin first last).length)

include h hfirst hopen hload hspace

theorem run_of_load :
    ∃ acts, t.synchronizer.Carries acts (t.run ops).2.synchronizer first last
        (ops.filterMap Op.message?) ∧
      Act.history acts = t.history ops ∧
      (Act.history acts).Admits (ops.filterMap Op.message?) ∧
      (Act.turns acts).map Turn.pulse = t.synchronizer.schedules.pulsesWithin first last ∧
      ∀ p complete, Event.queueFull p complete ∉ (t.run ops).2.synchronizer.journal := by
  have hadmits := admits_of_load h hfirst hload hspace hopen (List.prefix_refl _)
  obtain ⟨acts, hcarries, hacts⟩ :=
    carries_run h hfirst hload hspace (List.prefix_refl _) hadmits
  rw [← hacts] at hadmits
  have hturns := hcarries.turns_eq hadmits.arrivals (settled_run h hspace.age ops)
  refine ⟨acts, hcarries, hacts, hadmits, hturns, ?_⟩
  apply hcarries.runs.queueFull_not_mem hcarries.fresh
  · exact fun p complete hmem => nomatch (hcarries.quiet _ hmem).1
  · intro capacity hcapacity
    rw [← List.length_map Turn.pulse, hturns]
    apply hspace.queue
    rw [← (new_of_create h).mode, hcapacity]

theorem buffered_of_load {before after : List (Op α)} {m : Message α}
    (hsplit : ops = before ++ .add m :: after) :
    ((t.run before).2.step (.add m)).1 = .outcome .buffered := by
  have hsent : ops.filterMap Op.message? =
      before.filterMap Op.message? ++ [m] ++ after.filterMap Op.message? := by
    rw [hsplit, List.filterMap_append, List.append_assoc]
    rfl
  have hnext : before.filterMap Op.message? ++ [m] <+: ops.filterMap Op.message? :=
    ⟨_, hsent.symm⟩
  have hbefore := admits_of_load h hfirst hload hspace
    (fun op hop => hopen op (hsplit ▸ List.mem_append_left _ hop))
    ((List.prefix_append _ _).trans hnext)
  have hwelcome := welcomes_next h hfirst hload hspace hnext hbefore
  exact congrArg Response.outcome (Synchronizer.add_eq_buffered_iff.2 hwelcome)

theorem counters_of_load :
    (t.run ops).2.synchronizer.counters =
      { received := .ofNat (ops.filterMap Op.message?).length,
        buffered := .ofNat (ops.filterMap Op.message?).length,
        complete := .ofNat (t.synchronizer.schedules.pulsesWithin first last).length } := by
  obtain ⟨acts, hcarries, -, hadmits, hturns, hroom⟩ :=
    run_of_load h hfirst hopen hload hspace
  have hall : (Act.arrivals acts).map (·.message) = ops.filterMap Op.message? := hadmits.arrivals
  have honce : ((Act.arrivals acts).map fun a => (a.message.channel, a.pulse)).Nodup := by
    have hsent := hload.once
    rw [← hall, List.map_map] at hsent
    exact hsent
  have harrivals : (Act.arrivals acts).length = (ops.filterMap Op.message?).length := by
    rw [← hall, List.length_map]
  have hreceived : (Act.remarks acts).count .received = (ops.filterMap Op.message?).length :=
    hadmits.received
  rw [hcarries.runs.counters_eq hcarries.fresh (new_of_create h).counters hcarries.space.startup
    hadmits.remarks honce (fun u hu => hcarries.complete hu) hroom, hreceived, harrivals,
    ← hturns, List.length_map]

theorem bundles_of_load {bundles : List (Bundle α)}
    (hbundles : bundles = (t.run ops).1.filterMap Response.bundle? ++
      (t.run ops).2.synchronizer.outlet.queue) :
    bundles.map (·.pulse) = t.synchronizer.schedules.pulsesWithin first last ∧
      ∀ b ∈ bundles, b.isComplete = true ∧
        (∀ channel, channel ∈ b.channels ↔
          channel ∈ t.synchronizer.schedules.expectedChannels b.pulse) ∧
        ∀ m ∈ ops.filterMap Op.message?, m.pulse = b.pulse →
          b.get? m.channel = some m.payload := by
  obtain ⟨acts, hcarries, hacts, -, hturns, -⟩ := run_of_load h hfirst hopen hload hspace
  have hall : bundles = (Act.turns acts).map Turn.bundle := by
    rw [hbundles, (obtained_sublist h ops hopen).2 (by
      rw [counters_of_load h hfirst hopen hload hspace])]
    unfold resolved
    rw [← hacts]
    apply List.filter_eq_self.2
    intro b hb
    obtain ⟨u, hu, rfl⟩ := List.mem_map.1 hb
    exact Bool.or_eq_true_iff.2 (.inl (hcarries.complete hu))
  rw [hall]
  constructor
  · rw [List.map_map]
    exact hturns
  · intro b hb
    obtain ⟨u, hu, rfl⟩ := List.mem_map.1 hb
    have hcomplete := hcarries.complete hu
    exact ⟨hcomplete, (hcarries.runs.isComplete_turn_iff hcarries.fresh hu).1 hcomplete,
      fun m hm hpulse => hcarries.get?_of_sent hu hm hpulse⟩

end Arrived

/-- A load loses nothing, whatever its order, also if consumers take bundles and the clock moves
while it arrives.  All its messages are taken in; the bundles that were obtained and those that wait
are, in ascending order, those of all pulses of the range, each of them with exactly the expected
channels and the payloads sent; nothing stays in the buffer, and nothing else is counted. -/
theorem lossless_of_load (h : create c clock = .ok t) (hfirst : Int64.minValue < first)
    {ops : List (Op α)} (hopen : ∀ op ∈ ops, op ≠ .close)
    (hload : Load t.synchronizer.schedules first last (ops.filterMap Op.message?))
    (hspace : c.Spacious (t.synchronizer.schedules.pulsesWithin first last).length) :
    let pulses := t.synchronizer.schedules.pulsesWithin first last
    let sent := ops.filterMap Op.message?
    let final := (t.run ops).2.synchronizer
    let bundles := (t.run ops).1.filterMap Response.bundle? ++ final.outlet.queue
    (∀ before m after, ops = before ++ .add m :: after →
      ((t.run before).2.step (.add m)).1 = .outcome .buffered) ∧
    (bundles.map (·.pulse) = pulses ∧
      ∀ b ∈ bundles, b.isComplete = true ∧
        (∀ channel, channel ∈ b.channels ↔
          channel ∈ t.synchronizer.schedules.expectedChannels b.pulse) ∧
        ∀ m ∈ sent, m.pulse = b.pulse → b.get? m.channel = some m.payload) ∧
    final.buffer.isEmpty = true ∧
    final.counters = { received := .ofNat sent.length, buffered := .ofNat sent.length,
                       complete := .ofNat pulses.length } ∧
    final.counters.complete.toNat = pulses.length := by
  have hcounters := counters_of_load h hfirst hopen hload hspace
  refine ⟨fun before m after hsplit => buffered_of_load h hfirst hopen hload hspace hsplit,
    bundles_of_load h hfirst hopen hload hspace rfl, ?_, hcounters, ?_⟩
  · obtain ⟨acts, hcarries, -, hadmits, -⟩ := run_of_load h hfirst hopen hload hspace
    have hempty := hcarries.buffer_empty hadmits.arrivals (settled_run h hspace.age ops)
    exact List.isEmpty_iff.2 hempty
  · -- The number of pulses is at most that of places in the buffer, which is a 64-bit number.
    have hplaces := hspace.buffer
    have hbits : c.maxBuffered.toNat < UInt64.size := c.maxBuffered.toNat_lt
    rw [hcounters]
    apply UInt64.toNat_ofNat_of_lt'
    omega

/-- Three pulses; a message for the last one comes first, and a consumer asks in between. -/
theorem lossless_of_load_three_pulses :
    ∃ t : Session Nat,
      create { channels := [⟨"a", 1, 0⟩, ⟨"b", 2, 0⟩], maxBuffered := 3, delivery := .push 3 } 0 =
          .ok t ∧
        let ops : List (Op Nat) := [.add ⟨"b", 4, 1⟩, .add ⟨"a", 2, 2⟩, .add ⟨"a", 4, 3⟩,
          .add ⟨"b", 2, 4⟩, .receive, .add ⟨"a", 3, 5⟩]
        let final := (t.run ops).2.synchronizer
        ((t.run ops).1.filterMap Response.bundle? ++ final.outlet.queue).map (·.pulse) =
            [2, 3, 4] ∧
          final.buffer.isEmpty = true ∧ final.counters.complete.toNat = 3 := by
  obtain ⟨t, h⟩ : ∃ t : Session Nat, create
      { channels := [⟨"a", 1, 0⟩, ⟨"b", 2, 0⟩], maxBuffered := 3, delivery := .push 3 } 0 = .ok t :=
    ⟨_, rfl⟩
  refine ⟨t, h, ?_⟩
  intro ops final
  have hset := (new_of_create h).schedules
  have hpulses : t.synchronizer.schedules.pulsesWithin 2 4 = [2, 3, 4] := by
    unfold ScheduleSet.pulsesWithin ScheduleSet.expectedCount
    rw [hset]
    decide +kernel
  have hopen : ∀ op ∈ ops, op ≠ .close := by
    intro op hop hclose
    rw [hclose] at hop
    simp [ops] at hop
  have hsent : ops.filterMap Op.message? =
      [⟨"b", 4, 1⟩, ⟨"a", 2, 2⟩, ⟨"a", 4, 3⟩, ⟨"b", 2, 4⟩, ⟨"a", 3, 5⟩] := rfl
  have hload : Load t.synchronizer.schedules 2 4 (ops.filterMap Op.message?) := by
    rw [hsent]
    refine ⟨by decide, fun channel p => ?_, ?_⟩
    · rw [hpulses]
      unfold ScheduleSet.expectedChannels
      rw [hset]
      constructor
      · intro ⟨m, hm, hchannel, hpulse⟩
        subst hchannel hpulse
        revert m
        decide
      · intro ⟨hp, hchannel⟩
        simp only [List.mem_cons, List.not_mem_nil, or_false] at hp
        rcases hp with rfl | rfl | rfl <;> revert channel <;> decide
    · rw [hpulses]
      intro least hleast p hp hother
      cases hleast
      refine ⟨[⟨"b", 4, 1⟩], _, _, rfl, rfl, ?_⟩
      simp only [List.mem_cons, List.not_mem_nil, or_false] at hp
      rcases hp with rfl | rfl | rfl
      · exact absurd rfl hother
      · exact ⟨⟨"a", 3, 5⟩, by simp⟩
      · exact ⟨⟨"a", 4, 3⟩, by simp⟩
  have hlossless := lossless_of_load h (by decide) hopen hload
    ⟨rfl, rfl, by rw [hpulses]; decide, fun capacity hcapacity => by
      cases hcapacity
      rw [hpulses]
      decide⟩
  rw [hpulses] at hlossless
  exact ⟨hlossless.2.1.1, hlossless.2.2.1, hlossless.2.2.2.2⟩

end Session

end PulseJoin
