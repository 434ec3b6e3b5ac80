import PulseJoin.Proofs.Replay.Plan
import PulseJoin.Proofs.Replay.Producers
import PulseJoin.Proofs.Statistics.Bundles

/-!
# The books of a replay

However the producers of a replay take turns, what they report is what the session counted and what
was planned: every planned value is received, none is refused but for coming too late, and the
consumers' statistics agree with the bundles obtained (`accounting`).
-/

namespace PulseJoin.Replay

variable {α : Type}

namespace Exchange

/-- A session with producers that have still to send all of their plans. -/
def ofPlans (t : Session α) (plans : List (String × Plan)) : Exchange α :=
  ⟨t, plans.map fun (name, plan) => .start name plan, []⟩

theorem fed_ofPlans {t : Session α} (hopen : t.synchronizer.closed = false)
    (plans : List (String × Plan)) : (ofPlans t plans).Fed t (ofPlans t plans).senders [] := by
  refine .of_open hopen ?_ ?_
  · intro a ha
    obtain ⟨q, -, rfl⟩ := List.mem_map.1 ha
    exact Sender.honest_start q.1 q.2
  · intro a ha
    obtain ⟨q, -, rfl⟩ := List.mem_map.1 ha
    rfl

namespace Fed

variable {t : Session α} {plans : List (String × Plan)} {ops : List (Op α)} {x : Exchange α}
  (h : x.Fed t (ofPlans t plans).senders ops)

include h

theorem map_plans (f : Plan → Nat) : x.senders.map (fun a => f a.plan) =
    plans.map fun q => f q.2 := by
  have hplans := congrArg (List.map f) h.plans
  rw [List.map_map, List.map_map] at hplans
  refine hplans.trans ?_
  show ((plans.map _).map _) = _
  rw [List.map_map]
  rfl

variable (hdone : x.Done)

include hdone

theorem values :
    ((ops.filterMap Op.message?).map fun m => (m.channel, m.pulse)).Perm
      (plans.flatMap fun q => q.2.pulses.map fun p => (q.1, p)) := by
  have hnone : x.senders.flatMap Sender.ahead = [] := by
    rw [List.flatMap_eq_nil_iff]
    intro a ha
    unfold Sender.ahead
    rw [hdone a ha]
    rfl
  have hplanned : (ofPlans t plans).senders.flatMap Sender.ahead =
      plans.flatMap fun q => q.2.pulses.map fun p => (q.1, p) := by
    unfold ofPlans
    rw [List.flatMap_map]
    rfl
  have hsent := h.sent
  rwa [hnone, List.append_nil, hplanned] at hsent

theorem on_schedule {start : PulseId} {count : Nat}
    (hplans : List.Forall₂ (fun s q => q.1 = s.name ∧ q.2.Covers s start count)
      t.synchronizer.schedules.toList plans) :
    (∀ m ∈ ops.filterMap Op.message?,
      m.channel ∈ t.synchronizer.schedules.expectedChannels m.pulse) ∧
    ((ops.filterMap Op.message?).map fun m => (m.channel, m.pulse)).Nodup := by
  have hvalues := h.values hdone
  constructor
  · intro m hm
    obtain ⟨q, hq, hvalue⟩ := List.mem_flatMap.1 (hvalues.subset (List.mem_map_of_mem hm))
    obtain ⟨p, hp, heq⟩ := List.mem_map.1 hvalue
    obtain ⟨s, hs, hname, hcovers⟩ := schedule_of_plan hplans hq
    rw [Prod.mk.injEq] at heq
    rw [ScheduleSet.mem_expectedChannels]
    exact ⟨s, hs, heq.2 ▸ hcovers.expected p hp, hname.symm.trans heq.1⟩
  · exact hvalues.nodup_iff.2
      (values_nodup_of_plans hplans t.synchronizer.schedules.names_nodup)

theorem sent_eq {a : Sender} (ha : a ∈ x.senders) :
    a.report.sent.toNat = a.plan.pulses.length := by
  have hsent := (h.honest a ha).sent
  rwa [hdone a ha] at hsent

theorem total_sent : (x.senders.map (·.report.sent.toNat)).sum =
    (plans.map (·.2.pulses.length)).sum := by
  rw [List.map_congr_left fun a ha => h.sent_eq hdone ha, h.map_plans (·.pulses.length)]

theorem total_kept_and_dropped :
    (x.senders.map fun a => a.report.sent.toNat + a.report.dropped.toNat).sum =
      (plans.map fun q => q.2.pulses.length + q.2.dropped.toNat).sum := by
  have hreport (a : Sender) (ha : a ∈ x.senders) :
      a.report.sent.toNat + a.report.dropped.toNat =
        a.plan.pulses.length + a.plan.dropped.toNat := by
    rw [h.sent_eq hdone ha, (h.honest a ha).dropped]
  rw [List.map_congr_left hreport, h.map_plans fun plan => plan.pulses.length + plan.dropped.toNat]

theorem length_messages :
    (ops.filterMap Op.message?).length = (plans.map (·.2.pulses.length)).sum := by
  have hlength := (h.values hdone).length_eq
  rw [List.length_map, List.length_flatMap] at hlength
  simpa using hlength

end Fed

/-- What the books of a replay say when all is sent. -/
structure Books (r : Setup) (plans : List (String × Plan)) (x : Exchange α) : Prop where
  received : (x.senders.map (·.report.sent.toNat)).sum =
    x.session.synchronizer.counters.received.toNat
  sent : (x.senders.map (·.report.sent.toNat)).sum = (plans.map (·.2.pulses.length)).sum
  rejected : (x.senders.map (·.report.rejected.toNat)).sum =
    x.session.synchronizer.counters.stale.toNat
  unknownChannel : x.session.synchronizer.counters.unknownChannel = 0
  offSchedule : x.session.synchronizer.counters.offSchedule = 0
  duplicates : x.session.synchronizer.counters.duplicates = 0
  expected : (x.senders.map fun a => a.report.sent.toNat + a.report.dropped.toNat).sum =
    (r.config.channels.map (·.expectedFrom r.start r.pulses.toNat)).sum
  statistics : ∃ stats, BundleStats.ofList? x.obtained = some stats ∧ stats.violations = 0 ∧
    stats.total.toNat = x.obtained.length ∧
    ∀ channel, ((stats.channels.get? channel).getD 0).toNat =
      x.obtained.countP fun b => channel ∈ b.channels

/-- The counters and the statistics agree with the plans, as the reports do. -/
theorem Fed.books {r : Setup} {clock : UInt64} {t : Session α} {plans : List (String × Plan)}
    {ops : List (Op α)} {x : Exchange α} (hfed : x.Fed t (ofPlans t plans).senders ops)
    (h : Session.create r.config clock = .ok t)
    (hplans : List.Forall₂ (fun s q => q.1 = s.name ∧ q.2.Covers s r.start r.pulses.toNat)
      r.config.channels plans)
    (hfew : (plans.map (·.2.pulses.length)).sum < UInt64.size) (hdone : x.Done) :
    x.Books r plans := by
  obtain ⟨-, -, hschedules, -⟩ := Session.new_of_create h
  have hlength := hfed.length_messages hdone
  obtain ⟨hscheduled, honce⟩ := hfed.on_schedule hdone (hschedules ▸ hplans)
  obtain ⟨hunknown, hoff, hduplicates, hreceived, hsplit⟩ :=
    Session.counters_of_scheduled h hscheduled honce (hlength ▸ hfew)
  obtain ⟨hascending, hbundles⟩ := Session.obtained_of_run h ops
  rw [← hfed.session] at hunknown hoff hduplicates hreceived hsplit
  rw [← hfed.obtained] at hascending hbundles
  obtain ⟨stats, hstats, htells⟩ := BundleStats.exists_ofList? hascending
  have hsent := hfed.total_sent hdone
  constructor
  case received => rw [hsent, hreceived, hlength]
  case sent => exact hsent
  case rejected =>
    -- What was neither taken in nor answered with the close was stale, as in the reports.
    have hrejected := hfed.rejected
    have hheard := hfed.heard
    omega
  case unknownChannel => exact hunknown
  case offSchedule => exact hoff
  case duplicates => exact hduplicates
  case expected => exact (hfed.total_kept_and_dropped hdone).trans (total_of_plans hplans)
  case statistics =>
    refine ⟨stats, hstats, htells.violations_eq_zero hascending, ?_, fun channel => ?_⟩
    · rw [htells.total]
      exact UInt64.toNat_ofNat_of_lt' (by omega)
    · have hcount : (x.obtained.countP fun b => channel ∈ b.channels) ≤ x.obtained.length :=
        List.countP_le_length
      rw [htells.channels]
      exact UInt64.toNat_ofNat_of_lt' (by omega)

/-- The books balance after any interleaving in which all is sent. -/
theorem books_of_orderly {r : Setup} {clock : UInt64} {t : Session α}
    {plans : List (String × Plan)} (h : Session.create r.config clock = .ok t)
    (hplans : List.Forall₂ (fun s q => q.1 = s.name ∧ q.2.Covers s r.start r.pulses.toNat)
      r.config.channels plans)
    (hfew : (plans.map (·.2.pulses.length)).sum < UInt64.size) {payload : String → PulseId → α}
    {moves : List (Move α)} (hmoves : (ofPlans t plans).Orderly payload moves)
    (hdone : ((ofPlans t plans).run payload moves).Done) :
    ((ofPlans t plans).run payload moves).Books r plans := by
  have hopen := (Session.new_of_create h).fresh.closed
  -- Fewer values are planned than a counter has room for, so no count wraps around.
  have hshort : ∀ a ∈ (ofPlans t plans).senders, a.plan.pulses.length < UInt64.size := by
    intro a ha
    obtain ⟨q, hq, rfl⟩ := List.mem_map.1 ha
    have hpart : q.2.pulses.length ∈ plans.map (·.2.pulses.length) := List.mem_map_of_mem hq
    exact Nat.lt_of_le_of_lt (List.le_sum_of_mem hpart) hfew
  obtain ⟨ops, hfed⟩ := fed_run payload (fed_ofPlans hopen plans) hshort hmoves
  exact hfed.books h hplans hfew hdone

end Exchange

open Exchange

theorem exists_plans_of_create {r : Setup} {clock : UInt64} {t : Session α}
    (h : Session.create r.config clock = .ok t) (hpulses : r.pulses.toNat ≤ 2 ^ 63)
    (hrate : r.dropRate ≤ 1) :
    ∃ plans, r.plans? = some plans ∧
      List.Forall₂ (fun s q => q.1 = s.name ∧ q.2.Covers s r.start r.pulses.toNat)
        r.config.channels plans := by
  obtain ⟨-, -, hschedules, -⟩ := Session.new_of_create h
  refine exists_plans? (fun s hs => ?_) hpulses hrate
  exact t.synchronizer.schedules.period_ne_zero (hschedules.symm ▸ hs)

/-- The books of a replay balance, whatever the interleaving of the producers with one another, with
consumers and with the clock, if the session is not closed before all is sent.  Every planned value
is sent and received; those rejected are the stale ones; nothing is of an unknown channel, off
schedule or a duplicate; the values sent and those dropped are all that were expected.  The bundles
that consumers obtained have statistics, with no violation of the order. -/
theorem accounting {r : Setup} {clock : UInt64} {t : Session α}
    (h : Session.create r.config clock = .ok t) (hpulses : r.pulses.toNat ≤ 2 ^ 63)
    (hrate : r.dropRate ≤ 1) :
    ∃ plans, r.plans? = some plans ∧
      ((plans.map (·.2.pulses.length)).sum < UInt64.size →
        ∀ (payload : String → PulseId → α) (moves : List (Move α)),
          (ofPlans t plans).Orderly payload moves →
          let final := (ofPlans t plans).run payload moves
          let reports := final.senders.map (·.report)
          let counters := final.session.synchronizer.counters
          final.Done →
          (reports.map (·.sent.toNat)).sum = counters.received.toNat ∧
          (reports.map (·.sent.toNat)).sum = (plans.map (·.2.pulses.length)).sum ∧
          (reports.map (·.rejected.toNat)).sum = counters.stale.toNat ∧
          counters.unknownChannel = 0 ∧ counters.offSchedule = 0 ∧ counters.duplicates = 0 ∧
          (reports.map fun report => report.sent.toNat + report.dropped.toNat).sum =
            (r.config.channels.map (·.expectedFrom r.start r.pulses.toNat)).sum ∧
          ∃ stats, BundleStats.ofList? final.obtained = some stats ∧ stats.violations = 0 ∧
            stats.total.toNat = final.obtained.length ∧
            ∀ channel, ((stats.channels.get? channel).getD 0).toNat =
              final.obtained.countP fun b => channel ∈ b.channels) := by
  obtain ⟨plans, hplans, hcovers⟩ := exists_plans_of_create h hpulses hrate
  refine ⟨plans, hplans, fun hfew payload moves hmoves => ?_⟩
  intro final reports counters hdone
  have hbooks : final.Books r plans := books_of_orderly h hcovers hfew hmoves hdone
  -- The books speak of the producers, and the statement of their reports.
  have hreports (f : Report → Nat) : reports.map f = final.senders.map fun a => f a.report :=
    List.map_map
  rw [hreports, hreports, hreports]
  exact ⟨hbooks.received, hbooks.sent, hbooks.rejected, hbooks.unknownChannel,
    hbooks.offSchedule, hbooks.duplicates, hbooks.expected, hbooks.statistics⟩

/-- Two producers of which the first drops half of its values.  The second one is ahead, so the
limit of the buffer forces the second pulse out, and the value of the first producer for it is
stale. -/
theorem accounting_stale_value :
    let r : Setup := {
      config := { channels := [⟨"a", 1, 0⟩, ⟨"b", 2, 0⟩], delivery := .pull, maxBuffered := 1,
                  maxAge? := some 3, sendIncomplete := true }
      pulses := 4, start := 1, dropRate := 0.25, window := 1, seed := 3 }
    ∃ (t : Session Unit) (plans : List (String × Plan)),
      Session.create r.config 0 = .ok t ∧ r.plans? = some plans ∧
        plans = [("a", ⟨[2, 4], 2⟩), ("b", ⟨[2, 4], 0⟩)] ∧
        let final := (ofPlans t plans).run (fun _ _ => ()) [.send 1, .send 1, .send 0,
          .other .tryNext, .send 0, .other (.advanceClock 5), .other .evictExpired, .other .next]
        let reports := final.senders.map (·.report)
        (reports.map (·.sent.toNat)).sum = 4 ∧ (reports.map (·.rejected.toNat)).sum = 1 ∧
          (reports.map fun report => report.sent.toNat + report.dropped.toNat).sum = 6 ∧
          final.obtained.map (·.pulse) = [2, 4] ∧
          ∃ stats, BundleStats.ofList? final.obtained = some stats ∧ stats.total.toNat = 2 := by
  intro r
  have h : Session.create (α := Unit) r.config 0 = .ok _ := rfl
  obtain ⟨plans, hplans, hbooks⟩ := accounting h (by decide) (by decide)
  have hvalues : r.plans? = some [("a", ⟨[2, 4], 2⟩), ("b", ⟨[2, 4], 0⟩)] := by decide +kernel
  obtain rfl := Option.some.inj (hplans.symm.trans hvalues)
  refine ⟨_, _, h, hplans, rfl, ?_⟩
  intro final reports
  have hdone : final.Done := by
    have htodo : final.senders.map (·.todo) = [[], []] := by decide +kernel
    intro a ha
    have hlist : a.todo ∈ final.senders.map (·.todo) := List.mem_map_of_mem ha
    rw [htodo] at hlist
    simpa using hlist
  have horderly (x : Exchange Unit) : x.Orderly (fun _ _ => ()) [.send 1, .send 1, .send 0,
      .other .tryNext, .send 0, .other (.advanceClock 5), .other .evictExpired, .other .next] := by
    constructor
    · intro op hop
      simp at hop
      rcases hop with rfl | rfl | rfl | rfl <;> rfl
    · intro before after hsplit
      have hclose : Move.other Op.close ∈ before ++ .other .close :: after :=
        List.mem_append_right _ (.head _)
      rw [← hsplit] at hclose
      simp at hclose
  obtain ⟨-, hsent, hrejected, -, -, -, hexpected, stats, hstats, -, htotal, -⟩ :=
    hbooks (by decide) (fun _ _ => ()) _ (horderly _) hdone
  have hpulses : final.obtained.map (·.pulse) = [2, 4] := by decide +kernel
  refine ⟨hsent, ?_, ?_, hpulses, stats, hstats, ?_⟩
  · exact hrejected.trans (by decide +kernel)
  · exact hexpected.trans (by decide +kernel)
  · rw [htotal, ← List.length_map (·.pulse)]
    exact congrArg List.length hpulses

end PulseJoin.Replay
