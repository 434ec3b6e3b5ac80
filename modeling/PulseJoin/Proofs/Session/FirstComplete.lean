import PulseJoin.Proofs.Config.Acceptance
import PulseJoin.Proofs.Session.Scheduled
import PulseJoin.Proofs.Synchronizer.FirstComplete
import PulseJoin.Proofs.Synchronizer.Outcomes

/-!
# The first complete pulse of a session

With the startup rule a session begins with its first complete pulse.  The message that completes it
sets the older pulses aside, which no later message can bring back, and the bundle is the first that
is handed out.  This happens once at most: from then on the boundary is set.
-/

namespace PulseJoin.Session

universe u

variable {α : Type u} {c : Config} {clock : UInt64} {t : Session α} {before ops : List (Op α)}
  {m m' : Message α} {op : Op α}

/-- Whether after some operations a message is taken in that makes its pulse complete, while nothing
is resolved. -/
def FirstComplete (t : Session α) (before : List (Op α)) (m : Message α) : Prop :=
  ((t.run before).2.step (.add m)).1 = .outcome .buffered ∧
    (t.run before).2.synchronizer.MakesComplete m ∧
    (t.run before).2.synchronizer.boundary? = none

theorem FirstComplete.welcomes (h : t.FirstComplete before m) :
    (t.run before).2.synchronizer.Welcomes m :=
  Synchronizer.add_eq_buffered_iff.1 (Response.outcome.inj h.1)

/-- The startup rule, if it is wanted, fires on the first complete pulse and on no other. -/
theorem startsWith_iff_firstComplete (h : create c clock = .ok t)
    (hwelcome : (t.run before).2.synchronizer.Welcomes m) :
    (t.run before).2.synchronizer.startsWith ⟨(t.run before).2.clock, m⟩ = true ↔
      c.sendFirstComplete = true ∧ t.FirstComplete before m := by
  obtain ⟨acts, -, -, hsound⟩ := sound_run h before
  rw [hsound.regular.startsWith_iff hwelcome.2.1, config_run h]
  have hbuffered : ((t.run before).2.step (.add m)).1 = .outcome .buffered :=
    congrArg Response.outcome (Synchronizer.add_eq_buffered_iff.2 hwelcome)
  exact and_congr_right fun _ => ⟨fun hfirst => ⟨hbuffered, hfirst⟩, And.right⟩

/-! ## Pulses set aside -/

theorem setAsideBy_eq_nil (hquiet : ∀ m, op = .add m → t.synchronizer.Welcomes m →
      ¬ t.synchronizer.startsWith ⟨t.clock, m⟩ = true) : t.setAsideBy op = [] := by
  cases op with
  | add m =>
    by_cases hwelcome : t.synchronizer.Welcomes m
    · rw [setAsideBy_of_welcome hwelcome]
      unfold Synchronizer.setAside
      rw [if_neg (hquiet m rfl hwelcome)]
      rfl
    · exact if_neg fun hbuffered => hwelcome (Synchronizer.add_eq_buffered_iff.1 hbuffered)
  | _ => rfl

theorem turns_historyOf_of_startsWith (hwelcome : t.synchronizer.Welcomes m)
    (hstarts : t.synchronizer.startsWith ⟨t.clock, m⟩ = true) :
    (t.historyOf (.add m)).turns ≠ [] := by
  show (t.synchronizer.addHistory t.clock m).turns ≠ []
  rw [Synchronizer.turns_addHistory hwelcome]
  exact Synchronizer.turns_of_startsWith (s := t.synchronizer.note .received) (a := ⟨t.clock, m⟩)
    hwelcome hstarts t.clock

theorem gather_setAsideBy_of_no_turn (hturns : (t.history ops).turns = []) :
    t.gather setAsideBy ops = [] := by
  induction ops using List.reverseRecOn with
  | nil => rfl
  | append_singleton ops op ih =>
    rw [history_concat, History.turns_append, List.append_eq_nil_iff] at hturns
    rw [gather_concat, ih hturns.1, setAsideBy_eq_nil fun m hm hwelcome hstarts => ?_]
    · rfl
    · subst hm
      exact turns_historyOf_of_startsWith hwelcome hstarts hturns.2

theorem turns_eq_nil_of_boundary? (h : create c clock = .ok t)
    (hnone : (t.run ops).2.synchronizer.boundary? = none) : (t.history ops).turns = [] := by
  obtain ⟨acts, hruns, hacts, hsound⟩ := sound_run h ops
  rw [← hacts]
  by_contra hturns
  have hlast := hsound.last _ (List.getLast?_eq_some_getLast hturns)
  have hsome : (t.run ops).2.synchronizer.boundary? = some _ :=
    Watermarks.boundary?_eq_some_iff.2 hlast
  rw [hnone] at hsome
  cases hsome

theorem setAsideBy_of_quiet (h : create c clock = .ok t)
    (hquiet : ∀ m, op = .add m → c.sendFirstComplete = true → ¬ t.FirstComplete ops m) :
    (t.run ops).2.setAsideBy op = [] := by
  refine setAsideBy_eq_nil fun m hm hwelcome hstarts => ?_
  obtain ⟨hwanted, hfirst⟩ := (startsWith_iff_firstComplete h hwelcome).1 hstarts
  exact hquiet m hm hwanted hfirst

theorem startupDiscarded_run (h : create c clock = .ok t) (ops : List (Op α)) :
    (t.run ops).2.synchronizer.counters.startupDiscarded =
      .ofNat (t.gather setAsideBy ops).length := by
  obtain ⟨acts, hruns, -, hbalanced⟩ := balanced_run h ops
  rw [← hbalanced.discarded]
  exact hruns.counted (counted_of_create h) .startupDiscarded

theorem startupDiscarded_step (h : create c clock = .ok t)
    (hquiet : ∀ m, op = .add m → c.sendFirstComplete = true → ¬ t.FirstComplete ops m) :
    ((t.run ops).2.step op).2.synchronizer.counters.startupDiscarded =
      (t.run ops).2.synchronizer.counters.startupDiscarded := by
  have hrun := startupDiscarded_run h (ops ++ [op])
  rw [gather_concat, setAsideBy_of_quiet h hquiet, List.append_nil, ← startupDiscarded_run h ops,
    run_concat] at hrun
  exact hrun

theorem startupDiscarded_of_off (h : create c clock = .ok t) (hoff : c.sendFirstComplete = false)
    (ops : List (Op α)) : (t.run ops).2.synchronizer.counters.startupDiscarded = 0 := by
  induction ops using List.reverseRecOn with
  | nil => rw [startupDiscarded_run h]; rfl
  | append_singleton ops op ih =>
    rw [run_concat, ← ih]
    exact startupDiscarded_step h fun m _ hon => by rw [hoff] at hon; cases hon

/-! ## The first complete pulse -/

section Started

variable (h : create c clock = .ok t) (hwanted : c.sendFirstComplete = true)
  (hfirst : t.FirstComplete before m)

include h hfirst

theorem FirstComplete.idle :
    (t.history before).turns = [] ∧ t.gather setAsideBy before = [] ∧
      t.gather thrownBy before = [] ∧ (t.run before).1.filterMap Response.bundle? = [] ∧
      (t.run before).2.synchronizer.outlet.queue = [] := by
  have hturns := turns_eq_nil_of_boundary? h hfirst.2.2
  have hbundles := (tally_bundles h before).1
  rw [hturns, List.filter_nil, List.map_nil, eq_comm, List.append_eq_nil_iff,
    List.append_eq_nil_iff] at hbundles
  exact ⟨hturns, gather_setAsideBy_of_no_turn hturns, hbundles.1.2, hbundles.1.1, hbundles.2⟩

theorem FirstComplete.handoff :
    (t.run before).2.synchronizer.outlet.handoff = .accepted := by
  obtain ⟨acts, -, -, hsound⟩ := sound_run h before
  have hqueue := (hfirst.idle h).2.2.2.2
  have hrules := Config.fault?_eq_none_iff.1 (exists_create_iff.1 ⟨t, h⟩).1
  have hroom : (t.run before).2.synchronizer.outlet.isFull = false := by
    unfold Outlet.isFull
    rw [mode_run h, hqueue]
    cases hdelivery : c.delivery with
    | push capacity =>
      -- A queue for no bundle at all is against the rules.
      have hone := UInt64.le_iff_toNat_le.1 (hrules.queue capacity hdelivery)
      exact decide_eq_false (Nat.not_le.2 hone)
    | pull => rfl
  rw [hsound.handoff hfirst.welcomes.1, hroom]
  rfl

include hwanted

theorem FirstComplete.startsWith :
    (t.run before).2.synchronizer.startsWith ⟨(t.run before).2.clock, m⟩ = true :=
  (startsWith_iff_firstComplete h hfirst.welcomes).2 ⟨hwanted, hfirst⟩

theorem FirstComplete.opens :
    (t.run before).2.synchronizer.Opens (t.run before).2.clock m
      ((t.run before).2.step (.add m)).2.synchronizer := by
  obtain ⟨acts, -, -, hsound⟩ := sound_run h before
  exact Synchronizer.opens_of_startsWith hsound hfirst.welcomes
    (hfirst.startsWith h hwanted) (hfirst.handoff h)

theorem FirstComplete.startupDiscarded :
    (t.run before).2.synchronizer.counters.startupDiscarded = 0 ∧
      ((t.run before).2.step (.add m)).2.synchronizer.counters.startupDiscarded.toNat =
        (t.run before).2.synchronizer.buffer.toList.countP (·.1 < m.pulse) := by
  have hnone := (hfirst.idle h).2.1
  constructor
  · rw [startupDiscarded_run h, hnone]
    rfl
  · obtain ⟨acts, -, -, hbalanced⟩ := balanced_run h (before ++ [.add m])
    have hcount := toNat_get h (before ++ [.add m])
      (tally_lt h _ (k := .startupDiscarded) (.head _))
    rw [hbalanced.discarded, gather_concat, hnone, List.nil_append,
      setAsideBy_of_welcome hfirst.welcomes, Synchronizer.toList_setAside_of_startsWith
        (hfirst.startsWith h hwanted), ← List.countP_eq_length_filter,
      run_concat] at hcount
    exact hcount

theorem FirstComplete.obtained (after : List (Op α)) {b : Bundle α}
    (hb : ((t.run (before ++ .add m :: after)).1.filterMap Response.bundle?).head? = some b) :
    b = (t.run before).2.synchronizer.bundleWith m := by
  obtain ⟨-, -, hthrown, hobtained, hqueue⟩ := hfirst.idle h
  obtain ⟨later, hlater⟩ := (hfirst.opens h hwanted).queue
  rw [hqueue] at hlater
  have hstart : ((t.history (before ++ [.add m])).turns.filter Turn.accepted).map Turn.bundle =
      (t.run before).2.synchronizer.bundleWith m :: later := by
    rw [(tally_bundles h _).1, run_concat, List.filterMap_append, hobtained, gather_concat, hthrown]
    exact hlater
  have hall := (tally_bundles h (before ++ .add m :: after)).1
  rw [List.append_cons, history_append, History.turns_append, List.filter_append, List.map_append,
    hstart] at hall
  rw [List.append_cons] at hb
  obtain ⟨rest, hrest⟩ := List.head?_eq_some_iff.1 hb
  rw [hrest] at hall
  exact (List.cons.inj hall).1.symm

theorem FirstComplete.le_pulse {after : List (Op α)} {u : Turn α}
    (hu : u ∈ (t.history (before ++ .add m :: after)).turns) : m.pulse ≤ u.pulse := by
  obtain ⟨acts, hruns, hacts, -⟩ := sound_run h (before ++ .add m :: after)
  obtain ⟨k, -, hturns⟩ := (hfirst.opens h hwanted).pass
  have hsplit : (t.history (before ++ .add m :: after)).turns =
      ((t.run before).2.historyOf (.add m)).turns ++
        (((t.run before).2.step (.add m)).2.history after).turns := by
    rw [history_append, History.turns_append, (hfirst.idle h).1]
    rfl
  have hascending : ((t.history (before ++ .add m :: after)).turns.map Turn.pulse).Pairwise
      (· < ·) := by
    rw [← hacts]
    exact List.pairwise_map.2 (hruns.ascending (new_of_create h).fresh)
  refine PulseId.le_of_head? hascending ?_ (List.mem_map_of_mem hu)
  obtain ⟨v, later, hv, hbundle, -⟩ := List.map_eq_cons_iff.1 hturns
  rw [hsplit, show ((t.run before).2.historyOf (.add m)).turns = v :: later from hv]
  exact congrArg (fun b => some b.pulse) hbundle

end Started

theorem FirstComplete.not_prefix (h : create c clock = .ok t) (hwanted : c.sendFirstComplete = true)
    (hfirst : t.FirstComplete before m) {before' : List (Op α)}
    (hfirst' : t.FirstComplete before' m') : ¬ before ++ [.add m] <+: before' := by
  intro ⟨rest, hrest⟩
  have hnone := turns_eq_nil_of_boundary? h hfirst'.2.2
  rw [← hrest, history_append, history_concat, History.turns_append, History.turns_append,
    List.append_eq_nil_iff, List.append_eq_nil_iff] at hnone
  exact turns_historyOf_of_startsWith hfirst.welcomes (hfirst.startsWith h hwanted)
    hnone.1.2

theorem FirstComplete.unique (h : create c clock = .ok t) (hwanted : c.sendFirstComplete = true)
    (hfirst : t.FirstComplete before m) {before' : List (Op α)}
    (hfirst' : t.FirstComplete before' m') (hops : before ++ [.add m] <+: ops)
    (hops' : before' ++ [.add m'] <+: ops) : before' = before := by
  rcases List.prefix_or_prefix_of_prefix hops hops' with hle | hle
  · rcases List.prefix_concat_iff.1 hle with heq | hshort
    · exact (List.append_inj' heq rfl).1.symm
    · exact absurd hshort (hfirst.not_prefix h hwanted hfirst')
  · rcases List.prefix_concat_iff.1 hle with heq | hshort
    · exact (List.append_inj' heq rfl).1
    · exact absurd hshort (hfirst'.not_prefix h hwanted hfirst)

/-! ## Messages that come too late -/

theorem closed_run_iff (t : Session α) (ops : List (Op α)) :
    (t.run ops).2.synchronizer.closed = true ↔ t.synchronizer.closed = true ∨ .close ∈ ops := by
  induction ops using List.reverseRecOn with
  | nil => simp [run]
  | append_singleton ops op ih =>
    rw [run_concat, List.mem_append, List.mem_singleton, ← or_assoc, ← ih]
    generalize (t.run ops).2 = found
    refine ⟨fun hclosed => (closed_step hclosed).imp_right Eq.symm, fun hclosed => ?_⟩
    obtain ⟨acts, hruns, hacts⟩ := found.performs_step op
    have hcloses : Act.closes acts = (found.historyOf op).closed := congrArg History.closed hacts
    rw [hruns.closed_eq, hcloses]
    rcases hclosed with hclosed | rfl
    · rw [hclosed]
      rfl
    · exact Bool.or_not_self _

theorem add_of_passed (h : create c clock = .ok t) (hscheduled : ∃ r ∈ c.channels,
      r.name = m.channel ∧ r.period.toInt ∣ m.pulse.toInt - r.phase.toInt)
    (hpassed : m.pulse ≤ (t.run ops).2.synchronizer.marks.boundary) :
    ((t.run ops).2.step (.add m)).1 =
      .outcome (if (t.run ops).2.synchronizer.closed then .closed else .stale) := by
  refine congrArg Response.outcome ((Synchronizer.add_eq_iff_due _ _ _ _).2 ?_)
  rw [schedules_run h]
  cases (t.run ops).2.synchronizer.closed with
  | true => exact rfl
  | false => exact ⟨rfl, hscheduled, hpassed⟩

theorem FirstComplete.le_boundary (h : create c clock = .ok t)
    (hwanted : c.sendFirstComplete = true) (hfirst : t.FirstComplete before m) (mid : List (Op α)) :
    m.pulse ≤ (t.run (before ++ .add m :: mid)).2.synchronizer.marks.boundary := by
  obtain ⟨q, hq, hle⟩ := (hfirst.opens h hwanted).boundary
  obtain ⟨acts, hruns, -⟩ := ((t.run before).2.step (.add m)).2.performs_run mid
  have hrise := hruns.boundary_le
  rw [(Watermarks.boundary?_eq_some_iff.1 hq).1] at hrise
  rw [run_append]
  exact Int64.le_trans hle hrise

theorem FirstComplete.closed_iff (hfirst : t.FirstComplete before m) (mid : List (Op α)) :
    (t.run (before ++ .add m :: mid)).2.synchronizer.closed = true ↔ .close ∈ mid := by
  rw [run_append]
  rw [show ((t.run before).2.run (.add m :: mid)).2 =
    (((t.run before).2.step (.add m)).2.run mid).2 from rfl, closed_run_iff]
  refine or_iff_right fun hclosed => ?_
  rcases closed_step hclosed with hbefore | hop
  · rw [hfirst.welcomes.1] at hbefore
    cases hbefore
  · cases hop

/-- With the startup rule a session begins with its first complete pulse.  The message that makes a
pulse complete while nothing is resolved removes the buffered pulses below it, which are counted as
set aside and of which none is ever resolved; it keeps those above it, but for the oldest ones that
the pass resolves.  The complete bundle of the pulse is accepted as the first bundle of the run, and
consumers obtain it first.  The boundary is at the pulse or above, so later messages on schedule for
it or for older pulses are stale, or refused because of the close.  No other operation sets pulses
aside, and without the rule none does. -/
theorem first_complete_opens (h : create c clock = .ok t) :
    (c.sendFirstComplete = false →
      ∀ ops, (t.run ops).2.synchronizer.counters.startupDiscarded = 0) ∧
    (∀ ops op, (∀ m, op = .add m → c.sendFirstComplete = true → ¬ t.FirstComplete ops m) →
      ((t.run ops).2.step op).2.synchronizer.counters.startupDiscarded =
        (t.run ops).2.synchronizer.counters.startupDiscarded) ∧
    (c.sendFirstComplete = true → ∀ before m, t.FirstComplete before m →
      let found := (t.run before).2
      let s := found.synchronizer
      let s' := (found.step (.add m)).2.synchronizer
      s.Opens found.clock m s' ∧
      s.counters.startupDiscarded = 0 ∧
      s'.counters.startupDiscarded.toNat = s.buffer.toList.countP (·.1 < m.pulse) ∧
      s.outlet.queue = [] ∧ (t.run before).1.filterMap Response.bundle? = [] ∧
      ∀ after,
        let ops := before ++ .add m :: after
        (∀ u ∈ (t.history ops).turns, m.pulse ≤ u.pulse) ∧
        (∀ b, ((t.run ops).1.filterMap Response.bundle?).head? = some b → b = s.bundleWith m) ∧
        (∀ before' op after', ops = before' ++ op :: after' → before' ≠ before →
          ((t.run before').2.step op).2.synchronizer.counters.startupDiscarded =
            (t.run before').2.synchronizer.counters.startupDiscarded) ∧
        ∀ mid m' rest, after = mid ++ .add m' :: rest →
          (∃ r ∈ c.channels,
            r.name = m'.channel ∧ r.period.toInt ∣ m'.pulse.toInt - r.phase.toInt) →
          m'.pulse ≤ m.pulse →
          let answer := ((t.run (before ++ .add m :: mid)).2.step (.add m')).1
          (.close ∈ mid → answer = .outcome .closed) ∧
          (.close ∉ mid → answer = .outcome .stale)) := by
  refine ⟨startupDiscarded_of_off h, fun ops op => startupDiscarded_step h, ?_⟩
  intro hwanted before m hfirst found s s'
  obtain ⟨-, -, -, hobtained, hqueue⟩ := hfirst.idle h
  obtain ⟨hzero, hcount⟩ := hfirst.startupDiscarded h hwanted
  refine ⟨hfirst.opens h hwanted, hzero, hcount, hqueue, hobtained, ?_⟩
  intro after ops
  refine ⟨fun u => hfirst.le_pulse h hwanted,
    fun b => hfirst.obtained h hwanted after, ?_, ?_⟩
  · intro before' op after' hops hother
    -- Another operation that sets pulses aside would be a second first one.
    refine startupDiscarded_step h fun m' hop _ hfirst' => hother ?_
    subst hop
    have hstart : before ++ [.add m] <+: ops := ⟨after, (List.append_cons _ _ _).symm⟩
    have hstart' : before' ++ [.add m'] <+: ops :=
      ⟨after', (List.append_cons _ _ _).symm.trans hops.symm⟩
    exact hfirst.unique h hwanted hfirst' hstart hstart'
  · intro mid m' rest _ hscheduled hle answer
    have hpassed := Int64.le_trans hle (hfirst.le_boundary h hwanted mid)
    have hanswer : answer = _ := add_of_passed h hscheduled hpassed
    have hclosed := hfirst.closed_iff mid
    constructor
    · intro hmem
      rw [hanswer, if_pos (hclosed.2 hmem)]
    · intro hmem
      rw [hanswer, if_neg (fun h => hmem (hclosed.1 h))]

/-- The second message of pulse 3 completes it and sets pulse 2 aside; pulse 4 is kept and resolved
when it is complete.  A message for pulse 3 is stale before the close. -/
theorem first_complete_opens_third :
    ∃ t : Session Nat,
      create { channels := [⟨"a", 1, 0⟩, ⟨"b", 1, 0⟩], sendFirstComplete := true,
               delivery := .push 1 } 0 = .ok t ∧
        let before : List (Op Nat) :=
          [.add ⟨"a", 2, 20⟩, .setClock 7, .add ⟨"a", 4, 40⟩, .add ⟨"a", 3, 30⟩]
        let s' := ((t.run before).2.step (.add ⟨"b", 3, 31⟩)).2.synchronizer
        t.FirstComplete before ⟨"b", 3, 31⟩ ∧ s'.counters.startupDiscarded.toNat = 1 ∧
          s'.buffer.toList.map (fun e => (e.1, e.2.createdAt)) = [(4, 7)] ∧
          s'.boundary? = some 3 ∧ s'.outlet.queue.map (·.pulse) = [3] ∧
          ((t.run (before ++ .add ⟨"b", 3, 31⟩ :: [.receive])).2.step (.add ⟨"a", 3, 32⟩)).1 =
            .outcome .stale := by
  refine ⟨_, rfl, ?_⟩
  intro before
  have h : create (α := Nat) { channels := [⟨"a", 1, 0⟩, ⟨"b", 1, 0⟩], sendFirstComplete := true,
                               delivery := .push 1 } 0 = .ok _ := rfl
  have hstarts := @startsWith_iff_firstComplete Nat _ _ _ before ⟨"b", 3, 31⟩ h
    ((@Synchronizer.add_eq_buffered_iff Nat _ 7 _).1 rfl)
  have hfirst := (hstarts.1 (by decide +kernel)).2
  obtain ⟨-, -, hcount, -, -, hafter⟩ := (first_complete_opens h).2.2 rfl before _ hfirst
  obtain ⟨-, -, -, hlate⟩ := hafter [.receive, .add ⟨"a", 3, 32⟩]
  have hstale := (hlate [.receive] ⟨"a", 3, 32⟩ [] rfl ⟨⟨"a", 1, 0⟩, by decide, rfl, by decide⟩
    (by decide)).2 (by simp)
  dsimp only at hcount ⊢
  rw [hcount]
  refine ⟨hfirst, ?_, ?_, ?_, ?_, hstale⟩ <;> decide +kernel
end PulseJoin.Session
