import PulseJoin.Proofs.Session.Conservation
import PulseJoin.Proofs.Session.Rest
import PulseJoin.Proofs.Synchronizer.Intake

/-!
# Producers do not depend on consumers

What consumers ask for, and how bundles wait for them, changes nothing on the producers' side.  Two
sessions that differ in their delivery mode and in the operations of their consumers resolve the
same pulses, and what consumers obtain is a part of the same list of bundles.
-/

namespace PulseJoin

universe u

variable {α : Type u}

/-- Whether an operation is one of a producer or of the keeper of the clock. -/
def Op.drives : Op α → Bool
  | .add _ | .evictExpired | .setClock _ | .advanceClock _ => true
  | _ => false

/-- An operation with which nobody closes the session and no consumer starts a pass that age could
force to resolve something. -/
def Op.Harmless (c : Config) : Op α → Prop
  | .close => False
  | .tryNext | .next => c.delivery = .pull → c.maxAge? = none
  | _ => True

theorem Op.Harmless.ne_close {c : Config} {op : Op α} (h : op.Harmless c) : op ≠ .close := by
  rintro rfl
  exact h

namespace Session

variable {c : Config} {clock : UInt64} {t t' : Session α} {op : Op α}

/-- Two sessions that are the same for producers. -/
structure Agree (t t' : Session α) : Prop where
  clock : t.clock = t'.clock
  intake : t.synchronizer.intake = t'.synchronizer.intake

theorem Agree.symm (h : t.Agree t') : t'.Agree t := ⟨h.clock.symm, h.intake.symm⟩

theorem Agree.trans {t'' : Session α} (h : t.Agree t') (h' : t'.Agree t'') : t.Agree t'' :=
  ⟨h.clock.trans h'.clock, h.intake.trans h'.intake⟩

/-! ## One operation -/

/-- An operation of a producer has the same effect in both sessions. -/
theorem Agree.step (h : t.Agree t') (hop : op.drives = true) :
    (t.step op).1 = (t'.step op).1 ∧ (t.step op).2.Agree (t'.step op).2 ∧
      (t.historyOf op).turns.map Turn.resolution = (t'.historyOf op).turns.map Turn.resolution := by
  obtain ⟨s, now⟩ := t
  obtain ⟨s', now'⟩ := t'
  obtain ⟨rfl, hintake⟩ := h
  cases op with
  | add m =>
    obtain ⟨houtcome, hafter, hturns⟩ := Synchronizer.add_congr hintake now m
    exact ⟨congrArg Response.outcome houtcome, ⟨rfl, hafter⟩, hturns⟩
  | evictExpired =>
    obtain ⟨hcount, hafter, hturns⟩ := Synchronizer.evictExpired_congr hintake now
    exact ⟨congrArg Response.resolved hcount, ⟨rfl, hafter⟩, hturns⟩
  | setClock ms => exact ⟨rfl, ⟨rfl, hintake⟩, rfl⟩
  | advanceClock ms => exact ⟨rfl, ⟨rfl, hintake⟩, rfl⟩
  | _ => cases hop

/-- A consumer changes nothing for producers. -/
theorem agree_of_consumer (hop : op.drives = false) (hharmless : op.Harmless c)
    (hmode : t.synchronizer.outlet.mode = c.delivery)
    (hrest : c.maxAge? = none → t.synchronizer.Settled) :
    (t.step op).2.Agree t ∧ (t.historyOf op).turns = [] := by
  -- Where consumers pull, no pulse may leave.
  have hsettled (hage : c.delivery = .pull → c.maxAge? = none)
      (hpulls : t.synchronizer.outlet.pulls = true) : t.synchronizer.Settled := by
    apply hrest
    apply hage
    rw [← hmode]
    exact eq_of_beq hpulls
  cases op with
  | receive => exact ⟨⟨rfl, t.synchronizer.intake_receive⟩, rfl⟩
  | tryNext =>
    obtain ⟨hintake, hturns⟩ := Synchronizer.intake_tryNext (hsettled hharmless) t.clock
    exact ⟨⟨rfl, hintake⟩, hturns⟩
  | next =>
    obtain ⟨hintake, hturns⟩ := Synchronizer.intake_next (hsettled hharmless) t.clock
    exact ⟨⟨rfl, hintake⟩, hturns⟩
  | close => cases hharmless
  | _ => cases hop

/-! ## Runs -/

/-- A run with consumers agrees with the run of its producers alone, also with one from another
session that agrees at the start. -/
theorem agree_run (h : create c clock = .ok t) (hstart : t.Agree t') {ops : List (Op α)}
    (hharmless : ∀ op ∈ ops, op.Harmless c) :
    (t.run ops).2.Agree (t'.run (ops.filter Op.drives)).2 ∧
      (t.history ops).turns.map Turn.resolution =
        (t'.history (ops.filter Op.drives)).turns.map Turn.resolution := by
  induction ops using List.reverseRecOn with
  | nil => exact ⟨hstart, rfl⟩
  | append_singleton ops op ih =>
    obtain ⟨hagree, hturns⟩ := ih fun op' hop' => hharmless op' (List.mem_append_left _ hop')
    have hlast := hharmless op (List.mem_append_right _ (.head _))
    rw [run_concat, history_concat, History.turns_append, List.map_append, List.filter_append]
    cases hop : op.drives
    case true =>
      obtain ⟨-, hafter, hturns'⟩ := hagree.step hop
      rw [List.filter_cons_of_pos hop, List.filter_nil, run_concat, history_concat,
        History.turns_append, List.map_append, hturns, hturns']
      exact ⟨hafter, rfl⟩
    case false =>
      obtain ⟨hafter, hnone⟩ :=
        agree_of_consumer hop hlast (mode_run h ops) fun hage => settled_run h hage ops
      rw [List.filter_cons_of_neg (by rw [hop]; exact Bool.false_ne_true), List.filter_nil,
        List.append_nil, hnone, List.map_nil, List.append_nil]
      exact ⟨hafter.trans hagree, hturns⟩

/-! ## What consumers obtain -/

/-- The bundles of the pulses that were resolved and not dropped, in order. -/
def resolved (t : Session α) (ops : List (Op α)) : List (Bundle α) :=
  ((t.history ops).turns.map Turn.bundle).filter t.synchronizer.wants

section Resolved

variable (h : create c clock = .ok t) (ops : List (Op α))

include h

theorem length_resolved :
    let final := (t.run ops).2.synchronizer
    (t.resolved ops).length =
      final.tally .complete + final.tally .incomplete + final.tally .queueFull := by
  obtain ⟨acts, hruns, hacts, hhanded⟩ := handed_run h ops
  dsimp only
  rw [hhanded.sum_wanted]
  unfold resolved
  rw [← hacts, ← List.countP_eq_length_filter, List.countP_map]
  apply List.countP_congr
  intro u hu
  rw [hruns.wanted_turn (new_of_create h).fresh hu]
  rfl

theorem toNat_sum :
    let counters := (t.run ops).2.synchronizer.counters
    counters.complete.toNat + counters.incomplete.toNat + counters.queueFull.toNat =
      (t.resolved ops).length := by
  rw [length_resolved h ops, ← toNat_get_of_turns h ops (by decide),
    ← toNat_get_of_turns h ops (by decide),
    ← toNat_get_of_turns h ops (by decide)]
  rfl

/-- Consumers obtain the resolved bundles in order, some of them perhaps not; they miss none if the
queue was never full. -/
theorem obtained_sublist (hopen : ∀ op ∈ ops, op ≠ .close) :
    let final := (t.run ops).2.synchronizer
    let bundles := (t.run ops).1.filterMap Response.bundle? ++ final.outlet.queue
    bundles.Sublist (t.resolved ops) ∧
      (final.counters.queueFull = 0 → bundles = t.resolved ops) := by
  intro final bundles
  obtain ⟨acts, hruns, hacts, hsound⟩ := sound_run h ops
  have hpart : bundles.Sublist (t.resolved ops) := by
    have hqueue := hsound.queue
    have hwants : final.wants = t.synchronizer.wants := by
      unfold Synchronizer.wants
      rw [hruns.frame.config]
    have htaken : Act.taken acts = (t.run ops).1.filterMap Response.bundle? := by
      rw [← obtained_history, ← hacts]
      rfl
    rw [htaken, hwants] at hqueue
    unfold resolved
    rw [← hacts]
    exact hqueue
  -- Without a refusal the part has as many bundles as the whole.
  refine ⟨hpart, fun hroom => hpart.eq_of_length ?_⟩
  have hthrown : t.gather thrownBy ops = [] := by
    apply gather_eq_nil
    intro op hop t'
    cases op with
    | close => exact absurd rfl (hopen .close hop)
    | _ => rfl
  have hnone : final.tally .queueFull = 0 := by
    rw [← toNat_get_of_turns h ops (by decide)]
    exact congrArg UInt64.toNat hroom
  obtain ⟨hentered, hdelivered, -⟩ := tally_bundles h ops
  rw [hthrown, List.append_nil] at hentered
  calc
    bundles.length = ((t.history ops).turns.filter Turn.accepted).length := by
      rw [← List.length_map Turn.bundle, hentered]
    _ = final.tally .complete + final.tally .incomplete := hdelivered.symm
    _ = (t.resolved ops).length := by rw [length_resolved h ops, hnone, Nat.add_zero]

end Resolved

/-! ## Two runs -/

theorem agree_of_create {mode : DeliveryMode} (h : create c clock = .ok t)
    (h' : create { c with delivery := mode } clock = .ok t') : t.Agree t' := by
  obtain ⟨faultless, rfl⟩ := eq_of_create h
  obtain ⟨faultless', rfl⟩ := eq_of_create h'
  exact ⟨rfl, rfl⟩

section Runs

variable {mode : DeliveryMode} (h : create c clock = .ok t)
  (h' : create { c with delivery := mode } clock = .ok t') {ops ops' : List (Op α)}
  (hharmless : ∀ op ∈ ops, op.Harmless c)
  (hharmless' : ∀ op ∈ ops', op.Harmless { c with delivery := mode })
  (hsame : ops.filter Op.drives = ops'.filter Op.drives)

include h h' hharmless hharmless' hsame

theorem agree_of_drives :
    (t.run ops).2.Agree (t'.run ops').2 ∧ t.resolved ops = t'.resolved ops' := by
  have hstart := agree_of_create h h'
  obtain ⟨hagree, hturns⟩ := agree_run h hstart hharmless
  obtain ⟨hagree', hturns'⟩ := agree_run h' ⟨rfl, rfl⟩ hharmless'
  rw [hsame] at hagree hturns
  refine ⟨hagree.trans hagree'.symm, ?_⟩
  have hwants : t.synchronizer.wants = t'.synchronizer.wants := by
    show t.synchronizer.intake.wants = t'.synchronizer.intake.wants
    rw [hstart.intake]
  have hbundles :
      (t.history ops).turns.map Turn.bundle = (t'.history ops').turns.map Turn.bundle := by
    have hresolutions := congrArg (List.map Resolution.bundle) (hturns.trans hturns'.symm)
    rwa [List.map_map, List.map_map] at hresolutions
  unfold resolved
  rw [hwants, hbundles]

theorem agree_of_common {before after before' after' : List (Op α)} {op op' : Op α}
    (hops : ops = before ++ op :: after) (hops' : ops' = before' ++ op' :: after')
    (hop : op.drives = true) (hop' : op'.drives = true)
    (hcount : (before.filter Op.drives).length = (before'.filter Op.drives).length) :
    ((t.run before).2.step op).1 = ((t'.run before').2.step op').1 ∧
      (t.run (before ++ [op])).2.Agree (t'.run (before' ++ [op'])).2 ∧
      t.resolved (before ++ [op]) = t'.resolved (before' ++ [op']) := by
  -- The operations before the common one are a common part too.
  have hsplit : before.filter Op.drives = before'.filter Op.drives ∧ op = op' := by
    rw [hops, hops', List.filter_append, List.filter_append, List.filter_cons_of_pos hop,
      List.filter_cons_of_pos hop'] at hsame
    obtain ⟨hbefore, hrest⟩ := List.append_inj hsame hcount
    exact ⟨hbefore, (List.cons.inj hrest).1⟩
  obtain ⟨hbefore, rfl⟩ := hsplit
  have hleft : ∀ o ∈ before ++ [op], o.Harmless c := by
    intro o ho
    apply hharmless
    rw [hops, List.append_cons]
    exact List.mem_append_left _ ho
  have hright : ∀ o ∈ before' ++ [op], o.Harmless { c with delivery := mode } := by
    intro o ho
    apply hharmless'
    rw [hops', List.append_cons]
    exact List.mem_append_left _ ho
  have hfront : (before ++ [op]).filter Op.drives = (before' ++ [op]).filter Op.drives := by
    rw [List.filter_append, List.filter_append, hbefore]
  obtain ⟨hagree, -⟩ := agree_of_drives h h' (fun o ho => hleft o (List.mem_append_left _ ho))
    (fun o ho => hright o (List.mem_append_left _ ho)) hbefore
  exact ⟨(hagree.step hop).1, agree_of_drives h h' hleft hright hfront⟩

/-- Consumers and the size of the queue do not influence the synchronization.  Take two runs without
close of configurations that differ in the delivery mode only, with the same operations of producers
and the clock, and any operations of consumers in between, pulls only where no limit of age is set.
After each common operation its response, the buffer, the boundary and all counters agree, those of
complete, incomplete and refused bundles in their sum.  The bundles that are obtained and those that
wait are in either run a part of the same list of resolved bundles, and all of it if the queue was
never full. -/
theorem independent_of_consumers :
    (∀ before op after before' op' after',
      ops = before ++ op :: after → ops' = before' ++ op' :: after' →
      op.drives = true → op'.drives = true →
      (before.filter Op.drives).length = (before'.filter Op.drives).length →
      let s := ((t.run before).2.step op).2.synchronizer
      let s' := ((t'.run before').2.step op').2.synchronizer
      ((t.run before).2.step op).1 = ((t'.run before').2.step op').1 ∧
        s.buffer = s'.buffer ∧ s.boundary? = s'.boundary? ∧
        s.counters.intake = s'.counters.intake ∧
        s.counters.complete.toNat + s.counters.incomplete.toNat + s.counters.queueFull.toNat =
          s'.counters.complete.toNat + s'.counters.incomplete.toNat +
            s'.counters.queueFull.toNat) ∧
    let bundles :=
      (t.run ops).1.filterMap Response.bundle? ++ (t.run ops).2.synchronizer.outlet.queue
    let bundles' :=
      (t'.run ops').1.filterMap Response.bundle? ++ (t'.run ops').2.synchronizer.outlet.queue
    t.resolved ops = t'.resolved ops' ∧
      (bundles.Sublist (t.resolved ops) ∧ bundles'.Sublist (t'.resolved ops')) ∧
      ((t.run ops).2.synchronizer.counters.queueFull = 0 → bundles = t.resolved ops) ∧
      ((t'.run ops').2.synchronizer.counters.queueFull = 0 → bundles' = t'.resolved ops') := by
  obtain ⟨hpart, hall⟩ := obtained_sublist h ops fun op hop => (hharmless op hop).ne_close
  obtain ⟨hpart', hall'⟩ := obtained_sublist h' ops' fun op hop => (hharmless' op hop).ne_close
  refine ⟨?_, (agree_of_drives h h' hharmless hharmless' hsame).2, ⟨hpart, hpart'⟩, hall, hall'⟩
  intro before op after before' op' after' hops hops' hop hop' hcount s s'
  obtain ⟨hresponse, hagree, hresolved⟩ :=
    agree_of_common h h' hharmless hharmless' hsame hops hops' hop hop' hcount
  -- The counters that may differ have equal sums: each counts all that was resolved and wanted.
  have hsum := toNat_sum h (before ++ [op])
  have hsum' := toNat_sum h' (before' ++ [op'])
  rw [run_concat] at hagree hsum
  rw [run_concat] at hagree hsum'
  have hintake : s.intake = s'.intake := hagree.intake
  refine ⟨hresponse, ?_, ?_, ?_, ?_⟩
  · rw [← Synchronizer.intake_buffer, hintake, Synchronizer.intake_buffer]
  · show s.intake.boundary? = s'.intake.boundary?
    rw [hintake]
  · exact congrArg Synchronizer.counters hintake
  · rw [← hresolved] at hsum'
    exact hsum.trans hsum'.symm

end Runs

/-- The same messages with a queue for one bundle, where the second is refused, and with consumers
that pull. -/
theorem independent_of_consumers_push_pull :
    ∃ t t' : Session Nat,
      create { channels := [⟨"a", 1, 0⟩], delivery := .push 1 } 0 = .ok t ∧
      create { channels := [⟨"a", 1, 0⟩], delivery := .pull } 0 = .ok t' ∧
        let ops : List (Op Nat) := [.add ⟨"a", 1, 10⟩, .add ⟨"a", 2, 20⟩, .tryNext]
        let ops' : List (Op Nat) := [.add ⟨"a", 1, 10⟩, .next, .add ⟨"a", 2, 20⟩]
        (t.run ops).2.synchronizer.counters.queueFull = 1 ∧
          (t.resolved ops).map (·.pulse) = [1, 2] ∧ t.resolved ops = t'.resolved ops' ∧
          (t'.run ops').1.filterMap Response.bundle? ++ (t'.run ops').2.synchronizer.outlet.queue =
            t'.resolved ops' := by
  refine ⟨_, _, rfl, rfl, ?_⟩
  intro ops ops'
  have h : create (α := Nat) { channels := [⟨"a", 1, 0⟩], delivery := .push 1 } 0 = .ok _ := rfl
  have h' : create (α := Nat) { channels := [⟨"a", 1, 0⟩], delivery := .pull } 0 = .ok _ := rfl
  have hharmless : ∀ op ∈ ops,
      op.Harmless { channels := [⟨"a", 1, 0⟩], delivery := .push 1 } := by
    simp [ops, Op.Harmless]
  have hharmless' : ∀ op ∈ ops', op.Harmless { channels := [⟨"a", 1, 0⟩], delivery := .pull } := by
    simp [ops', Op.Harmless]
  obtain ⟨-, hresolved, -, -, hall⟩ := independent_of_consumers h h' hharmless hharmless' rfl
  exact ⟨rfl, rfl, hresolved, hall rfl⟩

end Session

end PulseJoin
