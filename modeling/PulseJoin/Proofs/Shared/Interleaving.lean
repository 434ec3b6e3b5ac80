import PulseJoin.Proofs.Session.History
import PulseJoin.Proofs.Shared.Sections
import PulseJoin.Proofs.Synchronizer.Turns
import PulseJoin.Proofs.Synchronizer.Waiting

/-!
# Interleaved calls keep the guarantees

However the sections of concurrent calls fall between each other, pulses are resolved and enter the
queue in ascending order, and none is buffered that the boundary has passed (`Ordered`).  And no
arrival is forgotten: after the last arrival a look at the buffer is still to come, so once no call
is in progress the last look has found nothing that may leave (`Watched`).
-/

namespace PulseJoin

universe u v

variable {ι : Type v} {α : Type u}

namespace Shared

variable {w w' : Shared ι α} {xs : List (Section ι α)} {x : Section ι α}

/-! ## Order -/

/-- What holds between any two sections. -/
structure Ordered (w : Shared ι α) : Prop where
  opened : w.synchronizer.closed = false
  held : Held w.arrivals w.synchronizer.buffer w.synchronizer.marks.boundary
  ascending : w.resolved.Pairwise fun b b' => b.pulse < b'.pulse
  passed : ∀ b ∈ w.resolved, b.pulse ≤ w.synchronizer.marks.boundary
  /-- Only one thread is in a pass. -/
  exclusive : ∀ i, (w.stage i).holds = true → w.holder = some i
  settled : w.entered.Sublist w.resolved
  /-- The bundle that is about to be handed over is the next one to enter the queue. -/
  settling : ∀ i r, w.stage i = .settling r → (w.entered ++ [r.bundle]).Sublist w.resolved
  queue : w.entered = w.taken ++ w.synchronizer.outlet.queue

namespace Ordered

theorem of_fresh {s : Synchronizer α} (h : s.Fresh) :
    Ordered ({ synchronizer := s } : Shared ι α) where
  opened := h.closed
  held := by
    show Held [] s.buffer _
    rw [h.buffer]
    exact .empty
  ascending := .nil
  passed := nofun
  exclusive := nofun
  settled := .slnil
  settling := nofun
  queue := h.queue.symm

theorem not_holds (h : Ordered w) {i j : ι} (hi : (w.stage i).holds = true) (hj : j ≠ i) :
    (w.stage j).holds = false := by
  rw [← Bool.not_eq_true]
  intro hboth
  have hsame := (h.exclusive i hi).symm.trans (h.exclusive j hboth)
  exact hj (Option.some_inj.1 hsame).symm

theorem take (h : Ordered w) {b : Bundle α}
    (hhead : w.synchronizer.outlet.queue.head? = some b) :
    Ordered { w with
      synchronizer := { w.synchronizer with outlet := w.synchronizer.outlet.drop }
      taken := w.taken ++ [b] } := by
  obtain ⟨rest, hrest⟩ := List.head?_eq_some_iff.1 hhead
  refine { h with queue := ?_ }
  show w.entered = w.taken ++ [b] ++ w.synchronizer.outlet.queue.tail
  rw [h.queue, hrest, List.append_assoc]
  rfl

end Ordered

variable [DecidableEq ι]

theorem put_stage (w : Shared ι α) (i j : ι) (stage : Stage α) (s : Synchronizer α) :
    (w.put i stage s).stage j = if j = i then stage else w.stage j := Function.update_apply ..

namespace Ordered

theorem put (h : Ordered w) {i : ι} {stage : Stage α} {s : Synchronizer α}
    (hsteady : w.synchronizer.Steady s) (hstage : stage.holds = false) :
    Ordered (w.put i stage s) where
  opened := hsteady.closed.trans h.opened
  held := by
    show Held w.arrivals s.buffer s.marks.boundary
    rw [hsteady.buffer, hsteady.marks]
    exact h.held
  ascending := h.ascending
  passed := by
    show ∀ b ∈ w.resolved, b.pulse ≤ s.marks.boundary
    rw [hsteady.marks]
    exact h.passed
  exclusive j hj := by
    rw [put_stage] at hj
    split at hj
    · rw [hstage] at hj
      cases hj
    · exact h.exclusive j hj
  settled := h.settled
  settling j r hj := by
    rw [put_stage] at hj
    split at hj
    · rw [hj] at hstage
      cases hstage
    · exact h.settling j r hj
  queue := by
    show w.entered = w.taken ++ s.outlet.queue
    rw [hsteady.outlet]
    exact h.queue

theorem exclusive_update (h : Ordered w) {i : ι} {stage : Stage α}
    (hholds : (w.stage i).holds = true) (j : ι)
    (hj : (Function.update w.stage i stage j).holds = true) : w.holder = some j := by
  rw [Function.update_apply] at hj
  split at hj
  next hself =>
    rw [hself]
    exact h.exclusive i hholds
  next => exact h.exclusive j hj

theorem settling_update (h : Ordered w) {i j : ι} {stage : Stage α} {r : Resolution α}
    (hholds : (w.stage i).holds = true) (hj : Function.update w.stage i stage j = .settling r) :
    stage = .settling r := by
  rw [Function.update_apply] at hj
  split at hj
  · exact hj
  next hother =>
    have hfree := h.not_holds hholds hother
    rw [hj] at hfree
    cases hfree

theorem insert (h : Ordered w) {i : ι} {m : Message α} (now : UInt64)
    (hrefusal : w.synchronizer.refusal? m = none) :
    Ordered { w.put i .queuing (w.synchronizer.accept now m) with
      arrivals := w.arrivals ++ [⟨now, m⟩] } := by
  have hwelcome : w.synchronizer.Welcomes m := Synchronizer.refusal?_eq_none_iff.1 hrefusal
  have hadmitted := w.synchronizer.admitted_accept ⟨now, m⟩
  have hrise : w.synchronizer.marks.boundary ≤ (w.synchronizer.accept now m).marks.boundary :=
    (Synchronizer.Acts.accept (a := ⟨now, m⟩) hwelcome).boundary_le
  have hput : Ordered (w.put i .queuing w.synchronizer) := h.put (.refl _) rfl
  exact {
    opened := hadmitted.closed.trans h.opened
    held := Synchronizer.held_accept h.held (a := ⟨now, m⟩) hwelcome
    ascending := h.ascending
    passed := fun b hb => Int64.le_trans (h.passed b hb) hrise
    exclusive := hput.exclusive
    settled := h.settled
    settling := hput.settling
    queue := by
      show w.entered = w.taken ++ (w.synchronizer.accept now m).outlet.queue
      rw [hadmitted.outlet]
      exact h.queue }

theorem enter (h : Ordered w) {i : ι} (hfree : w.holder = none) :
    Ordered { w.put i .passing w.synchronizer with holder := some i } where
  opened := h.opened
  held := h.held
  ascending := h.ascending
  passed := h.passed
  exclusive j hj := by
    change ((w.put i .passing w.synchronizer).stage j).holds = true at hj
    rw [put_stage] at hj
    split at hj
    next hself => rw [hself]
    next =>
      have hheld := h.exclusive j hj
      rw [hfree] at hheld
      cases hheld
  settled := h.settled
  settling j r hj := by
    change (w.put i .passing w.synchronizer).stage j = .settling r at hj
    rw [put_stage] at hj
    split at hj
    · cases hj
    · exact h.settling j r hj
  queue := h.queue

theorem rest (h : Ordered w) {i : ι} {s : Synchronizer α} (hsteady : w.synchronizer.Steady s)
    (hstage : w.stage i = .passing) : Ordered { w.put i .idle s with holder := none } := by
  have hput : Ordered (w.put i .idle s) := h.put hsteady rfl
  refine { hput with exclusive := fun j hj => ?_ }
  change ((w.put i .idle s).stage j).holds = true at hj
  rw [put_stage] at hj
  split at hj
  · cases hj
  next hother =>
    rw [h.not_holds (by rw [hstage]; rfl) hother] at hj
    cases hj

theorem resolve (h : Ordered w) {i : ι} {now : UInt64} {r : Resolution α} {s : Synchronizer α}
    (hstage : w.stage i = .passing)
    (hlook : w.synchronizer.resolveOldest now = (some r, s)) :
    Ordered { w.put i (.settling r) s with resolved := w.resolved ++ [r.bundle] } := by
  obtain ⟨v, hfirst, -, -, rfl⟩ := Synchronizer.resolveOldest_eq_some hlook
  obtain ⟨hpast, hmarks⟩ := Synchronizer.marks_remove h.held hfirst
  have hboundary : (w.synchronizer.remove r.bundle.pulse).marks.boundary = r.bundle.pulse :=
    congrArg Watermarks.boundary hmarks
  have hholds : (w.stage i).holds = true := by
    rw [hstage]
    rfl
  constructor
  case opened => exact h.opened
  case held => exact Synchronizer.held_remove h.held hfirst
  case ascending =>
    refine List.pairwise_append.2 ⟨h.ascending, List.pairwise_singleton _ _, ?_⟩
    intro b hb b' hb'
    rw [List.mem_singleton.1 hb']
    exact Int64.lt_of_le_of_lt (h.passed b hb) hpast
  case passed =>
    intro b hb
    show b.pulse ≤ (w.synchronizer.remove r.bundle.pulse).marks.boundary
    rw [hboundary]
    rcases List.mem_append.1 hb with hold | hnew
    · exact Int64.le_of_lt (Int64.lt_of_le_of_lt (h.passed b hold) hpast)
    · rw [List.mem_singleton.1 hnew]
      exact Int64.le_refl _
  case exclusive => exact h.exclusive_update hholds
  case settled => exact h.settled.trans (List.sublist_append_left _ _)
  case settling =>
    -- No other thread is in a pass, so the bundle to be handed over is this one.
    intro j r' hj
    cases h.settling_update hholds hj
    exact h.settled.append (List.Sublist.refl _)
  case queue => exact h.queue

theorem settle (h : Ordered w) {i : ι} {r : Resolution α} (hstage : w.stage i = .settling r) :
    Ordered { w.put i .passing (w.synchronizer.settle r) with
      entered := w.entered ++ if w.synchronizer.accepts r.bundle then [r.bundle] else [] } := by
  obtain ⟨halike, hclosed⟩ := w.synchronizer.settle_alike r
  have hholds : (w.stage i).holds = true := by
    rw [hstage]
    rfl
  constructor
  case opened => exact hclosed.trans h.opened
  case held =>
    show Held w.arrivals (w.synchronizer.settle r).buffer (w.synchronizer.settle r).marks.boundary
    rw [halike.buffer, halike.marks]
    exact h.held
  case ascending => exact h.ascending
  case passed =>
    show ∀ b ∈ w.resolved, b.pulse ≤ (w.synchronizer.settle r).marks.boundary
    rw [halike.marks]
    exact h.passed
  case exclusive => exact h.exclusive_update hholds
  case settled =>
    show (w.entered ++ _).Sublist w.resolved
    split
    · exact h.settling i r hstage
    · rw [List.append_nil]
      exact h.settled
  case settling =>
    intro j r' hj
    cases h.settling_update hholds hj
  case queue =>
    show w.entered ++ _ = w.taken ++ (w.synchronizer.settle r).outlet.queue
    rw [Synchronizer.settle_queue, h.queue, List.append_assoc]

end Ordered

theorem Moves.ordered (h : Moves w x w') (hbefore : w.Ordered) : w'.Ordered := by
  cases h with
  | offer => exact hbefore.put (.note _ _) rfl
  | refuse => exact hbefore.put (.note _ _) rfl
  | insert hstage hrefusal => exact hbefore.insert _ hrefusal
  | evict => exact hbefore.put (.refl _) rfl
  | enter hstage hfree => exact hbefore.enter hfree
  | rest hstage hlook => exact hbefore.rest (Synchronizer.steady_look hlook) hstage
  | resolve hstage hlook => exact hbefore.resolve hstage hlook
  | settle hstage => exact hbefore.settle hstage
  | take hhead => exact hbefore.take hhead

theorem Runs.ordered (h : Runs w xs w') (hstart : w.Ordered) : w'.Ordered := by
  induction h with
  | refl => exact hstart
  | step move _ ih => exact ih (move.ordered hstart)

/-! ## No arrival is forgotten -/

/-- A thread is still to look at the buffer, or no pulse may leave it. -/
def Watched (now : UInt64) (w : Shared ι α) : Prop :=
  (∃ i, (w.stage i).looks = true) ∨ (w.synchronizer.resolveOldest now).1 = none

namespace Watched

variable {now : UInt64} {i : ι} {stage : Stage α} {s : Synchronizer α}

theorem of_stage {before : ι → Stage α} (hstage : w.stage = Function.update before i stage)
    (hlooks : stage.looks = true) : Watched now w := by
  refine .inl ⟨i, ?_⟩
  rw [hstage, Function.update_self]
  exact hlooks

theorem put (h : Watched now w) (hstage : (w.stage i).looks = false)
    (halike : w.synchronizer.Alike s) : Watched now (w.put i stage s) := by
  rcases h with ⟨j, hj⟩ | hnone
  · refine .inl ⟨j, ?_⟩
    have hother : j ≠ i := by
      intro hself
      rw [hself, hstage] at hj
      cases hj
    rw [put_stage, if_neg hother]
    exact hj
  · right
    show (s.resolveOldest now).1 = none
    rw [halike.resolveOldest_eq, hnone]

end Watched

theorem Moves.watched {now : UInt64} (h : Moves w x w')
    (hclock : ∀ reading, x.reading? = some reading → reading = now)
    (hbefore : w.Watched now) : w'.Watched now := by
  cases h with
  | offer hstage => exact hbefore.put (by rw [hstage]; rfl) (Synchronizer.Steady.note _ _).toAlike
  | refuse hstage => exact hbefore.put (by rw [hstage]; rfl) (Synchronizer.Steady.note _ _).toAlike
  | insert | evict | enter | resolve | settle => exact .of_stage rfl rfl
  | rest hstage hlook =>
    -- By its own look nothing may leave.
    right
    have halike := (Synchronizer.steady_look hlook).toAlike
    rw [hclock _ rfl] at hlook
    refine (halike.resolveOldest_eq now).trans ?_
    rw [hlook]
  | take =>
    rcases hbefore with hlooks | hnone
    · exact .inl hlooks
    · right
      have halike : w.synchronizer.Alike
          { w.synchronizer with outlet := w.synchronizer.outlet.drop } := ⟨rfl, rfl, rfl, rfl⟩
      exact (halike.resolveOldest_eq now).trans hnone

theorem Runs.watched {now : UInt64} (h : Runs w xs w')
    (hclock : ∀ x ∈ xs, ∀ reading, x.reading? = some reading → reading = now)
    (hstart : w.Watched now) : w'.Watched now := by
  induction h with
  | refl => exact hstart
  | step move _ ih =>
    rw [List.forall_mem_cons] at hclock
    exact ih hclock.2 (move.watched hclock.1 hstart)

theorem Moves.config (h : Moves w x w') : w'.synchronizer.config = w.synchronizer.config := by
  cases h with
  | insert => exact (w.synchronizer.admitted_accept ⟨_, _⟩).config
  | rest hstage hlook => exact (Synchronizer.steady_look hlook).config
  | resolve hstage hlook =>
    obtain ⟨v, -, -, -, rfl⟩ := Synchronizer.resolveOldest_eq_some hlook
    rfl
  | settle => exact (w.synchronizer.settle_alike _).1.config
  | _ => rfl

theorem Runs.config (h : Runs w xs w') : w'.synchronizer.config = w.synchronizer.config := by
  induction h with
  | refl => rfl
  | step move _ ih => exact ih.trans move.config

/-! ## The guarantees -/

variable {c : Config} {clock : UInt64} {t : Session α}

/-- Threads share a synchronizer that was created for a configuration and is not closed.  However
the sections of their calls are interleaved, pulses are resolved in strictly ascending order,
bundles enter the queue in that order, and no buffered pulse is at or below the boundary.  If the
clock has stood still, then whenever no call is in progress the buffer is within its limit and a
further pass resolves nothing. -/
theorem interleaving_keeps (h : Session.create c clock = .ok t)
    (hruns : Runs ({ synchronizer := t.synchronizer } : Shared ι α) xs w) :
    w.resolved.Pairwise (fun b b' => b.pulse < b'.pulse) ∧
    (w.entered.Sublist w.resolved ∧ w.entered = w.taken ++ w.synchronizer.outlet.queue) ∧
    (∀ p ∈ w.synchronizer.buffer.keys, w.synchronizer.marks.boundary < p) ∧
    ∀ now, (∀ x ∈ xs, ∀ reading, x.reading? = some reading → reading = now) →
      (∀ i, w.stage i = .idle) →
      w.synchronizer.buffer.size ≤ c.maxBuffered.toNat ∧
        (w.synchronizer.evictExpired now).1 = 0 := by
  have hnew := Session.new_of_create h
  have hordered := hruns.ordered (Ordered.of_fresh hnew.fresh)
  refine ⟨hordered.ascending, ⟨hordered.settled, hordered.queue⟩, ?_, ?_⟩
  · intro p hp
    obtain ⟨e, he, rfl⟩ := List.mem_map.1 hp
    exact hordered.held.above e he
  · intro now hclock hidle
    have hstart : Watched now ({ synchronizer := t.synchronizer } : Shared ι α) := by
      right
      rw [Synchronizer.resolveOldest_fst, hnew.fresh.buffer]
      rfl
    -- No thread is still to look at the buffer, so the last look found nothing that may leave.
    have hnone : (w.synchronizer.resolveOldest now).1 = none := by
      refine (hruns.watched hclock hstart).resolve_left fun ⟨i, hi⟩ => ?_
      rw [hidle i] at hi
      cases hi
    constructor
    · have hsize := Synchronizer.AtRest.size_le ⟨now, hnone⟩
      rwa [hruns.config, show t.synchronizer.config = c from hnew.config] at hsize
    · unfold Synchronizer.evictExpired
      rw [hordered.opened, Synchronizer.resolve_of_rest hnone]
      rfl

/-- The second thread brings pulse 2 in after the first has taken pulse 1 out and before it hands it
over.  Then both find that pulse 2 has to wait. -/
theorem interleaving_keeps_insert_in_pass :
    ∃ t : Session Nat,
      Session.create { channels := [⟨"a", 1, 0⟩, ⟨"b", 2, 0⟩] } 0 = .ok t ∧
      let start : Shared Bool Nat := { synchronizer := t.synchronizer }
      let sections : List (Section Bool Nat) :=
        [.offer false ⟨"a", 1, 10⟩, .insert false 5, .enter false, .resolve false 5,
          .offer true ⟨"a", 2, 20⟩, .insert true 5, .settle false, .resolve false 5, .enter true,
          .resolve true 5]
      ∃ w, Runs start sections w ∧
        w.resolved.Pairwise (fun b b' => b.pulse < b'.pulse) ∧
        (w.entered.map (·.pulse) = [1] ∧ w.entered.Sublist w.resolved) ∧
        (w.synchronizer.buffer.keys = [2] ∧ w.synchronizer.marks.boundary < 2) ∧
        w.synchronizer.buffer.size ≤ 100 ∧ (w.synchronizer.evictExpired 5).1 = 0 := by
  have h : Session.create (α := Nat) { channels := [⟨"a", 1, 0⟩, ⟨"b", 2, 0⟩] } 0 = .ok _ := rfl
  refine ⟨_, h, ?_⟩
  intro start sections
  have hruns : Runs start sections _ :=
    .step (.offer rfl) <| .step (.insert rfl rfl) <| .step (.enter rfl rfl) <|
    .step (.resolve rfl rfl) <| .step (.offer rfl) <| .step (.insert rfl rfl) <|
    .step (.settle rfl) <| .step (.rest rfl rfl) <| .step (.enter rfl rfl) <|
    .step (.rest rfl rfl) .refl
  obtain ⟨hascending, ⟨hentered, -⟩, hpast, hstill⟩ := interleaving_keeps h hruns
  obtain ⟨hsize, hpass⟩ := hstill 5 (by simp [sections, Section.reading?])
    (Bool.forall_bool.2 ⟨rfl, rfl⟩)
  exact ⟨_, hruns, hascending, ⟨rfl, hentered⟩, ⟨rfl, hpast 2 (.head _)⟩, hsize, hpass⟩

end Shared

end PulseJoin
