import PulseJoin.Proofs.Synchronizer.Handover
import PulseJoin.Proofs.Synchronizer.Settled

/-!
# Concurrent calls

Threads that share a synchronizer do not exclude each other for the length of a call.  An `add`
takes its message in under the lock of the buffer and lets go of it; then comes a pass, for which it
needs the lock of passes: it looks at the oldest pulse, takes it out if it may leave, hands its
bundle over and looks again, until it finds none that may leave.  An `evictExpired` is such a pass.
Between any two of these sections those of other threads may fall; only two passes exclude each
other.

`Shared` is a synchronizer with its threads, `Moves` one section of one of them.  A call that
nothing falls into is the operation of the synchronizer (`completes_add`, `completes_evictExpired`).
-/

namespace PulseJoin

universe u v

variable {ι : Type v} {α : Type u}

/-- How far the call of a thread has come. -/
inductive Stage (α : Type u) where
  | idle
  /-- The message is counted as received and not yet taken in. -/
  | offering (m : Message α)
  /-- The pass waits for the lock of passes. -/
  | queuing
  | passing
  /-- A pulse is out of the buffer, and its bundle not yet handed over. -/
  | settling (r : Resolution α)

namespace Stage

/-- Whether a thread at this stage holds the lock of passes. -/
def holds : Stage α → Bool
  | .passing | .settling _ => true
  | _ => false

/-- Whether a thread at this stage will look at the oldest pulse before its call ends. -/
def looks : Stage α → Bool
  | .queuing | .passing | .settling _ => true
  | _ => false

end Stage

/-- One section of a call, with the reading of the clock that it uses; or a consumer takes a bundle
from the queue. -/
inductive Section (ι : Type v) (α : Type u) where
  | offer (i : ι) (m : Message α)
  | insert (i : ι) (now : UInt64)
  | evict (i : ι)
  | enter (i : ι)
  | resolve (i : ι) (now : UInt64)
  | settle (i : ι)
  | take

namespace Section

def reading? : Section ι α → Option UInt64
  | .insert _ now | .resolve _ now => some now
  | _ => none

/-- The thread whose call a section belongs to; consumers take bundles without one. -/
def thread? : Section ι α → Option ι
  | .offer i _ | .insert i _ | .evict i | .enter i | .resolve i _ | .settle i => some i
  | .take => none

end Section

/-- A synchronizer that threads share, where each of them stands, and what happened so far. -/
structure Shared (ι : Type v) (α : Type u) where
  synchronizer : Synchronizer α
  stage : ι → Stage α := fun _ => .idle
  /-- The thread that holds the lock of passes. -/
  holder : Option ι := none
  /-- The messages taken in. -/
  arrivals : List (Arrival α) := []
  /-- The bundles taken out of the buffer. -/
  resolved : List (Bundle α) := []
  /-- The bundles that entered the queue. -/
  entered : List (Bundle α) := []
  /-- The bundles that consumers took from the queue. -/
  taken : List (Bundle α) := []

namespace Shared

variable [DecidableEq ι]

/-- Thread `i` comes to a stage and leaves the synchronizer as `s`. -/
def put (w : Shared ι α) (i : ι) (stage : Stage α) (s : Synchronizer α) : Shared ι α :=
  { w with synchronizer := s, stage := Function.update w.stage i stage }

variable {w w' : Shared ι α} {x : Section ι α}

/-- One section.  The locks show in the stages: the lock of the buffer is held for one section, so
no other falls into it, and that of passes from `enter` to the look that finds nothing. -/
inductive Moves : Shared ι α → Section ι α → Shared ι α → Prop
  | offer {w : Shared ι α} {i : ι} {m : Message α} (hstage : w.stage i = .idle) :
      Moves w (.offer i m) (w.put i (.offering m) (w.synchronizer.note .received))
  | refuse {w : Shared ι α} {i : ι} {m : Message α} {now : UInt64} {o : Outcome} {e : Event}
      (hstage : w.stage i = .offering m) (hrefusal : w.synchronizer.refusal? m = some (o, e)) :
      Moves w (.insert i now) (w.put i .idle (w.synchronizer.note e))
  | insert {w : Shared ι α} {i : ι} {m : Message α} {now : UInt64}
      (hstage : w.stage i = .offering m) (hrefusal : w.synchronizer.refusal? m = none) :
      Moves w (.insert i now)
        { w.put i .queuing (w.synchronizer.accept now m) with
          arrivals := w.arrivals ++ [⟨now, m⟩] }
  | evict {w : Shared ι α} {i : ι} (hstage : w.stage i = .idle) :
      Moves w (.evict i) (w.put i .queuing w.synchronizer)
  | enter {w : Shared ι α} {i : ι} (hstage : w.stage i = .queuing) (hfree : w.holder = none) :
      Moves w (.enter i) { w.put i .passing w.synchronizer with holder := some i }
  | rest {w : Shared ι α} {i : ι} {now : UInt64} {s : Synchronizer α}
      (hstage : w.stage i = .passing) (hlook : w.synchronizer.resolveOldest now = (none, s)) :
      Moves w (.resolve i now) { w.put i .idle s with holder := none }
  | resolve {w : Shared ι α} {i : ι} {now : UInt64} {r : Resolution α} {s : Synchronizer α}
      (hstage : w.stage i = .passing) (hlook : w.synchronizer.resolveOldest now = (some r, s)) :
      Moves w (.resolve i now)
        { w.put i (.settling r) s with resolved := w.resolved ++ [r.bundle] }
  | settle {w : Shared ι α} {i : ι} {r : Resolution α} (hstage : w.stage i = .settling r) :
      Moves w (.settle i)
        { w.put i .passing (w.synchronizer.settle r) with
          entered := w.entered ++ if w.synchronizer.accepts r.bundle then [r.bundle] else [] }
  | take {w : Shared ι α} {b : Bundle α} (hhead : w.synchronizer.outlet.queue.head? = some b) :
      Moves w .take
        { w with
          synchronizer := { w.synchronizer with outlet := w.synchronizer.outlet.drop }
          taken := w.taken ++ [b] }

inductive Runs : Shared ι α → List (Section ι α) → Shared ι α → Prop
  | refl {w : Shared ι α} : Runs w [] w
  | step {w w' w'' : Shared ι α} {x : Section ι α} {xs : List (Section ι α)}
      (move : Moves w x w') (run : Runs w' xs w'') : Runs w (x :: xs) w''

/-! ## Calls that nothing falls into -/

theorem put_stage_self (w : Shared ι α) (i : ι) (stage : Stage α) (s : Synchronizer α) :
    (w.put i stage s).stage i = stage := Function.update_self ..

/-- Sections of thread `i` alone lead from `w` to the end of its call: no stage but its own has
changed, the lock of passes is free, and the synchronizer is `s`. -/
def Completes (w : Shared ι α) (i : ι) (s : Synchronizer α) : Prop :=
  ∃ xs w', Runs w xs w' ∧ (∀ x ∈ xs, x.thread? = some i) ∧
    w'.stage = Function.update w.stage i .idle ∧ w'.holder = none ∧ w'.synchronizer = s

namespace Completes

variable {i : ι} {s : Synchronizer α}

theorem of_move (h : Moves w x w') (hthread : x.thread? = some i)
    (hstage : w'.stage = Function.update w.stage i .idle) (hfree : w'.holder = none)
    (hs : w'.synchronizer = s) : w.Completes i s := by
  refine ⟨[x], w', .step h .refl, fun y hy => ?_, hstage, hfree, hs⟩
  rw [List.mem_singleton.1 hy, hthread]

theorem cons {stage : Stage α} (h : Moves w x w') (hthread : x.thread? = some i)
    (hstage : w'.stage = Function.update w.stage i stage) (hrest : w'.Completes i s) :
    w.Completes i s := by
  obtain ⟨xs, w'', hruns, hthreads, hidle, hfree, hs⟩ := hrest
  refine ⟨x :: xs, w'', .step h hruns, List.forall_mem_cons.2 ⟨hthread, hthreads⟩, ?_, hfree, hs⟩
  rw [hidle, hstage, Function.update_idem]

end Completes

/-- A pass goes on until it finds nothing, and the number of buffered pulses bounds it. -/
theorem completes_pass {i : ι} (now : UInt64) (limit : Nat) (hstage : w.stage i = .passing)
    (hlimit : w.synchronizer.buffer.size ≤ limit) :
    w.Completes i (Synchronizer.resolveUpTo now limit w.synchronizer).2 := by
  induction limit generalizing w with
  | zero =>
    have hempty : w.synchronizer.buffer.first? = none :=
      SortedMap.first?_eq_none_iff.2 (List.length_eq_zero_iff.1 (Nat.le_zero.1 hlimit))
    have hlook : w.synchronizer.resolveOldest now = (none, w.synchronizer) := by
      unfold Synchronizer.resolveOldest
      rw [hempty]
    have hrest := Moves.rest hstage hlook
    exact .of_move hrest rfl rfl rfl rfl
  | succ limit ih =>
    unfold Synchronizer.resolveUpTo
    rcases hlook : w.synchronizer.resolveOldest now with ⟨_ | r, s⟩
    · have hrest := Moves.rest hstage hlook
      exact .of_move hrest rfl rfl rfl rfl
    · have hsettling := w.put_stage_self i (.settling r) s
      have hsize := Synchronizer.size_resolved hlook
      have hresolve := Moves.resolve hstage hlook
      have hsettle := Moves.settle
        (w := { w.put i (.settling r) s with resolved := w.resolved ++ [r.bundle] }) hsettling
      refine .cons hresolve rfl rfl (.cons hsettle rfl rfl ?_)
      refine ih (Function.update_self ..) ?_
      show (s.settle r).buffer.size ≤ limit
      omega

theorem completes_queuing {i : ι} (now : UInt64) (hstage : w.stage i = .queuing)
    (hfree : w.holder = none) : w.Completes i (w.synchronizer.resolve now).2 := by
  have henter := Moves.enter hstage hfree
  refine .cons henter rfl rfl (completes_pass now _ ?_ (Nat.le_refl _))
  exact Function.update_self ..

/-- An `evictExpired` that nothing falls into is the operation of the synchronizer. -/
theorem completes_evictExpired {i : ι} (now : UInt64) (hstage : w.stage i = .idle)
    (hfree : w.holder = none) (hopen : w.synchronizer.closed = false) :
    w.Completes i (w.synchronizer.evictExpired now).2 := by
  unfold Synchronizer.evictExpired
  rw [hopen]
  have hevict := Moves.evict hstage
  exact .cons hevict rfl rfl (completes_queuing now (Function.update_self ..) hfree)

/-- An `add` that nothing falls into is the operation of the synchronizer. -/
theorem completes_add {i : ι} (now : UInt64) (m : Message α) (hstage : w.stage i = .idle)
    (hfree : w.holder = none) : w.Completes i (w.synchronizer.add now m).2 := by
  have hoffer := Moves.offer (m := m) hstage
  have hoffering := w.put_stage_self i (.offering m) (w.synchronizer.note .received)
  refine .cons hoffer rfl rfl ?_
  rw [Synchronizer.add_eq]
  rcases hrefusal : w.synchronizer.refusal? m with _ | ⟨o, e⟩
  · have hinsert : Moves _ (.insert i now) _ := .insert hoffering hrefusal
    refine .cons hinsert rfl rfl (completes_queuing now ?_ hfree)
    exact Function.update_self ..
  · have hrefuse : Moves _ (.insert i now) _ := .refuse hoffering hrefusal
    exact .of_move hrefuse rfl rfl hfree rfl

end Shared

end PulseJoin
