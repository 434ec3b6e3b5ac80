import PulseJoin.Proofs.Session.History
import PulseJoin.Proofs.Synchronizer.Settled

/-!
# Sessions at rest

Between two operations no pulse is left in the buffer that could have left it in the last pass.
-/

namespace PulseJoin.Session

universe u

variable {α : Type u} {c : Config} {clock : UInt64} {t : Session α}

theorem atRest_step (h : t.synchronizer.AtRest) (op : Op α) :
    (t.step op).2.synchronizer.AtRest := by
  cases op with
  | add m => exact Synchronizer.atRest_add h m
  | evictExpired => exact Synchronizer.atRest_evictExpired h t.clock
  | tryNext =>
    show (t.synchronizer.tryNext t.clock).2.AtRest
    rw [Synchronizer.tryNext_eq]
    split
    · exact (Synchronizer.atRest_evictExpired h t.clock).of_alike (Synchronizer.alike_pop _)
    · exact h.of_alike t.synchronizer.alike_receive
  | next =>
    show (t.synchronizer.next t.clock).2.AtRest
    unfold Synchronizer.next
    split
    · exact Synchronizer.atRest_pullWithin h _
    · exact h.of_alike ⟨rfl, rfl, rfl, rfl⟩
  | receive => exact h.of_alike t.synchronizer.alike_receive
  | close =>
    show t.synchronizer.close.AtRest
    unfold Synchronizer.close
    split
    · exact h
    · exact h.of_alike ⟨rfl, rfl, rfl, rfl⟩
  | setClock ms => exact h
  | advanceClock ms => exact h

/-- Every operation goes on until the oldest pulse has to wait. -/
theorem atRest_run (h : create c clock = .ok t) (ops : List (Op α)) :
    (t.run ops).2.synchronizer.AtRest := by
  induction ops using List.reverseRecOn with
  | nil => exact Synchronizer.atRest_of_empty (new_of_create h).fresh.buffer
  | append_singleton ops op ih =>
    rw [run_concat]
    exact atRest_step ih op

/-- Without a limit of age, no operation leaves a pulse in the buffer that may leave it. -/
theorem settled_run (h : create c clock = .ok t) (hage : c.maxAge? = none) (ops : List (Op α)) :
    (t.run ops).2.synchronizer.Settled := by
  apply (atRest_run h ops).settled
  rw [config_run h, hage]

end PulseJoin.Session
