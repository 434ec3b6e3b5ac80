import PulseJoin.Proofs.Synchronizer.Journal

/-!
# Counters and the journal

Each counter is the sum of what the events in the journal add to it, modulo `2 ^ 64`.  The sums
themselves are natural numbers; each action adds to few of them.
-/

namespace PulseJoin

universe u

variable {α : Type u}

inductive Tally where
  | received | buffered | stale | unknownChannel | offSchedule | duplicates | complete | incomplete
  | evicted | startupDiscarded | queueFull
  deriving DecidableEq

namespace Tally

/-- What messages add to, whatever becomes of them. -/
def ofRemarks : List Tally := [.received, .stale, .unknownChannel, .offSchedule]

/-- What admissions add to. -/
def ofAdmissions : List Tally := [.buffered, .duplicates, .startupDiscarded]

/-- What resolutions add to. -/
def ofResolutions : List Tally := [.complete, .incomplete, .queueFull, .evicted]

end Tally

def Counters.get (c : Counters) : Tally → UInt64
  | .received => c.received
  | .buffered => c.buffered
  | .stale => c.stale
  | .unknownChannel => c.unknownChannel
  | .offSchedule => c.offSchedule
  | .duplicates => c.duplicates
  | .complete => c.complete
  | .incomplete => c.incomplete
  | .evicted => c.evicted
  | .startupDiscarded => c.startupDiscarded
  | .queueFull => c.queueFull

def Event.adds : Event → Tally → Nat
  | .received, .received => 1
  | .buffered, .buffered => 1
  | .stale .., .stale => 1
  | .unknownChannel .., .unknownChannel => 1
  | .offSchedule .., .offSchedule => 1
  | .replaced _, .duplicates => 1
  | .delivered _ true, .complete => 1
  | .delivered _ false, .incomplete => 1
  | .cutShort _ _ _ _ false, .evicted => 1
  | .startupDiscarded _ n _, .startupDiscarded => n
  | .queueFull .., .queueFull => 1
  | _, _ => 0

def Tally.sum (k : Tally) (es : List Event) : Nat := (es.map (·.adds k)).sum

@[simp] theorem Tally.sum_nil (k : Tally) : k.sum [] = 0 := rfl

@[simp] theorem Tally.sum_cons (k : Tally) (e : Event) (es : List Event) :
    k.sum (e :: es) = e.adds k + k.sum es := rfl

@[simp] theorem Tally.sum_append (k : Tally) (es es' : List Event) :
    k.sum (es ++ es') = k.sum es + k.sum es' := by
  unfold sum
  rw [List.map_append, List.sum_append]

theorem Counters.get_count (c : Counters) (e : Event) (k : Tally) :
    (c.count e).get k = c.get k + .ofNat (e.adds k) := by
  have hzero (n : UInt64) : n = n + .ofNat 0 := (UInt64.add_zero n).symm
  cases e with
  | delivered p complete => cases complete <;> cases k <;> first | rfl | exact hzero _
  | cutShort p expected received pressure kept =>
    cases kept <;> cases k <;> first | rfl | exact hzero _
  | _ => cases k <;> first | rfl | exact hzero _

namespace Synchronizer

variable {s s' : Synchronizer α} {acts : List (Act α)}

/-- What the journal adds up to. -/
def tally (s : Synchronizer α) (k : Tally) : Nat := k.sum s.journal

/-- Each counter is its tally, as far as 64 bits go. -/
def Counted (s : Synchronizer α) : Prop := ∀ k, s.counters.get k = .ofNat (s.tally k)

theorem Notes.tally {es : List Event} (h : s.Notes es s') (k : Tally) :
    s'.tally k = k.sum es + s.tally k := by
  unfold Synchronizer.tally
  rw [h.journal, Tally.sum_append]

theorem Notes.get {es : List Event} (h : s.Notes es s') (k : Tally) :
    s'.counters.get k = s.counters.get k + .ofNat (k.sum es) := by
  rw [h.counters]
  clear h
  induction es with
  | nil => exact (UInt64.add_zero _).symm
  | cons e es ih =>
    rw [List.foldr_cons, Counters.get_count, ih, Tally.sum_cons, Nat.add_comm, UInt64.ofNat_add,
      UInt64.add_assoc]

theorem Runs.counted (h : s.Runs acts s') (hstart : s.Counted) : s'.Counted := by
  induction h with
  | refl => exact hstart
  | step _ act ih =>
    intro k
    rw [act.notes.get, act.notes.tally, ih k, Nat.add_comm, UInt64.ofNat_add]

/-! ## What the actions add -/

theorem adds_of_isRemark {e : Event} (h : e.isRemark = true) {k : Tally}
    (hk : k ∈ Tally.ofAdmissions ++ Tally.ofResolutions) : e.adds k = 0 := by
  simp only [Tally.ofAdmissions, Tally.ofResolutions, List.cons_append, List.nil_append,
    List.mem_cons, List.not_mem_nil, or_false] at hk
  rcases hk with rfl | rfl | rfl | rfl | rfl | rfl | rfl <;> cases e <;> first | rfl | cases h

/-- The pulses that the startup rule sets aside when a message arrives. -/
def setAside (s : Synchronizer α) (a : Arrival α) : PulseBuffer α :=
  if s.startsWith a then
    (s.buffer.store a.pulse a.message.channel a.message.payload a.clock).below a.pulse
  else .empty

theorem sum_startupEvents (s : Synchronizer α) (a : Arrival α) (k : Tally) :
    k.sum ((s.store a).startupEvents (s.completes a) a.pulse) =
      match k with
      | .startupDiscarded => (s.setAside a).size
      | _ => 0 := by
  obtain ⟨hconfig, -, hbuffer, hmarks, -⟩ := s.store_fields a
  have hstarts : ((s.config.sendFirstComplete && s.completes a) &&
      (s.marks.observe a.pulse).unresolved) = s.startsWith a := rfl
  unfold startupEvents setAside
  rw [hconfig, hbuffer, hmarks, hstarts]
  split
  · generalize (s.buffer.store a.pulse a.message.channel a.message.payload a.clock).below a.pulse
      = below
    cases hfirst : below.first? with
    | none =>
      have hempty : below.size = 0 :=
        List.length_eq_zero_iff.2 (SortedMap.first?_eq_none_iff.1 hfirst)
      rw [hempty]
      cases k <;> rfl
    | some e => cases k <;> rfl
  · cases k <;> rfl

theorem sum_acceptEvents (s : Synchronizer α) (a : Arrival α) (k : Tally) :
    k.sum (s.acceptEvents a) =
      match k with
      | .buffered => 1
      | .duplicates => (s.finding a).replaced.toNat
      | .startupDiscarded => (s.setAside a).size
      | _ => 0 := by
  unfold acceptEvents
  rw [Tally.sum_cons, Tally.sum_cons, Tally.sum_append, sum_startupEvents]
  cases (s.finding a).replaced <;> cases k <;> simp [Event.adds]

theorem sum_acceptEvents_eq_zero {a : Arrival α} {k : Tally}
    (hk : k ∈ Tally.ofRemarks ++ Tally.ofResolutions) : k.sum (s.acceptEvents a) = 0 := by
  rw [sum_acceptEvents]
  simp only [Tally.ofRemarks, Tally.ofResolutions, List.cons_append, List.nil_append,
    List.mem_cons, List.not_mem_nil, or_false] at hk
  rcases hk with rfl | rfl | rfl | rfl | rfl | rfl | rfl | rfl <;> rfl

theorem sum_lookEvents (s : Synchronizer α) (now : UInt64) (k : Tally) :
    k.sum (s.lookEvents now) = 0 := by
  rcases s.lookEvents_cases now with hnone | ⟨p, q, hwaits⟩
  · rw [hnone]
    rfl
  · rw [hwaits]
    cases k <;> rfl

/-- Whether a bundle that is handed over now reaches the queue. -/
def accepts (s : Synchronizer α) (b : Bundle α) : Bool :=
  s.wants b && s.outlet.handoff == .accepted

theorem sum_settleEvents (s : Synchronizer α) (r : Resolution α) (k : Tally) :
    k.sum (s.settleEvents r) =
      match k with
      | .complete => (s.accepts r.bundle && r.bundle.isComplete).toNat
      | .incomplete => (s.accepts r.bundle && !r.bundle.isComplete).toNat
      | .queueFull => (s.wants r.bundle && s.outlet.handoff == .full).toNat
      | .evicted => (!s.wants r.bundle).toNat
      | _ => 0 := by
  unfold settleEvents accepts wants
  cases r.bundle.isComplete <;> cases s.config.sendIncomplete <;> cases s.outlet.handoff <;>
    cases k <;> rfl

theorem sum_resolve (s : Synchronizer α) (u : Turn α) (k : Tally) :
    k.sum (s.events (.resolve u)) = k.sum ((s.remove u.pulse).settleEvents u.resolution) := by
  show k.sum (_ ++ [_]) = _
  rw [Tally.sum_append]
  cases k <;> rfl

theorem sum_resolve_eq_zero {u : Turn α} {k : Tally}
    (hk : k ∈ Tally.ofRemarks ++ Tally.ofAdmissions) : k.sum (s.events (.resolve u)) = 0 := by
  rw [sum_resolve, sum_settleEvents]
  simp only [Tally.ofRemarks, Tally.ofAdmissions, List.cons_append, List.nil_append,
    List.mem_cons, List.not_mem_nil, or_false] at hk
  rcases hk with rfl | rfl | rfl | rfl | rfl | rfl | rfl <;> rfl

end Synchronizer

end PulseJoin
