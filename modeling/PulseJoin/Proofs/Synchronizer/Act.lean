import PulseJoin.Synchronizer.Session
import PulseJoin.Proofs.Buffer
import PulseJoin.Proofs.Schedule.Set
import PulseJoin.Proofs.Synchronizer.Arrival
import PulseJoin.Proofs.Watermarks

/-!
# The actions of a synchronizer

All a synchronizer does is a sequence of six kinds of actions, each of them atomic: it remarks on a
message or a call, it admits a message, it looks at the oldest pulse and leaves it where it is, it
resolves the oldest pulse, it gives a bundle to a consumer, it closes.  `Acts` is one action, `Runs`
a sequence of them; what every run keeps is proved action by action.
-/

namespace PulseJoin

universe u

variable {α : Type u}

/-- One resolution: the synchronizer it found, the clock, and what it took out. -/
structure Turn (α : Type u) where
  before : Synchronizer α
  clock : UInt64
  resolution : Resolution α

namespace Turn

def bundle (u : Turn α) : Bundle α := u.resolution.bundle

def pulse (u : Turn α) : PulseId := u.bundle.pulse

end Turn

/-- What a synchronizer does at a time. -/
inductive Act (α : Type u) where
  | remark (e : Event)
  | accept (a : Arrival α)
  | look (clock : UInt64)
  | resolve (u : Turn α)
  | take (b : Bundle α)
  | close

namespace Act

def remarks (actions : List (Act α)) : List Event :=
  actions.filterMap fun | .remark e => some e | _ => none

def arrivals (actions : List (Act α)) : List (Arrival α) :=
  actions.filterMap fun | .accept a => some a | _ => none

def turns (actions : List (Act α)) : List (Turn α) :=
  actions.filterMap fun | .resolve u => some u | _ => none

def taken (actions : List (Act α)) : List (Bundle α) :=
  actions.filterMap fun | .take b => some b | _ => none

def closes (actions : List (Act α)) : Bool := actions.any fun | .close => true | _ => false

@[simp] theorem remarks_append (as bs : List (Act α)) :
    remarks (as ++ bs) = remarks as ++ remarks bs := List.filterMap_append

@[simp] theorem arrivals_append (as bs : List (Act α)) :
    arrivals (as ++ bs) = arrivals as ++ arrivals bs := List.filterMap_append

@[simp] theorem turns_append (as bs : List (Act α)) :
    turns (as ++ bs) = turns as ++ turns bs := List.filterMap_append

@[simp] theorem taken_append (as bs : List (Act α)) :
    taken (as ++ bs) = taken as ++ taken bs := List.filterMap_append

@[simp] theorem closes_append (as bs : List (Act α)) :
    closes (as ++ bs) = (closes as || closes bs) := List.any_append

theorem mem_arrivals {actions : List (Act α)} {a : Arrival α} :
    a ∈ arrivals actions ↔ .accept a ∈ actions := by
  rw [arrivals, List.mem_filterMap]
  constructor
  · intro ⟨action, hmem, h⟩
    cases action <;> simp_all
  · intro h
    exact ⟨_, h, rfl⟩

theorem mem_turns {actions : List (Act α)} {u : Turn α} :
    u ∈ turns actions ↔ .resolve u ∈ actions := by
  rw [turns, List.mem_filterMap]
  constructor
  · intro ⟨action, hmem, h⟩
    cases action <;> simp_all
  · intro h
    exact ⟨_, h, rfl⟩

theorem subset_turns (as bs : List (Act α)) : turns as ⊆ turns (as ++ bs) := by
  rw [turns_append]
  exact List.subset_append_left _ _

theorem mem_turns_concat (as : List (Act α)) (u : Turn α) : u ∈ turns (as ++ [.resolve u]) := by
  rw [turns_append]
  exact List.mem_append_right _ (.head _)

theorem arrivals_around (before after : List (Act α)) (u : Turn α) :
    arrivals (before ++ [.resolve u] ++ after) = arrivals before ++ arrivals after := by
  rw [arrivals_append, arrivals_append, show arrivals [Act.resolve u] = [] from rfl,
    List.append_nil]

end Act

/-- The events that only tell of a message or a call by which nothing changed. -/
def Event.isRemark : Event → Bool
  | .received | .ignored | .unknownChannel .. | .offSchedule .. | .stale ..
  | .pullWithoutQueue => true
  | _ => false

namespace Synchronizer

/-- Whether a message would be taken in: it is on schedule and not yet passed. -/
def Welcomes (s : Synchronizer α) (m : Message α) : Prop :=
  s.closed = false ∧ m.channel ∈ s.schedules.expectedChannels m.pulse ∧
    s.marks.boundary < m.pulse

/-- One action of a synchronizer. -/
inductive Acts : Synchronizer α → Act α → Synchronizer α → Prop
  | remark {s : Synchronizer α} {e : Event} (he : e.isRemark = true) :
      Acts s (.remark e) (s.note e)
  | accept {s : Synchronizer α} {a : Arrival α} (ha : s.Welcomes a.message) :
      Acts s (.accept a) (s.accept a.clock a.message)
  | look {s s' : Synchronizer α} {now : UInt64} (h : s.resolveOldest now = (none, s')) :
      Acts s (.look now) s'
  | resolve {s s' : Synchronizer α} {now : UInt64} {r : Resolution α} (hopen : s.closed = false)
      (h : s.resolveOldest now = (some r, s')) :
      Acts s (.resolve ⟨s, now, r⟩) (s'.settle r)
  | take {s : Synchronizer α} {b : Bundle α} (h : s.outlet.queue.head? = some b) :
      Acts s (.take b) { s with outlet := s.outlet.drop }
  | close {s : Synchronizer α} (hopen : s.closed = false) : Acts s .close s.close

inductive Runs (s : Synchronizer α) : List (Act α) → Synchronizer α → Prop
  | refl : Runs s [] s
  | step {s' s'' : Synchronizer α} {as : List (Act α)} {a : Act α}
      (run : Runs s as s') (act : Acts s' a s'') : Runs s (as ++ [a]) s''

variable {s s' s'' : Synchronizer α} {as bs : List (Act α)} {a : Act α}

theorem Acts.run (h : s.Acts a s') : s.Runs [a] s' := .step .refl h

theorem Runs.trans (h : s.Runs as s') (h' : s'.Runs bs s'') : s.Runs (as ++ bs) s'' := by
  induction h' with
  | refl => rwa [List.append_nil]
  | step _ act ih =>
    rw [← List.append_assoc]
    exact .step ih act

theorem Runs.of_concat (h : s.Runs (as ++ [a]) s') : ∃ t, s.Runs as t ∧ t.Acts a s' := by
  generalize hall : as ++ [a] = all at h
  cases h with
  | refl => simp at hall
  | step run act =>
    obtain ⟨hinit, hlast⟩ := List.append_inj' hall rfl
    cases hlast
    exact ⟨_, hinit ▸ run, act⟩

theorem Runs.split (h : s.Runs (as ++ bs) s') : ∃ t, s.Runs as t ∧ t.Runs bs s' := by
  induction bs using List.reverseRecOn generalizing s' with
  | nil => exact ⟨s', by rwa [List.append_nil] at h, .refl⟩
  | append_singleton bs b ih =>
    rw [← List.append_assoc] at h
    obtain ⟨mid, hrun, hact⟩ := h.of_concat
    obtain ⟨t, hfront, hback⟩ := ih hrun
    exact ⟨t, hfront, .step hback hact⟩

theorem Runs.around (h : s.Runs as s') (ha : a ∈ as) :
    ∃ before after t t', as = before ++ [a] ++ after ∧ s.Runs before t ∧ t.Acts a t' ∧
      t'.Runs after s' := by
  obtain ⟨before, after, hsplit⟩ := List.append_of_mem ha
  rw [← List.singleton_append, ← List.append_assoc] at hsplit
  rw [hsplit] at h
  obtain ⟨t', hupto, hafter⟩ := h.split
  obtain ⟨t, hbefore, hact⟩ := hupto.of_concat
  exact ⟨before, after, t, t', hsplit, hbefore, hact, hafter⟩

end Synchronizer

end PulseJoin
