import PulseJoin.Proofs.Synchronizer.Invariant
import PulseJoin.Proofs.Synchronizer.Operations

/-!
# Histories of sessions

The history of a list of operations, from the first one to the last.  What every run of actions
keeps holds for every session that was created for some configuration.
-/

namespace PulseJoin

universe u

variable {α : Type u}

def Op.message? : Op α → Option (Message α)
  | .add m => some m
  | _ => none

def Response.bundle? : Response α → Option (Bundle α)
  | .bundle b => b
  | .receipt r => r.bundle?
  | _ => none

namespace Session

variable {c : Config} {clock : UInt64} {t : Session α}

def historyOf (t : Session α) : Op α → History α
  | .add m => t.synchronizer.addHistory t.clock m
  | .evictExpired => { turns := t.synchronizer.evictTurns t.clock }
  | .tryNext =>
    { turns := t.synchronizer.tryTurns t.clock
      obtained := (t.step .tryNext).1.bundle?.toList }
  | .next =>
    { remarks := t.synchronizer.nextRemarks
      turns := t.synchronizer.nextTurns t.clock
      obtained := (t.step .next).1.bundle?.toList }
  | .receive => { obtained := (t.step .receive).1.bundle?.toList }
  | .close => { closed := !t.synchronizer.closed }
  | .setClock _ | .advanceClock _ => {}

def history (t : Session α) : List (Op α) → History α
  | [] => {}
  | op :: ops => t.historyOf op ++ (t.step op).2.history ops

theorem obtained_historyOf (t : Session α) (op : Op α) :
    (t.historyOf op).obtained = (t.step op).1.bundle?.toList := by
  cases op <;> rfl

theorem obtained_history (t : Session α) (ops : List (Op α)) :
    (t.history ops).obtained = (t.run ops).1.filterMap Response.bundle? := by
  induction ops generalizing t with
  | nil => rfl
  | cons op ops ih =>
    show (t.historyOf op).obtained ++ ((t.step op).2.history ops).obtained =
      ((t.step op).1 :: ((t.step op).2.run ops).1).filterMap Response.bundle?
    rw [ih, obtained_historyOf, List.filterMap_cons]
    cases (t.step op).1.bundle? <;> rfl

/-! ## Operations one after the other -/

theorem run_append (t : Session α) (ops ops' : List (Op α)) :
    t.run (ops ++ ops') =
      ((t.run ops).1 ++ ((t.run ops).2.run ops').1, ((t.run ops).2.run ops').2) := by
  induction ops generalizing t with
  | nil => rfl
  | cons op ops ih =>
    show ((t.step op).1 :: ((t.step op).2.run (ops ++ ops')).1,
      ((t.step op).2.run (ops ++ ops')).2) = _
    rw [ih]
    rfl

theorem run_concat (t : Session α) (ops : List (Op α)) (op : Op α) :
    t.run (ops ++ [op]) =
      ((t.run ops).1 ++ [((t.run ops).2.step op).1], ((t.run ops).2.step op).2) :=
  t.run_append ops [op]

theorem history_append (t : Session α) (ops ops' : List (Op α)) :
    t.history (ops ++ ops') = t.history ops ++ (t.run ops).2.history ops' := by
  induction ops generalizing t with
  | nil => rfl
  | cons op ops ih =>
    show t.historyOf op ++ (t.step op).2.history (ops ++ ops') =
      t.historyOf op ++ (t.step op).2.history ops ++ ((t.step op).2.run ops).2.history ops'
    rw [ih, History.append_assoc]

theorem history_concat (t : Session α) (ops : List (Op α)) (op : Op α) :
    t.history (ops ++ [op]) = t.history ops ++ (t.run ops).2.historyOf op := by
  rw [history_append]
  exact congrArg (t.history ops ++ ·) (History.append_nil _)

/-! ## Sessions as sequences of actions -/

theorem performs_step (t : Session α) (op : Op α) :
    t.synchronizer.Performs (t.historyOf op) (t.step op).2.synchronizer := by
  cases op with
  | add m => exact t.synchronizer.performs_add t.clock m
  | evictExpired => exact t.synchronizer.performs_evictExpired t.clock
  | tryNext => exact t.synchronizer.performs_tryNext t.clock
  | next => exact t.synchronizer.performs_next t.clock
  | receive => exact t.synchronizer.performs_receive
  | close => exact t.synchronizer.performs_close
  | setClock ms => exact .refl _
  | advanceClock ms => exact .refl _

theorem performs_run (t : Session α) (ops : List (Op α)) :
    t.synchronizer.Performs (t.history ops) (t.run ops).2.synchronizer := by
  induction ops generalizing t with
  | nil => exact .refl _
  | cons op ops ih => exact (t.performs_step op).trans (ih _)

/-! ## Created sessions -/

/-- A session for the configuration `c` that has done nothing yet. -/
structure New (c : Config) (t : Session α) : Prop where
  fresh : t.synchronizer.Fresh
  config : t.synchronizer.config = c
  schedules : t.synchronizer.schedules.toList = c.channels
  mode : t.synchronizer.outlet.mode = c.delivery
  counters : t.synchronizer.counters = {}
  journal : t.synchronizer.journal = [.created c]

theorem eq_of_create (h : create c clock = .ok t) :
    ∃ faultless, t = ⟨.note { config := c, schedules := ⟨c.channels, faultless⟩,
                              outlet := { mode := c.delivery } } (.created c), clock⟩ := by
  unfold create Synchronizer.create at h
  split at h
  · cases h
  next hfault =>
    split at h
    · cases h
      exact ⟨Config.schedules_faultless hfault, rfl⟩
    · cases h

theorem new_of_create (h : create c clock = .ok t) : t.New c := by
  obtain ⟨faultless, rfl⟩ := eq_of_create h
  exact ⟨⟨rfl, rfl, rfl, rfl, rfl⟩, rfl, rfl, rfl, rfl, rfl⟩

theorem sound_run (h : create c clock = .ok t) (ops : List (Op α)) :
    ∃ acts, t.synchronizer.Runs acts (t.run ops).2.synchronizer ∧
      Act.history acts = t.history ops ∧
      Synchronizer.Sound acts (t.run ops).2.synchronizer := by
  obtain ⟨acts, hruns, hacts⟩ := t.performs_run ops
  exact ⟨acts, hruns, hacts, hruns.sound (new_of_create h).fresh⟩

theorem config_run (h : create c clock = .ok t) (ops : List (Op α)) :
    (t.run ops).2.synchronizer.config = c := by
  obtain ⟨acts, hruns, -⟩ := t.performs_run ops
  exact hruns.frame.config.trans (new_of_create h).config

theorem schedules_run (h : create c clock = .ok t) (ops : List (Op α)) :
    (t.run ops).2.synchronizer.schedules.toList = c.channels := by
  obtain ⟨acts, hruns, -⟩ := t.performs_run ops
  rw [hruns.frame.schedules]
  exact (new_of_create h).schedules

theorem mode_run (h : create c clock = .ok t) (ops : List (Op α)) :
    (t.run ops).2.synchronizer.outlet.mode = c.delivery := by
  obtain ⟨acts, hruns, -⟩ := t.performs_run ops
  exact hruns.frame.mode.trans (new_of_create h).mode

end Session

end PulseJoin
