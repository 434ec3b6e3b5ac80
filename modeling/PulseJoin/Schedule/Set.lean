import PulseJoin.Schedule
import PulseJoin.SortedMap

/-!
# Sets of schedules

A synchronizer runs on a list of schedules with positive periods, phases inside the period and
distinct names.  `Schedule.fault?` finds the first entry that breaks a rule; a `ScheduleSet` is a
list without one.  Its names are distinct, so a search of the list finds the schedule of a name
where an index of the names has it (`ScheduleSet.positions_get?_eq`).
-/

namespace PulseJoin

inductive Schedule.Flaw where
  | period (name : String) (period : Int64)
  | phase (name : String) (period phase : Int64)
  | repeated (name : String)
  deriving DecidableEq, Repr

structure Schedule.Fault where
  index : Nat
  flaw : Schedule.Flaw
  deriving DecidableEq, Repr

namespace Schedule

/-- The rule that `s` breaks behind entries of the names `seen`: period before phase before name. -/
def flaw? (seen : List String) (s : Schedule) : Option Flaw :=
  if s.period ≤ 0 then some (.period s.name s.period)
  else if s.phase < 0 ∨ s.period ≤ s.phase then some (.phase s.name s.period s.phase)
  else if s.name ∈ seen then some (.repeated s.name)
  else none

/-- The first fault of the entries that follow `seen.length` earlier ones. -/
def faultAfter? (seen : List String) : List Schedule → Option Fault
  | [] => none
  | s :: rest =>
    match s.flaw? seen with
    | some flaw => some ⟨seen.length, flaw⟩
    | none => faultAfter? (s.name :: seen) rest

def fault? (schedules : List Schedule) : Option Fault := faultAfter? [] schedules

end Schedule

structure ScheduleSet where
  toList : List Schedule
  faultless : Schedule.fault? toList = none

namespace ScheduleSet

def ofList (schedules : List Schedule) : Except Schedule.Fault ScheduleSet :=
  match h : Schedule.fault? schedules with
  | some fault => .error fault
  | none => .ok ⟨schedules, h⟩

def size (s : ScheduleSet) : Nat := s.toList.length

def isEmpty (s : ScheduleSet) : Bool := s.toList.isEmpty

def get? (s : ScheduleSet) (name : String) : Option Schedule :=
  s.toList.find? (·.name == name)

def expectedChannels (s : ScheduleSet) (p : PulseId) : List String :=
  (s.toList.filter (·.expects p)).map (·.name)

def expectedCount (s : ScheduleSet) (p : PulseId) : Nat := Schedule.expectedCount s.toList p

end ScheduleSet

/-! ## Faultless lists -/

namespace Schedule

theorem flaw?_eq_none_iff {seen : List String} {s : Schedule} :
    s.flaw? seen = none ↔ (0 < s.period ∧ 0 ≤ s.phase ∧ s.phase < s.period) ∧ s.name ∉ seen := by
  unfold flaw?
  split
  next hperiod => simp; grind
  next hperiod =>
    split
    next hphase => simp; grind
    next hphase =>
      split
      next hname => simp [hname]
      next hname => simp [hname]; grind

theorem faultAfter?_eq_none_iff {seen : List String} {schedules : List Schedule} :
    faultAfter? seen schedules = none ↔
      (∀ s ∈ schedules, 0 < s.period ∧ 0 ≤ s.phase ∧ s.phase < s.period) ∧
        (schedules.map (·.name)).Nodup ∧ ∀ s ∈ schedules, s.name ∉ seen := by
  induction schedules generalizing seen with
  | nil => simp [faultAfter?]
  | cons s rest ih =>
    cases hs : s.flaw? seen with
    | some flaw =>
      have hbroken : ¬ ((0 < s.period ∧ 0 ≤ s.phase ∧ s.phase < s.period) ∧ s.name ∉ seen) := by
        rw [← flaw?_eq_none_iff, hs]
        simp
      simp only [faultAfter?, hs, List.forall_mem_cons, reduceCtorEq, false_iff]
      intro ⟨⟨hrange, _⟩, _, hname, _⟩
      exact hbroken ⟨hrange, hname⟩
    | none =>
      obtain ⟨hrange, hname⟩ := flaw?_eq_none_iff.1 hs
      simp only [faultAfter?, hs, ih, List.forall_mem_cons, List.map_cons, List.nodup_cons]
      simp only [List.mem_map, List.mem_cons, not_or, not_exists, not_and]
      constructor
      · intro ⟨hall, hnodup, hfresh⟩
        exact ⟨⟨hrange, hall⟩, ⟨fun r hr => (hfresh r hr).1, hnodup⟩, hname,
          fun r hr => (hfresh r hr).2⟩
      · intro ⟨⟨_, hall⟩, ⟨hother, hnodup⟩, _, hfresh⟩
        exact ⟨hall, hnodup, fun r hr => ⟨hother r hr, hfresh r hr⟩⟩

theorem fault?_eq_none_iff {schedules : List Schedule} :
    fault? schedules = none ↔
      (∀ s ∈ schedules, 0 < s.period ∧ 0 ≤ s.phase ∧ s.phase < s.period) ∧
        (schedules.map (·.name)).Nodup := by
  simp [fault?, faultAfter?_eq_none_iff]

theorem find?_name {schedules : List Schedule} (h : (schedules.map (·.name)).Nodup)
    {s : Schedule} (hs : s ∈ schedules) : schedules.find? (·.name == s.name) = some s := by
  induction schedules with
  | nil => cases hs
  | cons r rest ih =>
    rw [List.map_cons, List.nodup_cons] at h
    rcases List.mem_cons.1 hs with rfl | hlater
    · exact List.find?_cons_of_pos (beq_self_eq_true _)
    · have hname : r.name ≠ s.name := fun heq => h.1 (heq ▸ List.mem_map_of_mem hlater)
      rw [List.find?_cons_of_neg (by simpa using hname)]
      exact ih h.2 hlater

end Schedule

/-! ## The index of the names -/

namespace ScheduleSet

theorem names_nodup (set : ScheduleSet) : (set.toList.map (·.name)).Nodup :=
  (Schedule.fault?_eq_none_iff.1 set.faultless).2

theorem get?_eq_some_iff {set : ScheduleSet} {name : String} {s : Schedule} :
    set.get? name = some s ↔ s ∈ set.toList ∧ s.name = name := by
  unfold get?
  constructor
  · intro h
    exact ⟨List.mem_of_find?_eq_some h, by simpa using List.find?_some h⟩
  · rintro ⟨hs, rfl⟩
    exact Schedule.find?_name set.names_nodup hs

/-- The positions of the names in the list; of equal names the last one counts. -/
def positions (set : ScheduleSet) : SortedMap String Nat :=
  .ofList (set.toList.zipIdx.map fun e => (e.1.name, e.2))

theorem get?_positions_eq_some_iff {set : ScheduleSet} {name : String} {i : Nat} :
    set.positions.get? name = some i ↔ ∃ s, set.toList[i]? = some s ∧ s.name = name := by
  have hnames : (set.toList.zipIdx.map fun e => (e.1.name, e.2)).map (·.1) =
      set.toList.map (·.name) := by
    have hfst := congrArg (List.map (·.name)) (List.zipIdx_map_fst 0 set.toList)
    rw [List.map_map] at hfst
    rw [List.map_map]
    exact hfst
  unfold positions
  rw [SortedMap.get?_ofList_eq_some_iff (hnames ▸ set.names_nodup), List.mem_map]
  constructor
  · rintro ⟨⟨s, j⟩, hmem, heq⟩
    obtain ⟨rfl, rfl⟩ := Prod.mk.inj heq
    exact ⟨s, List.mem_zipIdx_iff_getElem?.1 hmem, rfl⟩
  · rintro ⟨s, hs, rfl⟩
    exact ⟨(s, i), List.mem_zipIdx_iff_getElem?.2 hs, rfl⟩

/-- The schedule at the position of a name is the schedule of the name. -/
theorem positions_get?_eq (set : ScheduleSet) (name : String) :
    (set.positions.get? name).bind (set.toList[·]?) = set.get? name := by
  ext s
  rw [Option.bind_eq_some_iff, get?_eq_some_iff]
  simp only [get?_positions_eq_some_iff]
  constructor
  · rintro ⟨i, ⟨r, hr, rfl⟩, hs⟩
    cases hr.symm.trans hs
    exact ⟨List.mem_of_getElem? hs, rfl⟩
  · rintro ⟨hs, rfl⟩
    obtain ⟨i, hi⟩ := List.mem_iff_getElem?.1 hs
    exact ⟨i, ⟨s, hi, rfl⟩, hi⟩

end ScheduleSet

end PulseJoin
