import PulseJoin.Proofs.Schedule.Set

/-!
# The first fault of a list of schedules

A list obeys the rules (`Ruled`) or has a first entry that does not, and `fault?` finds that entry
and the first rule it breaks (`fault?_eq_some_iff`).
-/

namespace PulseJoin

namespace Schedule

def InRange (s : Schedule) : Prop := 1 ≤ s.period ∧ 0 ≤ s.phase ∧ s.phase < s.period

structure Ruled (schedules : List Schedule) : Prop where
  range : ∀ s ∈ schedules, s.InRange
  names : schedules.Pairwise fun s r => s.name ≠ r.name

/-- What is wrong with an entry behind some earlier ones.  The period comes before the phase, and
the phase before the name. -/
inductive Breaks (earlier : List Schedule) (s : Schedule) : Flaw → Prop
  | period (h : s.period < 1) : Breaks earlier s (.period s.name s.period)
  | phase (hperiod : 1 ≤ s.period) (h : s.phase < 0 ∨ s.period ≤ s.phase) :
      Breaks earlier s (.phase s.name s.period s.phase)
  | name (hrange : s.InRange) (h : ∃ r ∈ earlier, r.name = s.name) :
      Breaks earlier s (.repeated s.name)

theorem inRange_iff {s : Schedule} :
    s.InRange ↔ 0 < s.period ∧ 0 ≤ s.phase ∧ s.phase < s.period := by
  unfold InRange
  simp only [Int64.le_iff_toInt_le, Int64.lt_iff_toInt_lt, Int64.toInt_zero, Int64.toInt_one]
  omega

theorem fault?_eq_none_iff_ruled {schedules : List Schedule} :
    fault? schedules = none ↔ Ruled schedules := by
  rw [fault?_eq_none_iff, List.Nodup, List.pairwise_map]
  constructor
  · rintro ⟨hrange, hnames⟩
    exact ⟨fun s hs => inRange_iff.2 (hrange s hs), hnames⟩
  · intro h
    exact ⟨fun s hs => inRange_iff.1 (h.range s hs), h.names⟩

theorem flaw?_eq_some_iff {earlier : List Schedule} {seen : List String} {s : Schedule}
    {flaw : Flaw} (hseen : ∀ name, name ∈ seen ↔ ∃ r ∈ earlier, r.name = name) :
    s.flaw? seen = some flaw ↔ Breaks earlier s flaw := by
  unfold flaw?
  simp only [hseen]
  constructor
  · intro h
    split at h
    next hperiod =>
      cases h
      exact .period (by grind)
    next hperiod =>
      split at h
      next hphase =>
        cases h
        exact .phase (by grind) hphase
      next hphase =>
        split at h
        next hname =>
          cases h
          refine .name ?_ hname
          rw [inRange_iff]
          grind
        next => cases h
  · intro h
    cases h with
    | period hperiod => rw [if_pos (by grind)]
    | phase hperiod hphase => rw [if_neg (by grind), if_pos hphase]
    | name hrange hname =>
      rw [inRange_iff] at hrange
      rw [if_neg (by grind), if_neg (by grind), if_pos hname]

theorem faultAfter?_eq_some_iff {seen : List String} {schedules : List Schedule} {fault : Fault} :
    faultAfter? seen schedules = some fault ↔
      ∃ before s after, schedules = before ++ s :: after ∧
        fault.index = seen.length + before.length ∧ faultAfter? seen before = none ∧
        s.flaw? ((before.map (·.name)).reverse ++ seen) = some fault.flaw := by
  induction schedules generalizing seen with
  | nil => simp [faultAfter?]
  | cons s rest ih =>
    cases hs : s.flaw? seen with
    | some flaw =>
      -- The entry at fault is the first one, since nothing flawless reaches beyond it.
      simp only [faultAfter?, hs]
      constructor
      · intro h
        cases h
        exact ⟨[], s, rest, rfl, rfl, rfl, hs⟩
      · rintro ⟨before, s', after, hsplit, hindex, hbefore, hflaw⟩
        cases before with
        | nil =>
          cases hsplit
          have hsame := hs.symm.trans hflaw
          cases fault
          simp_all
        | cons r before =>
          cases hsplit
          simp [faultAfter?, hs] at hbefore
    | none =>
      -- The entry at fault is one of the others, of which each has one more before it.
      simp only [faultAfter?, hs, ih]
      constructor
      · rintro ⟨before, s', after, hsplit, hindex, hbefore, hflaw⟩
        refine ⟨s :: before, s', after, congrArg (s :: ·) hsplit, ?_, ?_, ?_⟩
        · rw [hindex, List.length_cons, List.length_cons]
          omega
        · simpa [faultAfter?, hs] using hbefore
        · simpa using hflaw
      · rintro ⟨before, s', after, hsplit, hindex, hbefore, hflaw⟩
        cases before with
        | nil =>
          cases hsplit
          cases hs.symm.trans hflaw
        | cons r before =>
          cases hsplit
          refine ⟨before, s', after, rfl, ?_, ?_, ?_⟩
          · rw [hindex, List.length_cons, List.length_cons]
            omega
          · simpa [faultAfter?, hs] using hbefore
          · simpa using hflaw

theorem fault?_eq_some_iff {schedules : List Schedule} {fault : Fault} :
    fault? schedules = some fault ↔
      ∃ before s after, schedules = before ++ s :: after ∧ fault.index = before.length ∧
        Ruled before ∧ Breaks before s fault.flaw := by
  have hseen (before : List Schedule) (name : String) :
      name ∈ (before.map (·.name)).reverse ++ [] ↔ ∃ r ∈ before, r.name = name := by
    simp
  unfold fault?
  simp only [faultAfter?_eq_some_iff, List.length_nil, Nat.zero_add,
    flaw?_eq_some_iff (hseen _), ← fault?_eq_none_iff_ruled]
  rfl

end Schedule

end PulseJoin
