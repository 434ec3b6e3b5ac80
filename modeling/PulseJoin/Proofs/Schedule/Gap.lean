import Mathlib
import PulseJoin.Schedule.Gap

/-!
# The gap test is exact

A channel's own pulses are `phase + period * k`.  Counting them up to either end of an interval
decides whether one lies strictly inside, so `pulseMissing` says exactly whether some channel is
expected between two pulses.  The counting divides by the period, but only where the interval is no
longer than it, so the test has an answer also where some period is zero or negative.
-/

namespace PulseJoin.Schedule

theorem expects_iff {s : Schedule} {p : PulseId} :
    s.expects p = true ↔ s.period.toInt ∣ p.toInt - s.phase.toInt := by
  rw [expects, beq_iff_eq, Int.dvd_iff_emod_eq_zero]

/-! ## Multiples between two integers -/

section Multiples

variable {d f a b : Int}

theorem exists_dvd_between_iff (hd : 0 < d) :
    (∃ x, a < x ∧ x < b ∧ d ∣ x - f) ↔
      ∃ k, (a - f) / d < k ∧ k ≤ (b - f) / d ∧ f + d * k ≠ b := by
  constructor
  · intro ⟨x, hax, hxb, k, hk⟩
    refine ⟨k, ?_, ?_, by omega⟩
    · rw [Int.ediv_lt_iff_lt_mul hd, Int.mul_comm]
      omega
    · rw [Int.le_ediv_iff_mul_le hd, Int.mul_comm]
      omega
  · intro ⟨k, hak, hkb, hne⟩
    rw [Int.ediv_lt_iff_lt_mul hd, Int.mul_comm] at hak
    rw [Int.le_ediv_iff_mul_le hd, Int.mul_comm] at hkb
    exact ⟨f + d * k, by omega, by omega, k, by omega⟩

theorem exists_dvd_of_long (hd : 0 < d) (hlong : d < b - a) : ∃ x, a < x ∧ x < b ∧ d ∣ x - f := by
  have hlow := Int.emod_nonneg (a - f) (Int.ne_of_gt hd)
  have hhigh := Int.emod_lt_of_pos (a - f) hd
  have hsplit := Int.emod_add_mul_ediv (a - f) d
  refine ⟨a + d - (a - f) % d, by omega, by omega, (a - f) / d + 1, ?_⟩
  rw [Int.mul_add, Int.mul_one]
  omega

/-- In a window no longer than `d`, at most one index lies between the ends, and it counts only if
it lands on neither of them. -/
theorem exists_dvd_of_short (hd : 0 < d) (hshort : b - a ≤ d) :
    (∃ x, a < x ∧ x < b ∧ d ∣ x - f) ↔
      1 < (b - f) / d - (a - f) / d ∨
        (b - f) / d - (a - f) / d = 1 ∧ ¬ d ∣ a - f ∧ ¬ d ∣ b - f := by
  rw [exists_dvd_between_iff hd]
  constructor
  · intro ⟨k, hak, hkb, hne⟩
    by_cases hone : (b - f) / d - (a - f) / d = 1
    · refine .inr ⟨hone, ?_, ?_⟩
      · intro ⟨i, hi⟩
        have hindex : (a - f) / d = i := by rw [hi, Int.mul_ediv_cancel_left _ (Int.ne_of_gt hd)]
        have hk : k = i + 1 := by omega
        rw [Int.le_ediv_iff_mul_le hd, Int.mul_comm] at hkb
        rw [hk, Int.mul_add, Int.mul_one] at hkb hne
        omega
      · intro ⟨i, hi⟩
        have hindex : (b - f) / d = i := by rw [hi, Int.mul_ediv_cancel_left _ (Int.ne_of_gt hd)]
        have hk : k = i := by omega
        rw [hk] at hne
        omega
    · exact .inl (by omega)
  · intro hcount
    rcases hcount with htwo | ⟨hone, -, hb⟩
    · refine ⟨(a - f) / d + 1, by omega, by omega, fun heq => ?_⟩
      have hindex : (b - f) / d = (a - f) / d + 1 := by
        rw [← heq, add_sub_cancel_left, Int.mul_ediv_cancel_left _ (Int.ne_of_gt hd)]
      omega
    · refine ⟨(b - f) / d, by omega, Int.le_refl _, fun heq => hb ⟨(b - f) / d, by omega⟩⟩

end Multiples

/-! ## The test of one channel and of all -/

theorem expectsWithin_iff {s : Schedule} (hs : 0 < s.period.toInt) (last next : PulseId) :
    s.expectsWithin last next (next.toInt - last.toInt) = true ↔
      ∃ x : Int, last.toInt < x ∧ x < next.toInt ∧ s.period.toInt ∣ x - s.phase.toInt := by
  have hhops : s.hops next - s.hops last =
      (next.toInt - s.phase.toInt) / s.period.toInt -
        (last.toInt - s.phase.toInt) / s.period.toInt := by
    have hshift (p : PulseId) :
        s.hops p = (p.toInt - s.phase.toInt) / s.period.toInt + 1 := by
      rw [hops, show p.toInt + s.period.toInt - s.phase.toInt =
          p.toInt - s.phase.toInt + s.period.toInt by omega,
        Int.add_ediv_of_dvd_right (Int.dvd_refl _), Int.ediv_self (Int.ne_of_gt hs)]
    rw [hshift, hshift]
    omega
  have hneg (p : PulseId) :
      (!s.expects p) = true ↔ ¬ s.period.toInt ∣ p.toInt - s.phase.toInt := by
    rw [← expects_iff, Bool.not_eq_true', Bool.not_eq_true]
  unfold expectsWithin
  split
  next hlong => simpa using exists_dvd_of_long hs hlong
  next hshort =>
    rw [exists_dvd_of_short hs (by omega), ← hhops]
    dsimp only
    split
    next htwo => simp [htwo]
    next hfew =>
      split
      next hone => rw [Bool.and_eq_true, hneg, hneg]; simp [hone]
      next hother => simp [hfew, hother]

/-- The gap test asks whether a number strictly between two pulses is on some channel's schedule. -/
theorem pulseMissing_iff_exists_int {schedules : List Schedule}
    (hperiods : ∀ s ∈ schedules, 0 < s.period.toInt) (last next : PulseId) :
    pulseMissing schedules last next = true ↔
      ∃ x : Int, last.toInt < x ∧ x < next.toInt ∧
        ∃ s ∈ schedules, s.period.toInt ∣ x - s.phase.toInt := by
  unfold pulseMissing
  dsimp only
  split
  next hnear =>
    -- No number lies between ends that are at most one apart.
    refine ⟨nofun, ?_⟩
    intro ⟨x, hlow, hhigh, _⟩
    omega
  next hfar =>
    rw [List.any_eq_true]
    constructor
    · intro ⟨s, hs, hwithin⟩
      obtain ⟨x, hlow, hhigh, hx⟩ := (expectsWithin_iff (hperiods s hs) last next).1 hwithin
      exact ⟨x, hlow, hhigh, s, hs, hx⟩
    · intro ⟨x, hlow, hhigh, s, hs, hx⟩
      exact ⟨s, hs, (expectsWithin_iff (hperiods s hs) last next).2 ⟨x, hlow, hhigh, hx⟩⟩

/-- The gap test asks whether some channel is expected strictly between two pulses. -/
theorem pulseMissing_eq_true_iff {schedules : List Schedule}
    (hperiods : ∀ s ∈ schedules, 0 < s.period.toInt) (last next : PulseId) :
    pulseMissing schedules last next = true ↔
      ∃ p : PulseId, last < p ∧ p < next ∧ ∃ s ∈ schedules, s.expects p = true := by
  rw [pulseMissing_iff_exists_int hperiods]
  constructor
  · intro ⟨x, hlow, hhigh, s, hs, hx⟩
    -- A number between two ids is an id.
    have hid : (Int64.ofInt x).toInt = x :=
      Int64.toInt_ofInt_of_le (by have := last.le_toInt; omega) (by have := next.toInt_lt; omega)
    refine ⟨Int64.ofInt x, ?_, ?_, s, hs, ?_⟩
    · rwa [Int64.lt_iff_toInt_lt, hid]
    · rwa [Int64.lt_iff_toInt_lt, hid]
    · rwa [expects_iff, hid]
  · intro ⟨p, hlow, hhigh, s, hs, hp⟩
    rw [Int64.lt_iff_toInt_lt] at hlow hhigh
    exact ⟨p.toInt, hlow, hhigh, s, hs, expects_iff.1 hp⟩

/-! ## Divisions that can fail -/

section Divisions

variable {s : Schedule} {gap : Int}

theorem hops?_of_period_ne_zero (h : s.period ≠ 0) (p : PulseId) : s.hops? p = some (s.hops p) := by
  have hdivisor : s.period.toInt ≠ 0 := fun hzero => h (Int64.toInt_inj.1 hzero)
  rw [hops?, quotient?, if_neg hdivisor, hops]

theorem expectsWithin?_eq (hgap : 1 < gap) (s : Schedule) (last next : PulseId) :
    s.expectsWithin? last next gap = some (s.expectsWithin last next gap) := by
  unfold expectsWithin? expectsWithin
  by_cases hlong : gap > s.period.toInt
  · rw [if_pos hlong, if_pos hlong]
  · have hperiod : s.period ≠ 0 := by
      intro hzero
      rw [hzero] at hlong
      exact hlong (show (0 : Int) < gap by omega)
    rw [if_neg hlong, if_neg hlong, hops?_of_period_ne_zero hperiod,
      hops?_of_period_ne_zero hperiod, expects?_of_period_ne_zero hperiod,
      expects?_of_period_ne_zero hperiod]
    simp only [Option.bind_eq_bind, Option.bind_some]
    split
    · rfl
    · split
      · cases s.expects last <;> rfl
      · rfl

theorem anyWithin?_eq (hgap : 1 < gap) (last next : PulseId) (schedules : List Schedule) :
    anyWithin? last next gap schedules =
      some (schedules.any (·.expectsWithin last next gap)) := by
  induction schedules with
  | nil => rfl
  | cons s rest ih =>
    rw [anyWithin?, expectsWithin?_eq hgap, ih, List.any_cons]
    cases s.expectsWithin last next gap <;> rfl

theorem pulseMissing?_eq (schedules : List Schedule) (last next : PulseId) :
    pulseMissing? schedules last next = some (pulseMissing schedules last next) := by
  unfold pulseMissing? pulseMissing
  dsimp only
  split
  · rfl
  next hfar => exact anyWithin?_eq (Int.not_le.1 hfar) last next schedules

end Divisions

/-- The gap test has an answer for any schedules and any two pulses: it never divides by zero.  If
every period is positive, whatever the phases are, the answer is whether an integer strictly between
the two pulses is the phase of some schedule plus a multiple of its period. -/
theorem pulseMissing_exact (schedules : List Schedule) (last next : PulseId) :
    ∃ answer, pulseMissing? schedules last next = some answer ∧
      answer = pulseMissing schedules last next ∧
      ((∀ s ∈ schedules, 1 ≤ s.period) →
        (answer = true ↔ ∃ p : Int, last.toInt < p ∧ p < next.toInt ∧
          ∃ s ∈ schedules, s.period.toInt ∣ p - s.phase.toInt)) := by
  refine ⟨_, pulseMissing?_eq schedules last next, rfl, fun hperiods => ?_⟩
  refine pulseMissing_iff_exists_int (fun s hs => ?_) last next
  have hone := Int64.le_iff_toInt_le.1 (hperiods s hs)
  exact Int.lt_of_lt_of_le (by decide) hone

/-- Both ends are on the schedule, and the interval is as long as the greatest period: no pulse
between them is, but one is as soon as the interval is longer. -/
theorem pulseMissing_exact_far_ends :
    let s : Schedule := ⟨"a", 9223372036854775807, -9223372036854775808⟩
    (∀ r ∈ [s], 1 ≤ r.period) ∧
      pulseMissing [s] (-9223372036854775808) (-1) = false ∧
      pulseMissing [s] (-9223372036854775808) 0 = true ∧
      (¬ ∃ p : Int, -9223372036854775808 < p ∧ p < -1 ∧
        ∃ r ∈ [s], r.period.toInt ∣ p - r.phase.toInt) ∧
      ∃ p : Int, -9223372036854775808 < p ∧ p < 0 ∧
        ∃ r ∈ [s], r.period.toInt ∣ p - r.phase.toInt := by
  intro s
  have hperiods : ∀ r ∈ [s], 1 ≤ r.period := by decide
  obtain ⟨short, -, hshort, hnear⟩ := pulseMissing_exact [s] (-9223372036854775808) (-1)
  obtain ⟨long, -, hlong, hfar⟩ := pulseMissing_exact [s] (-9223372036854775808) 0
  have hnone : pulseMissing [s] (-9223372036854775808) (-1) = false := by decide
  have hsome : pulseMissing [s] (-9223372036854775808) 0 = true := by decide
  refine ⟨hperiods, hnone, hsome, fun hmissing => ?_, (hfar hperiods).1 (hlong.trans hsome)⟩
  have htrue := (hnear hperiods).2 hmissing
  rw [hshort, hnone] at htrue
  cases htrue

end PulseJoin.Schedule
