import PulseJoin.Proofs.Replay.Plan

/-!
# Plans in windows

A plan is what is left of the scheduled pulses when some are dropped and the others are shuffled
within windows.  Sorted, it is what was kept, since the pulses come in ascending order.
-/

namespace PulseJoin.Replay

open PulseJoin.Random

theorem insertionSort_eq_of_perm {xs kept : List PulseId} (hperm : xs.Perm kept)
    (hkept : kept.Pairwise (· < ·)) : xs.insertionSort (· ≤ ·) = kept := by
  have hle : kept.Pairwise (· ≤ ·) := hkept.imp fun {p q} hlt => by grind
  exact List.Perm.eq_of_pairwise (fun p q _ _ hpq hqp => Int64.le_antisymm hpq hqp)
    (List.pairwise_insertionSort _ xs) hle ((List.perm_insertionSort _ xs).trans hperm)

/-- Each pulse that a channel is expected on is planned once or counted as dropped, and shuffling
does not take it out of its window.  For any stream of random numbers, the plan repeats no pulse and
has only pulses of the range on which the channel is expected; with those dropped they are all there
are, and without a drop rate all of them are there.  Sorted, the plan is the same where there are no
windows, and has the same pulses in each window otherwise. -/
theorem plan?_covers_in_windows {s : Schedule} (hperiod : s.period ≠ 0) {count : UInt64}
    (hcount : count.toNat ≤ 2 ^ 63) {rate : Float} (hrate : rate ≤ 1) (start : PulseId)
    (window : UInt64) :
    ∃ chance, Chance.ofFloat? rate = some chance ∧
      let planned := fun stream =>
        planOf chance window.toNat stream ((pulsesFrom start count.toNat).filter s.expects)
      (∀ seed, plan? s start count rate window seed = some (planned (.ofSeed seed))) ∧
      ∀ stream,
        let plan := planned stream
        let sorted := plan.pulses.insertionSort (· ≤ ·)
        plan.Covers s start count.toNat ∧
          (rate ≤ 0 → plan.dropped = 0 ∧ ∀ p, s.expects p = true → start ≤ p →
            p.toInt < start.toInt + count.toNat → p ∈ plan.pulses) ∧
          (window ≤ 1 → plan.pulses = sorted) ∧
          (1 < window → SameBlocks window.toNat plan.pulses sorted) := by
  obtain ⟨chance, hchance⟩ := Chance.exists_ofFloat? hrate
  refine ⟨chance, hchance, ?_⟩
  intro planned
  refine ⟨plan?_eq hperiod hchance start count window, fun stream => ?_⟩
  intro plan sorted
  obtain ⟨kept, n, hkeeps, hsublist, hlength, hnever⟩ :
      ∃ kept n, plan.Keeps window.toNat kept n ∧ _ := exists_planOf chance window.toNat stream _
  have hascending : kept.Pairwise (· < ·) :=
    ((pulsesFrom_ascending start hcount).filter _).sublist hsublist
  -- The kept pulses ascend, so sorting the plan undoes the shuffle.
  have hsorted : sorted = kept := insertionSort_eq_of_perm hkeeps.perm hascending
  refine ⟨covers_planOf s start hcount chance _ stream, fun hzero => ?_, fun hsingle => ?_, ?_⟩
  · have hnone : n = 0 := hnever (Option.some.inj (hchance.symm.trans (if_pos hzero)))
    have hall := hsublist.eq_of_length (by rw [← hlength, hnone, Nat.add_zero])
    refine ⟨by rw [hkeeps.dropped, hnone]; rfl, fun p hexpects hlow hhigh => ?_⟩
    rw [hkeeps.perm.mem_iff, hall, List.mem_filter, mem_pulsesFrom hcount]
    exact ⟨⟨hlow, hhigh⟩, hexpects⟩
  · rw [hsorted]
    exact hkeeps.ordered (UInt64.le_iff_toNat_le.1 hsingle)
  · rw [hsorted]
    exact fun _ => hkeeps.blocks

/-- Eight pulses are left in the range, of which three are dropped and the others shuffled by
threes.  Without a drop rate and without windows the plan is the pulses on the schedule. -/
theorem plan?_covers_in_windows_end :
    let s : Schedule := ⟨"a", 1, 0⟩
    let start : PulseId := 9223372036854775800
    let plan : Plan := ⟨[9223372036854775803, 9223372036854775805, 9223372036854775801,
      9223372036854775807, 9223372036854775806], 3⟩
    let sorted := plan.pulses.insertionSort (· ≤ ·)
    plan? s start 10 0.25 3 3 = some plan ∧ plan.Covers s start 10 ∧ s.expectedFrom start 10 = 8 ∧
      ((plan.pulses.drop 3).take 3).Perm ((sorted.drop 3).take 3) ∧
      ∃ all, plan? s start 10 0 1 3 = some all ∧ all.dropped = 0 ∧
        9223372036854775804 ∈ all.pulses ∧ all.pulses = all.pulses.insertionSort (· ≤ ·) := by
  intro s start plan sorted
  have hperiod : s.period ≠ 0 := by decide
  have hcount : (10 : UInt64).toNat ≤ 2 ^ 63 := by decide
  have hrate : (0.25 : Float) ≤ 1 := by decide
  obtain ⟨_, -, hplanned, hplans⟩ := plan?_covers_in_windows hperiod hcount hrate start 3
  have hvalue : plan? s start 10 0.25 3 3 = some plan := by decide +kernel
  have hplan := Option.some.inj ((hplanned 3).symm.trans hvalue)
  obtain ⟨hcovers, -, -, hblocks⟩ := hplans (.ofSeed 3)
  rw [hplan] at hcovers hblocks
  have hrate' : (0 : Float) ≤ 1 := by decide
  obtain ⟨_, -, hplanned', hplans'⟩ := plan?_covers_in_windows hperiod hcount hrate' start 1
  obtain ⟨-, hzero, hsingle, -⟩ := hplans' (.ofSeed 3)
  obtain ⟨hnone, hall⟩ := hzero (by decide)
  refine ⟨hvalue, hcovers, by decide, hblocks (by decide) 1, _, hplanned' 3, hnone, ?_, ?_⟩
  · exact hall _ (by decide) (by decide) (by decide)
  · exact hsingle (by decide)

end PulseJoin.Replay
