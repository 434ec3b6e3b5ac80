import PulseJoin.Proofs.Statistics.Bundles

/-!
# Exact totals

For fewer bundles than a counter has room for, the statistics are the numbers they stand for.  What
a counter may have no room for is the pulses left out: a stream that sweeps the range of ids twice
leaves out too many.
-/

namespace PulseJoin.BundleStats

variable {α : Type} {s : BundleStats} {bs : List (Bundle α)}

/-! ## Counters -/

theorem countP_steps (bs : List (Bundle α)) : ((steps bs).countP fun e => e.1 < e.2) +
    ((steps bs).countP fun e => e.2 ≤ e.1) = bs.length - 1 := by
  have hback : ((steps bs).countP fun e => e.2 ≤ e.1) =
      (steps bs).countP fun e => ¬ decide (e.1 < e.2) = true :=
    List.countP_congr fun e _ => by simp [Int64.not_lt]
  rw [hback, ← List.length_eq_countP_add_countP, length_steps]

namespace Tells

variable (h : s.Tells bs) (hlength : bs.length < UInt64.size)

include h hlength

theorem toNat_total : s.total.toNat = bs.length := by
  rw [h.total, UInt64.toNat_ofNat_of_lt' hlength]

theorem toNat_complete : s.complete.toNat = bs.countP (·.isComplete) := by
  rw [h.complete]
  exact UInt64.toNat_ofNat_of_lt' (Nat.lt_of_le_of_lt List.countP_le_length hlength)

theorem toNat_complete_add_incomplete :
    s.complete.toNat + s.incomplete.toNat = bs.length := by
  have hincomplete : s.incomplete.toNat = bs.countP (!·.isComplete) := by
    rw [h.incomplete]
    exact UInt64.toNat_ofNat_of_lt' (Nat.lt_of_le_of_lt List.countP_le_length hlength)
  rw [h.toNat_complete hlength, hincomplete, List.length_eq_countP_add_countP (·.isComplete)]
  simp

theorem toNat_violations : s.violations.toNat = (steps bs).countP fun e => e.2 ≤ e.1 := by
  have hsteps := countP_steps bs
  rw [h.violations]
  exact UInt64.toNat_ofNat_of_lt' (by omega)

theorem toNat_gaps_add_violations :
    s.gaps.count.toNat + s.violations.toNat = bs.length - 1 := by
  have hsteps := countP_steps bs
  rw [h.toNat_violations hlength, h.gaps, UInt64.toNat_ofNat_of_lt' (by omega), hsteps]

theorem toNat_channel (channel : String) : (s.channels.get? channel).map UInt64.toNat =
    if ∃ b ∈ bs, channel ∈ b.channels then some (bs.countP fun b => channel ∈ b.channels)
    else none := by
  have hchannel := h.channels channel
  split
  next htook =>
    obtain ⟨n, hn⟩ := Option.isSome_iff_exists.1 ((h.listed channel).2 htook)
    rw [hn, Option.getD_some] at hchannel
    rw [hn, hchannel, Option.map_some]
    exact congrArg some
      (UInt64.toNat_ofNat_of_lt' (Nat.lt_of_le_of_lt List.countP_le_length hlength))
  next hnone =>
    rw [← h.listed, SortedMap.contains, Option.not_isSome_iff_eq_none] at hnone
    rw [hnone]
    rfl

end Tells

/-! ## Streams -/

/-- The statistics of bundles count them as what they are: all, complete and incomplete ones; the
steps to a pulse that is not greater, and as gaps all other steps; for each channel that took part
the bundles with it, and for no other channel anything; and the pulses left out.  Bundles have
statistics exactly if there is room for the count of pulses left out.  Ascending ones always have
them, and where no distance is beyond 63 bits, what is left out is all there is between the first
pulse and the last. -/
theorem totals_exact (hlength : bs.length < UInt64.size) :
    (∀ s, ofList? bs = some s →
      s.total.toNat = bs.length ∧
      s.complete.toNat = bs.countP (·.isComplete) ∧
      s.complete.toNat + s.incomplete.toNat = bs.length ∧
      s.violations.toNat = ((steps bs).countP fun e => e.2 ≤ e.1) ∧
      s.gaps.count.toNat + s.violations.toNat = bs.length - 1 ∧
      (∀ channel, (s.channels.get? channel).map UInt64.toNat =
        if ∃ b ∈ bs, channel ∈ b.channels then some (bs.countP fun b => channel ∈ b.channels)
        else none) ∧
      s.last? = bs.getLast?.map (·.pulse) ∧
      s.skipped.toNat = leftOutOf bs) ∧
    ((∃ s, ofList? bs = some s) ↔ leftOutOf bs < UInt64.size) ∧
    ((bs.Pairwise fun b b' => b.pulse < b'.pulse) →
      ∃ s, ofList? bs = some s ∧ s.violations = 0 ∧
        ((∀ e ∈ steps bs, e.2.toInt - e.1.toInt ≤ Int64.maxValue.toInt) →
          ∀ first last, bs.head? = some first → bs.getLast? = some last →
            (s.skipped.toNat : Int) =
              last.pulse.toInt - first.pulse.toInt - (bs.length - 1))) := by
  refine ⟨fun s hs => ?_, ?_, fun hascending => ?_⟩
  · obtain ⟨-, s', hs', h⟩ | ⟨-, hnone⟩ := ofList?_cases bs
    · obtain rfl := Option.some_inj.1 (hs.symm.trans hs')
      exact ⟨h.toNat_total hlength, h.toNat_complete hlength,
        h.toNat_complete_add_incomplete hlength, h.toNat_violations hlength,
        h.toNat_gaps_add_violations hlength, h.toNat_channel hlength, h.last, h.skipped⟩
    · cases hs.symm.trans hnone
  · obtain ⟨hfits, s, hs, -⟩ | ⟨hfull, hnone⟩ := ofList?_cases bs
    · exact iff_of_true ⟨s, hs⟩ hfits
    · rw [hnone]
      simpa using hfull
  · obtain ⟨s, hs, h⟩ := exists_ofList? hascending
    refine ⟨s, hs, h.violations_eq_zero hascending, fun hnear first last hfirst hlast => ?_⟩
    have hexact := (leftOutOf_ascending hascending hfirst hlast).2 hnear
    have hskipped : s.skipped.toNat = leftOutOf bs := h.skipped
    omega

/-- Of four bundles two do not lead on from the one before.  Three others lead on from one end of
the range to the other. -/
theorem totals_exact_both_ways :
    let pair : ChannelMap Unit := .ofList [("a", ()), ("b", ())]
    let single : ChannelMap Unit := .ofList [("a", ())]
    let bs : List (Bundle Unit) := [⟨1, pair, 2⟩, ⟨4, single, 2⟩, ⟨4, pair, 2⟩, ⟨-9, single, 0⟩]
    let cs : List (Bundle Unit) :=
      [⟨Int64.minValue, pair, 2⟩, ⟨-1, pair, 2⟩, ⟨9223372036854775806, pair, 2⟩]
    (∃ s, ofList? bs = some s ∧ s.total.toNat = 4 ∧ s.complete.toNat = 3 ∧
      s.violations.toNat = 2 ∧ s.gaps.count.toNat = 1 ∧
      (s.channels.get? "b").map UInt64.toNat = some 2 ∧
      (s.channels.get? "c").map UInt64.toNat = none ∧ s.last? = some (-9) ∧
      s.skipped.toNat = 2) ∧
    ∃ s, ofList? cs = some s ∧ s.skipped.toNat = 18446744073709551612 := by
  intro pair single bs cs
  obtain ⟨htotals, hexists, -⟩ := @totals_exact Unit bs (by decide)
  obtain ⟨s, hs⟩ := hexists.2 (by decide)
  obtain ⟨htotal, hcomplete, -, hviolations, hgaps, hchannels, hlast, hskipped⟩ := htotals s hs
  obtain ⟨-, -, hascending⟩ := @totals_exact Unit cs (by decide)
  obtain ⟨s', hs', -, hleft⟩ := hascending (by decide)
  have hsteps : steps cs = [(Int64.minValue, -1), (-1, 9223372036854775806)] := rfl
  have hnear : ∀ e ∈ steps cs, e.2.toInt - e.1.toInt ≤ Int64.maxValue.toInt := by
    rw [hsteps, List.forall_mem_cons, List.forall_mem_singleton]
    exact ⟨by decide, by decide⟩
  have hbetween := hleft hnear _ _ rfl rfl
  refine ⟨⟨s, hs, htotal, hcomplete, hviolations, ?_, (hchannels "b").trans (by decide),
    (hchannels "c").trans (by decide), hlast, hskipped.trans (by decide)⟩, s', hs', ?_⟩
  · rw [hviolations] at hgaps
    exact Nat.add_right_cancel hgaps
  · exact Int.ofNat.inj (hbetween.trans (by decide))

/-- The range of ids is swept once and almost a second time.  There is room for the pulses left out
of either sweep, but not for those of both. -/
theorem two_sweeps_uncounted :
    let bundle (p : PulseId) : Bundle Unit := ⟨p, .ofList [("A", ())], 1⟩
    let bs := [Int64.minValue, Int64.maxValue, Int64.minValue, -1, 4].map bundle
    bs.length < UInt64.size ∧ ¬ ∃ s, ofList? bs = some s ∧ s.total.toNat = bs.length := by
  intro bundle bs
  refine ⟨by decide, ?_⟩
  rintro ⟨s, hs, -⟩
  obtain ⟨hfits, -⟩ | ⟨-, hnone⟩ := ofList?_cases bs
  · exact absurd hfits (by decide)
  · cases hs.symm.trans hnone

end PulseJoin.BundleStats
