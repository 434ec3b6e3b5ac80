import Mathlib
import PulseJoin.Proofs.Random.Choice
import PulseJoin.Proofs.Watermarks
import PulseJoin.Replay

/-!
# What plans hold

Every producer has a plan, which keeps or counts each pulse its channel is expected on
(`exists_plan?`), whatever the stream of random numbers.  So has a whole setup (`exists_plans?`).
-/

namespace PulseJoin

/-- On how many of `count` pulses from `start` on a channel is expected; no pulse is beyond the end
of the range. -/
def Schedule.expectedFrom (s : Schedule) (start : PulseId) (count : Nat) : Nat :=
  (List.range count).countP fun n : Nat =>
    start.toInt + n ≤ Int64.maxValue.toInt ∧ s.expects (.ofInt (start.toInt + n))

theorem PulseId.add?_ofNat (start : PulseId) {n : Nat} (hn : n < 2 ^ 63) :
    PulseId.add? start (.ofNat n) =
      if n < start.room then some (.ofInt (start.toInt + n)) else none := by
  have hcast : (Int64.ofNat n).toInt = n := Int64.toInt_ofNat_of_lt hn
  have hlow := start.minValue_le_toInt
  have hmin := Int64.toInt_minValue
  rw [PulseId.add?, PulseId.ofInt?, hcast]
  refine if_congr ?_ rfl rfl
  rw [PulseId.lt_room_iff]
  exact and_iff_right (by omega)

namespace Replay

open PulseJoin.Random

/-- A plan that keeps or counts each of `count` pulses from `start` on that a channel is expected
on. -/
structure Plan.Covers (plan : Plan) (s : Schedule) (start : PulseId) (count : Nat) : Prop where
  once : plan.pulses.Nodup
  expected : ∀ p ∈ plan.pulses, s.expects p = true
  within : ∀ p ∈ plan.pulses, start ≤ p ∧ p.toInt < start.toInt + count
  total : plan.pulses.length + plan.dropped.toNat = s.expectedFrom start count

/-! ## Pulses -/

section Pulses

variable {start p : PulseId} {count : Nat}

theorem toList_pulsesAt {offset n : Nat} (hn : offset + n ≤ 2 ^ 63) (found : Array PulseId) :
    (pulsesAt start offset n found).toList = found.toList ++
      (List.range' offset (min n (start.room - offset))).map
        fun k : Nat => .ofInt (start.toInt + k) := by
  induction n generalizing offset found with
  | zero => simp [pulsesAt]
  | succ n ih =>
    rw [pulsesAt, PulseId.add?_ofNat start (by omega)]
    by_cases hroom : offset < start.room
    · have hlength : min (n + 1) (start.room - offset) =
          min n (start.room - (offset + 1)) + 1 := by omega
      rw [if_pos hroom, hlength, List.range'_succ, List.map_cons]
      dsimp only
      rw [ih (by omega), Array.toList_push, List.append_assoc, List.singleton_append]
    · have hlength : min (n + 1) (start.room - offset) = 0 := by omega
      rw [if_neg hroom, hlength]
      simp

/-- Up to `2 ^ 63` pulses the offsets are not negative, and only the end of the range cuts them
off. -/
theorem pulsesFrom_eq_stretch (start : PulseId) (hcount : count ≤ 2 ^ 63) :
    pulsesFrom start count = start.stretch (min count start.room) := by
  rw [pulsesFrom, toList_pulsesAt (by omega), PulseId.stretch, List.range_eq_range']
  simp

theorem pulsesFrom_ascending (start : PulseId) (hcount : count ≤ 2 ^ 63) :
    (pulsesFrom start count).Pairwise (· < ·) := by
  rw [pulsesFrom_eq_stretch start hcount]
  exact PulseId.stretch_ascending (Nat.min_le_right _ _)

theorem mem_pulsesFrom (hcount : count ≤ 2 ^ 63) :
    p ∈ pulsesFrom start count ↔ start ≤ p ∧ p.toInt < start.toInt + count := by
  rw [pulsesFrom_eq_stretch start hcount, PulseId.mem_stretch (Nat.min_le_right _ _)]
  refine and_congr_right fun _ => ?_
  have hmax := p.toInt_le
  unfold PulseId.room
  omega

theorem countP_range_lt (q : Nat → Bool) (count room : Nat) :
    (List.range count).countP (fun n => decide (n < room) && q n) =
      (List.range (min count room)).countP q := by
  induction count with
  | zero => simp
  | succ count ih =>
    rw [List.range_succ, List.countP_append, ih]
    by_cases hroom : count < room
    · have hmin : min (count + 1) room = min count room + 1 := by omega
      have hlast : min count room = count := by omega
      rw [hmin, List.range_succ, List.countP_append, hlast]
      simp [hroom]
    · have hmin : min (count + 1) room = min count room := by omega
      rw [hmin]
      simp [hroom]

theorem length_filter_pulsesFrom (s : Schedule) (start : PulseId) (hcount : count ≤ 2 ^ 63) :
    ((pulsesFrom start count).filter s.expects).length = s.expectedFrom start count := by
  unfold Schedule.expectedFrom
  rw [pulsesFrom_eq_stretch start hcount, PulseId.stretch, ← List.countP_eq_length_filter,
    List.countP_map, ← countP_range_lt]
  refine List.countP_congr fun n _ => ?_
  simp only [Function.comp_apply, Bool.and_eq_true, decide_eq_true_eq]
  exact and_congr_left fun _ => PulseId.lt_room_iff

end Pulses

/-! ## Keeping and dropping -/

theorem exists_foldl_add (chance : Chance) (pulses : List PulseId) (s : Sieve) :
    ∃ kept n, (pulses.foldl (fun s p => s.add chance p) s).kept.toList = s.kept.toList ++ kept ∧
      (pulses.foldl (fun s p => s.add chance p) s).dropped = s.dropped + .ofNat n ∧
      kept.Sublist pulses ∧ kept.length + n = pulses.length ∧ (chance = .never → n = 0) := by
  induction pulses generalizing s with
  | nil => exact ⟨[], 0, by simp, (UInt64.add_zero _).symm, .slnil, rfl, fun _ => rfl⟩
  | cons p pulses ih =>
    obtain ⟨kept, n, hkept, hdropped, hsublist, hlength, hnever⟩ := ih (s.add chance p)
    rw [List.foldl_cons]
    by_cases hhappens : (s.stream.happens chance).1 = true
    · have hadd : s.add chance p =
          { s with stream := (s.stream.happens chance).2, dropped := s.dropped + 1 } := by
        unfold Sieve.add
        exact if_pos hhappens
      refine ⟨kept, n + 1, ?_, ?_, hsublist.cons p, ?_, ?_⟩
      · rw [hkept, hadd]
      · rw [hdropped, hadd, UInt64.ofNat_add, UInt64.add_assoc, UInt64.add_comm 1]
        rfl
      · rw [List.length_cons]
        omega
      · rintro rfl
        cases hhappens
    · have hadd : s.add chance p =
          { s with stream := (s.stream.happens chance).2, kept := s.kept.push p } := by
        unfold Sieve.add
        exact if_neg hhappens
      refine ⟨p :: kept, n, ?_, ?_, hsublist.cons_cons p, ?_, hnever⟩
      · rw [hkept, hadd]
        simp
      · rw [hdropped, hadd]
      · rw [List.length_cons, List.length_cons]
        omega

/-- A plan that emits `kept` of some pulses, in their order but for that within windows, and counts
the other `n`. -/
structure Plan.Keeps (plan : Plan) (window : Nat) (kept : List PulseId) (n : Nat) : Prop where
  perm : plan.pulses.Perm kept
  ordered : window ≤ 1 → plan.pulses = kept
  blocks : SameBlocks window plan.pulses kept
  dropped : plan.dropped = .ofNat n

/-- A plan keeps a part of the pulses and counts the others. -/
theorem exists_planOf (chance : Chance) (window : Nat) (stream : Stream) (pulses : List PulseId) :
    ∃ kept n, (planOf chance window stream pulses).Keeps window kept n ∧ kept.Sublist pulses ∧
      kept.length + n = pulses.length ∧ (chance = .never → n = 0) := by
  obtain ⟨kept, n, hkept, hdropped, hsublist, hlength, hnever⟩ :=
    exists_foldl_add chance pulses { stream }
  rw [List.nil_append] at hkept
  rw [UInt64.zero_add] at hdropped
  refine ⟨kept, n, ?_, hsublist, hlength, hnever⟩
  unfold planOf
  dsimp only
  rw [hkept]
  by_cases hwindow : 1 < window
  · obtain ⟨hperm, hblocks⟩ := Stream.shuffleBlocks_keeps
      (pulses.foldl (fun s p => s.add chance p) { stream : Sieve }).stream window kept
    rw [if_pos hwindow]
    exact ⟨hperm, fun hle => absurd hwindow (Nat.not_lt.2 hle), hblocks, hdropped⟩
  · rw [if_neg hwindow]
    exact ⟨.refl _, fun _ => rfl, .refl _ _, hdropped⟩

/-! ## Plans -/

/-- A plan covers the pulses a channel is expected on, whatever is dropped and however the rest is
shuffled. -/
theorem covers_planOf (s : Schedule) (start : PulseId) {count : Nat} (hcount : count ≤ 2 ^ 63)
    (chance : Chance) (window : Nat) (stream : Stream) :
    (planOf chance window stream ((pulsesFrom start count).filter s.expects)).Covers s start
      count := by
  obtain ⟨kept, n, hkeeps, hsublist, hlength, -⟩ := exists_planOf chance window stream
    ((pulsesFrom start count).filter s.expects)
  have hmem {p : PulseId} (hp : p ∈ (planOf chance window stream
      ((pulsesFrom start count).filter s.expects)).pulses) :
      p ∈ pulsesFrom start count ∧ s.expects p = true :=
    List.mem_filter.1 (hsublist.subset (hkeeps.perm.subset hp))
  have hfew : ((pulsesFrom start count).filter s.expects).length ≤ count := by
    rw [length_filter_pulsesFrom s start hcount]
    exact Nat.le_trans List.countP_le_length (by simp)
  have honce : (pulsesFrom start count).Nodup :=
    (pulsesFrom_ascending start hcount).imp fun {p q} hlt => by grind
  refine ⟨?_, fun p hp => (hmem hp).2, fun p hp => (mem_pulsesFrom hcount).1 (hmem hp).1, ?_⟩
  · exact hkeeps.perm.nodup_iff.2 ((honce.filter _).sublist hsublist)
  · rw [hkeeps.dropped, UInt64.toNat_ofNat_of_lt' (by show n < 2 ^ 64; omega),
      hkeeps.perm.length_eq, hlength, length_filter_pulsesFrom s start hcount]

theorem plan?_eq {s : Schedule} (hperiod : s.period ≠ 0) {rate : Float} {chance : Chance}
    (hchance : Chance.ofFloat? rate = some chance) (start : PulseId) (count window seed : UInt64) :
    plan? s start count rate window seed = some (planOf chance window.toNat (.ofSeed seed)
      ((pulsesFrom start count.toNat).filter s.expects)) := by
  rw [plan?, if_neg hperiod, hchance]

/-- Each channel has a plan that covers the pulses it is expected on. -/
theorem exists_plan? {s : Schedule} (hperiod : s.period ≠ 0) {count : UInt64}
    (hcount : count.toNat ≤ 2 ^ 63) {rate : Float} (hrate : rate ≤ 1) (start : PulseId)
    (window seed : UInt64) :
    ∃ plan, plan? s start count rate window seed = some plan ∧
      plan.Covers s start count.toNat := by
  obtain ⟨chance, hchance⟩ := Chance.exists_ofFloat? hrate
  exact ⟨_, plan?_eq hperiod hchance start count window seed,
    covers_planOf s start hcount chance _ _⟩

/-! ## The plans of a setup -/

/-- The plans of all channels, each with its name; each channel has a seed of its own. -/
def Setup.plans? (r : Setup) : Option (List (String × Plan)) :=
  r.config.channels.zipIdx.mapM fun (s, i) => do
    return (s.name, ← plan? s r.start r.pulses r.dropRate r.window (r.seed + .ofNat i))

theorem producers?_eq (r : Setup) :
    producers? r = r.plans?.map fun plans =>
      (plans.map fun (name, plan) => ⟨name, plan.pulses⟩,
        plans.foldl (fun n (_, plan) => n + plan.dropped) 0) := by
  unfold producers? Setup.plans?
  rw [Option.map_eq_bind]
  rfl

theorem exists_mapM_zipIdx {β γ : Type} {f : β × Nat → Option γ} {R : β → γ → Prop} {xs : List β}
    (h : ∀ x ∈ xs, ∀ i, ∃ y, f (x, i) = some y ∧ R x y) (first : Nat) :
    ∃ ys, (xs.zipIdx first).mapM f = some ys ∧ List.Forall₂ R xs ys := by
  induction xs generalizing first with
  | nil => exact ⟨[], rfl, .nil⟩
  | cons x xs ih =>
    obtain ⟨y, hy, hR⟩ := h x (.head _) first
    obtain ⟨ys, hys, hall⟩ := ih (fun x' hx' => h x' (.tail _ hx')) (first + 1)
    refine ⟨y :: ys, ?_, .cons hR hall⟩
    rw [List.zipIdx_cons, List.mapM_cons, hy, hys]
    rfl

theorem exists_plans? {r : Setup} (hperiods : ∀ s ∈ r.config.channels, s.period ≠ 0)
    (hpulses : r.pulses.toNat ≤ 2 ^ 63) (hrate : r.dropRate ≤ 1) :
    ∃ plans, r.plans? = some plans ∧
      List.Forall₂ (fun s q => q.1 = s.name ∧ q.2.Covers s r.start r.pulses.toNat)
        r.config.channels plans := by
  refine exists_mapM_zipIdx (fun s hs i => ?_) 0
  obtain ⟨plan, hplan, hcovers⟩ :=
    exists_plan? (hperiods s hs) hpulses hrate r.start r.window (r.seed + .ofNat i)
  refine ⟨(s.name, plan), ?_, rfl, hcovers⟩
  dsimp only
  rw [hplan]
  rfl

section Plans

variable {schedules : List Schedule} {plans : List (String × Plan)} {start : PulseId} {count : Nat}
  (h : List.Forall₂ (fun s q => q.1 = s.name ∧ q.2.Covers s start count) schedules plans)

include h

theorem names_of_plans : plans.map (·.1) = schedules.map (·.name) := by
  induction h with
  | nil => rfl
  | cons hfirst _ ih => rw [List.map_cons, List.map_cons, hfirst.1, ih]

theorem total_of_plans :
    (plans.map fun q => q.2.pulses.length + q.2.dropped.toNat).sum =
      (schedules.map (·.expectedFrom start count)).sum := by
  induction h with
  | nil => rfl
  | cons hfirst _ ih =>
    rw [List.map_cons, List.map_cons, List.sum_cons, List.sum_cons, hfirst.2.total, ih]

theorem schedule_of_plan {q : String × Plan} (hq : q ∈ plans) :
    ∃ s ∈ schedules, q.1 = s.name ∧ q.2.Covers s start count := by
  induction h with
  | nil => cases hq
  | cons hfirst _ ih =>
    rcases List.mem_cons.1 hq with rfl | hlater
    · exact ⟨_, .head _, hfirst⟩
    · obtain ⟨s, hs, hcovers⟩ := ih hlater
      exact ⟨s, .tail _ hs, hcovers⟩

theorem values_nodup_of_plans (hnames : (schedules.map (·.name)).Nodup) :
    (plans.flatMap fun q => q.2.pulses.map fun p => (q.1, p)).Nodup := by
  rw [List.nodup_flatMap]
  constructor
  · intro q hq
    obtain ⟨s, -, -, hcovers⟩ := schedule_of_plan h hq
    exact hcovers.once.map fun p p' heq => congrArg Prod.snd heq
  · rw [← names_of_plans h] at hnames
    refine (List.pairwise_map.1 hnames).imp fun {q q'} hne e he he' => ?_
    obtain ⟨p, -, rfl⟩ := List.mem_map.1 he
    obtain ⟨p', -, heq⟩ := List.mem_map.1 he'
    exact hne (congrArg Prod.fst heq).symm

end Plans

end Replay

end PulseJoin
