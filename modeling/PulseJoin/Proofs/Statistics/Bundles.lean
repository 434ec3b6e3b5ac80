import PulseJoin.Proofs.SortedMap
import PulseJoin.Proofs.Watermarks
import PulseJoin.Statistics.Bundles

/-!
# What the statistics of bundles say

The statistics count the bundles, those of each channel, the steps from one bundle to the next that
lead on and those that do not, and the pulses left out between them (`Tells`).  They exist exactly
as long as the pulses left out can be counted (`ofList?_cases`).  For bundles in ascending order of
pulses that is always so: what is left out lies between the first pulse and the last.
-/

namespace PulseJoin

variable {α : Type}

namespace PulseId

theorem toInt_saturatingSub (p q : PulseId) : (saturatingSub p q).toInt =
    max Int64.minValue.toInt (min (p.toInt - q.toInt) Int64.maxValue.toInt) := by
  have hmin := Int64.toInt_minValue
  have hmax := Int64.toInt_maxValue
  unfold saturatingSub clamp
  split
  · omega
  · split
    · omega
    · rw [Int64.toInt_ofInt_of_le (by omega) (by omega)]
      omega

theorem saturatingSub_le_zero_iff {p q : PulseId} : saturatingSub p q ≤ 0 ↔ p ≤ q := by
  have hzero : (0 : Int64).toInt = 0 := by decide
  have hmin := Int64.toInt_minValue
  have hmax := Int64.toInt_maxValue
  rw [Int64.le_iff_toInt_le, Int64.le_iff_toInt_le, toInt_saturatingSub, hzero]
  omega

theorem toNat_sub_one {gap : Int64} (h : 0 < gap) :
    ((gap - 1).toUInt64.toNat : Int) = gap.toInt - 1 := by
  rw [Int64.lt_iff_toInt_lt] at h
  have hzero : (0 : Int64).toInt = 0 := by decide
  have hone : (1 : Int64).toInt = 1 := by decide
  have hmin := Int64.toInt_minValue
  have hmax := Int64.toInt_maxValue
  have hhigh := gap.toInt_le
  have hsub : (gap - 1).toInt = gap.toInt - 1 := by
    rw [Int64.toInt_sub, hone]
    exact Int.bmod_eq_of_le (by omega) (by omega)
  have hnonneg : 0 ≤ gap - 1 := by
    rw [Int64.le_iff_toInt_le, hsub]
    omega
  rw [Int64.toNat_toUInt64_of_le hnonneg, Int64.toNatClampNeg, hsub]
  omega

end PulseId

theorem RunningStats.count_push (s : RunningStats) (x : Float) :
    (s.push x).count = s.count + 1 := by
  unfold push
  dsimp only
  split <;> rfl

theorem Count.ofNat_countP_concat {β : Type} (q : β → Bool) (xs : List β) (x : β) :
    UInt64.ofNat ((xs ++ [x]).countP q) = .ofNat (xs.countP q) + if q x then 1 else 0 := by
  rw [List.countP_append, UInt64.ofNat_add, List.countP_singleton]
  split <;> rfl

namespace BundleStats

variable {s : BundleStats} {bs : List (Bundle α)} {b : Bundle α} {p last : PulseId}

/-! ## Channels -/

theorem get?_foldl_countChannel (channels : List String) (counts : ChannelMap UInt64)
    (channel : String) :
    ((channels.foldl countChannel counts).get? channel).getD 0 =
      (counts.get? channel).getD 0 + .ofNat (channels.count channel) := by
  induction channels generalizing counts with
  | nil => exact (UInt64.add_zero _).symm
  | cons first rest ih =>
    rw [List.foldl_cons, ih]
    unfold countChannel SortedMap.alter
    rw [SortedMap.get?_insert, List.count_cons]
    by_cases hfirst : channel = first
    · subst hfirst
      rw [if_pos rfl, if_pos (beq_self_eq_true _), UInt64.ofNat_add, UInt64.add_comm (.ofNat _),
        ← UInt64.add_assoc]
      rfl
    · rw [if_neg hfirst, if_neg (by simpa using Ne.symm hfirst)]
      rfl

theorem contains_foldl_countChannel {channels : List String} {counts : ChannelMap UInt64}
    {channel : String} : (channels.foldl countChannel counts).contains channel = true ↔
      counts.contains channel = true ∨ channel ∈ channels := by
  induction channels generalizing counts with
  | nil => simp
  | cons first rest ih =>
    rw [List.foldl_cons, ih, List.mem_cons, ← or_assoc]
    unfold countChannel SortedMap.alter SortedMap.contains
    rw [SortedMap.get?_insert]
    by_cases hfirst : channel = first <;> simp [hfirst]

/-! ## Steps -/

def steps (bs : List (Bundle α)) : List (PulseId × PulseId) :=
  (bs.map (·.pulse)).zip (bs.map (·.pulse)).tail

/-- How many pulses are left out of a step, where distances are held at the end of the range.  A
step that does not lead on leaves out none. -/
def leftOut (e : PulseId × PulseId) : Nat :=
  (min (e.2.toInt - e.1.toInt) Int64.maxValue.toInt - 1).toNat

theorem sum_leftOut_concat (es : List (PulseId × PulseId)) (e : PulseId × PulseId) :
    ((es ++ [e]).map leftOut).sum = (es.map leftOut).sum + leftOut e := by
  rw [List.map_append, List.sum_append, List.map_singleton, List.sum_singleton]

theorem zip_tail_concat (ps : List PulseId) (q : PulseId) :
    (ps ++ [q]).zip (ps ++ [q]).tail = ps.zip ps.tail ++ (ps.getLast?.map (·, q)).toList := by
  induction ps with
  | nil => rfl
  | cons p ps ih =>
    cases ps with
    | nil => rfl
    | cons p' ps =>
      rw [List.getLast?_cons_cons]
      exact congrArg ((p, p') :: ·) ih

theorem steps_concat (bs : List (Bundle α)) (b : Bundle α) : steps (bs ++ [b]) =
    steps bs ++ (bs.getLast?.map fun a => (a.pulse, b.pulse)).toList := by
  unfold steps
  rw [List.map_append, List.map_singleton, zip_tail_concat, List.getLast?_map, Option.map_map]
  rfl

theorem length_steps (bs : List (Bundle α)) : (steps bs).length = bs.length - 1 := by
  simp [steps]

/-- What the statistics say of the steps from one bundle to the next. -/
structure Walks (s : BundleStats) (es : List (PulseId × PulseId)) : Prop where
  violations : s.violations = .ofNat (es.countP fun e => e.2 ≤ e.1)
  gaps : s.gaps.count = .ofNat (es.countP fun e => e.1 < e.2)
  skipped : s.skipped.toNat = (es.map leftOut).sum

theorem toNat_gap (h : last < p) :
    (PulseId.saturatingSub p last - 1).toUInt64.toNat = leftOut (last, p) := by
  have hpos : 0 < PulseId.saturatingSub p last :=
    Int64.not_le.1 fun hle => Int64.not_le.2 h (PulseId.saturatingSub_le_zero_iff.1 hle)
  have hbetween := PulseId.toNat_sub_one hpos
  rw [PulseId.toInt_saturatingSub] at hbetween
  rw [Int64.lt_iff_toInt_lt] at h
  have hmin := Int64.toInt_minValue
  have hmax := Int64.toInt_maxValue
  unfold leftOut
  dsimp only
  omega

theorem leftOut_of_le (h : p ≤ last) : leftOut (last, p) = 0 := by
  rw [Int64.le_iff_toInt_le] at h
  unfold leftOut
  dsimp only
  omega

theorem addGap?_of_le (hlast : s.last? = some last) (h : p ≤ last) :
    s.addGap? p = some { s with violations := s.violations + 1 } := by
  unfold addGap?
  rw [hlast]
  exact if_pos (PulseId.saturatingSub_le_zero_iff.2 h)

theorem addGap?_of_lt (hlast : s.last? = some last) (h : last < p) :
    s.addGap? p = (Count.add? s.skipped (.ofNat (leftOut (last, p)))).map fun skipped =>
      { s with gaps := s.gaps.push (PulseId.saturatingSub p last).toFloat, skipped } := by
  have hgap : (PulseId.saturatingSub p last - 1).toUInt64 = .ofNat (leftOut (last, p)) := by
    rw [← toNat_gap h, UInt64.ofNat_toNat]
  unfold addGap?
  rw [hlast]
  dsimp only
  rw [if_neg fun hle => Int64.not_le.2 h (PulseId.saturatingSub_le_zero_iff.1 hle), hgap,
    Option.map_eq_bind]
  rfl

theorem addGap?_frame {s' : BundleStats} (h : s.addGap? p = some s') :
    s'.total = s.total ∧ s'.complete = s.complete ∧ s'.incomplete = s.incomplete ∧
      s'.channels = s.channels := by
  cases hlast : s.last? with
  | none =>
    unfold addGap? at h
    rw [hlast] at h
    cases h
    exact ⟨rfl, rfl, rfl, rfl⟩
  | some last =>
    by_cases hle : p ≤ last
    · rw [addGap?_of_le hlast hle] at h
      cases h
      exact ⟨rfl, rfl, rfl, rfl⟩
    · rw [addGap?_of_lt hlast (Int64.not_le.1 hle)] at h
      obtain ⟨skipped, -, rfl⟩ := Option.map_eq_some_iff.1 h
      exact ⟨rfl, rfl, rfl, rfl⟩

theorem Walks.of_le {es : List (PulseId × PulseId)} (h : s.Walks es) (hle : p ≤ last) :
    Walks { s with violations := s.violations + 1 } (es ++ [(last, p)]) where
  violations := by
    rw [h.violations, Count.ofNat_countP_concat, if_pos (decide_eq_true hle)]
  gaps := by
    rw [h.gaps, Count.ofNat_countP_concat, if_neg (by simpa using Int64.not_lt.2 hle),
      UInt64.add_zero]
  skipped := by rw [h.skipped, sum_leftOut_concat, leftOut_of_le hle, Nat.add_zero]

theorem Walks.of_lt {es : List (PulseId × PulseId)} (h : s.Walks es) (hlt : last < p)
    {skipped : UInt64} (hskipped : s.skipped.toNat + leftOut (last, p) = skipped.toNat)
    (x : Float) : Walks { s with gaps := s.gaps.push x, skipped } (es ++ [(last, p)]) where
  violations := by
    rw [h.violations, Count.ofNat_countP_concat, if_neg (by simpa using Int64.not_le.2 hlt),
      UInt64.add_zero]
  gaps := by
    rw [RunningStats.count_push, h.gaps, Count.ofNat_countP_concat, if_pos (decide_eq_true hlt)]
  skipped := by rw [← hskipped, h.skipped, sum_leftOut_concat]

theorem Walks.addGap? {es : List (PulseId × PulseId)} (h : s.Walks es) (p : PulseId) :
    let walked := es ++ (s.last?.map (·, p)).toList
    (walked.map leftOut).sum < UInt64.size ∧ (∃ s', s.addGap? p = some s' ∧ s'.Walks walked) ∨
      UInt64.size ≤ (walked.map leftOut).sum ∧ s.addGap? p = none := by
  intro walked
  cases hlast : s.last? with
  | none =>
    have hsame : walked = es := by simp [walked, hlast]
    have hstep : s.addGap? p = some s := by
      unfold BundleStats.addGap?
      rw [hlast]
    rw [hsame]
    exact .inl ⟨h.skipped ▸ s.skipped.toNat_lt_size, s, hstep, h⟩
  | some last =>
    have hwalked : walked = es ++ [(last, p)] := by simp [walked, hlast]
    have hsum : (walked.map leftOut).sum = s.skipped.toNat + leftOut (last, p) := by
      rw [hwalked, h.skipped, sum_leftOut_concat]
    rw [hsum, hwalked]
    by_cases hle : p ≤ last
    · rw [leftOut_of_le hle]
      exact .inl ⟨s.skipped.toNat_lt_size, _, addGap?_of_le hlast hle, h.of_le hle⟩
    · have hlt := Int64.not_le.1 hle
      have hleft : (UInt64.ofNat (leftOut (last, p))).toNat = leftOut (last, p) := by
        rw [← toNat_gap hlt, UInt64.ofNat_toNat]
      rw [addGap?_of_lt hlast hlt]
      -- The checked sum fails exactly where the total is no 64-bit number.
      cases hadd : Count.add? s.skipped (.ofNat (leftOut (last, p))) with
      | none =>
        have hsum := Count.add?_eq_none_iff.1 hadd
        rw [hleft] at hsum
        exact .inr ⟨hsum, rfl⟩
      | some skipped =>
        have hsum := Count.add?_eq_some_iff.1 hadd
        rw [hleft] at hsum
        exact .inl ⟨hsum ▸ skipped.toNat_lt_size, _, rfl, h.of_lt hlt hsum _⟩

/-! ## Bundles -/

/-- How many pulses are left out between bundles. -/
def leftOutOf (bs : List (Bundle α)) : Nat := ((steps bs).map leftOut).sum

/-- What the statistics say of bundles. -/
structure Tells (s : BundleStats) (bs : List (Bundle α)) : Prop extends Walks s (steps bs) where
  total : s.total = .ofNat bs.length
  complete : s.complete = .ofNat (bs.countP (·.isComplete))
  incomplete : s.incomplete = .ofNat (bs.countP (!·.isComplete))
  channels : ∀ channel, (s.channels.get? channel).getD 0 =
    .ofNat (bs.countP fun b => channel ∈ b.channels)
  listed : ∀ channel, s.channels.contains channel = true ↔ ∃ b ∈ bs, channel ∈ b.channels
  last : s.last? = bs.getLast?.map (·.pulse)

theorem tells_nil : ({} : BundleStats).Tells ([] : List (Bundle α)) where
  violations := rfl
  gaps := rfl
  skipped := rfl
  total := rfl
  complete := rfl
  incomplete := rfl
  channels _ := rfl
  listed _ := by simp [SortedMap.contains]
  last := rfl

/-- The counts with one more bundle, but for its distance and its channels. -/
def withBundle (s : BundleStats) (b : Bundle α) : BundleStats :=
  { s with
    total := s.total + 1
    complete := if b.isComplete then s.complete + 1 else s.complete
    incomplete := if b.isComplete then s.incomplete else s.incomplete + 1
    fill := s.fill.push b.fillRatio }

theorem add?_eq (s : BundleStats) (b : Bundle α) :
    s.add? b = ((s.withBundle b).addGap? b.pulse).map fun s' =>
      { s' with last? := some b.pulse, channels := b.channels.foldl countChannel s'.channels } := by
  unfold add? withBundle
  rw [Option.map_eq_bind]
  rfl

theorem Tells.counted (h : s.Tells bs) {s' : BundleStats}
    (hgap : (s.withBundle b).addGap? b.pulse = some s') (hwalked : s'.Walks (steps (bs ++ [b]))) :
    Tells { s' with
      last? := some b.pulse
      channels := b.channels.foldl countChannel s'.channels } (bs ++ [b]) := by
  obtain ⟨htotal, hcomplete, hincomplete, hchannels⟩ := addGap?_frame hgap
  exact {
    violations := hwalked.violations
    gaps := hwalked.gaps
    skipped := hwalked.skipped
    total := by
      rw [htotal, List.length_append, UInt64.ofNat_add, ← h.total]
      rfl
    complete := by
      rw [hcomplete, Count.ofNat_countP_concat, ← h.complete]
      unfold withBundle
      cases b.isComplete
      · exact (UInt64.add_zero _).symm
      · rfl
    incomplete := by
      rw [hincomplete, Count.ofNat_countP_concat, ← h.incomplete]
      unfold withBundle
      cases b.isComplete
      · rfl
      · exact (UInt64.add_zero _).symm
    channels := fun channel => by
      -- A bundle has each of its channels once.
      have hcount : b.channels.count channel = if channel ∈ b.channels then 1 else 0 :=
        b.values.keys_nodup.count
      rw [get?_foldl_countChannel, hchannels, Count.ofNat_countP_concat, ← h.channels, hcount]
      simp only [decide_eq_true_eq]
      split <;> rfl
    listed := fun channel => by
      rw [contains_foldl_countChannel, hchannels]
      show s.channels.contains channel = true ∨ _ ↔ _
      rw [h.listed]
      simp [or_and_right, exists_or]
    last := by
      rw [List.getLast?_concat]
      rfl }

theorem Tells.add? (h : s.Tells bs) (b : Bundle α) :
    leftOutOf (bs ++ [b]) < UInt64.size ∧ (∃ s', s.add? b = some s' ∧ s'.Tells (bs ++ [b])) ∨
      UInt64.size ≤ leftOutOf (bs ++ [b]) ∧ s.add? b = none := by
  have hwalks : (s.withBundle b).Walks (steps bs) := ⟨h.violations, h.gaps, h.skipped⟩
  have hsteps : steps bs ++ ((s.withBundle b).last?.map (·, b.pulse)).toList =
      steps (bs ++ [b]) := by
    rw [steps_concat]
    show _ ++ (s.last?.map _).toList = _
    rw [h.last, Option.map_map]
    rfl
  have hstep := hwalks.addGap? b.pulse
  rw [hsteps] at hstep
  rw [add?_eq]
  obtain ⟨hfits, s', hgap, hwalked⟩ | ⟨hfull, hgap⟩ := hstep
  · rw [hgap]
    exact .inl ⟨hfits, _, rfl, h.counted hgap hwalked⟩
  · rw [hgap]
    exact .inr ⟨hfull, rfl⟩

theorem ofList?_concat (bs : List (Bundle α)) (b : Bundle α) :
    ofList? (bs ++ [b]) = (ofList? bs).bind (·.add? b) := by
  unfold ofList?
  rw [List.foldlM_append]
  refine Option.bind_congr fun s _ => ?_
  show (s.add? b >>= pure) = _
  cases s.add? b <;> rfl

theorem leftOutOf_concat (bs : List (Bundle α)) (b : Bundle α) :
    leftOutOf (bs ++ [b]) =
      leftOutOf bs + (bs.getLast?.map fun a => leftOut (a.pulse, b.pulse)).getD 0 := by
  unfold leftOutOf
  rw [steps_concat, List.map_append, List.sum_append]
  cases bs.getLast? <;> simp

/-- Bundles have statistics, which tell what there is to tell, unless too many pulses are left out
between them. -/
theorem ofList?_cases (bs : List (Bundle α)) :
    leftOutOf bs < UInt64.size ∧ (∃ s, ofList? bs = some s ∧ s.Tells bs) ∨
      UInt64.size ≤ leftOutOf bs ∧ ofList? bs = none := by
  induction bs using List.reverseRecOn with
  | nil => exact .inl ⟨(by decide : 0 < UInt64.size), _, rfl, tells_nil⟩
  | append_singleton bs b ih =>
    rw [ofList?_concat]
    obtain ⟨-, s, hs, htells⟩ | ⟨hfull, hnone⟩ := ih
    · rw [hs]
      exact htells.add? b
    · rw [hnone]
      refine .inr ⟨hfull.trans ?_, rfl⟩
      rw [leftOutOf_concat]
      exact Nat.le_add_right ..

/-! ## Ascending bundles -/

theorem leftOutOf_ascending (h : bs.Pairwise fun b b' => b.pulse < b'.pulse)
    {first last : Bundle α} (hfirst : bs.head? = some first) (hlast : bs.getLast? = some last) :
    (leftOutOf bs : Int) + bs.length ≤ last.pulse.toInt - first.pulse.toInt + 1 ∧
      ((∀ e ∈ steps bs, e.2.toInt - e.1.toInt ≤ Int64.maxValue.toInt) →
        (leftOutOf bs : Int) + bs.length = last.pulse.toInt - first.pulse.toInt + 1) := by
  induction bs using List.reverseRecOn generalizing last with
  | nil => cases hfirst
  | append_singleton bs b ih =>
    obtain ⟨hbefore, -, hlater⟩ := List.pairwise_append.1 h
    rw [List.getLast?_concat, Option.some_inj] at hlast
    subst hlast
    rw [leftOutOf_concat, steps_concat, List.length_append]
    cases hend : bs.getLast? with
    | none =>
      obtain rfl := List.getLast?_eq_none_iff.1 hend
      cases hfirst
      simp [leftOutOf, steps]
    | some a =>
      have hstep := Int64.lt_iff_toInt_lt.1 (hlater a (List.mem_of_getLast? hend) b (.head _))
      have hhead : bs.head? = some first := by
        cases bs with
        | nil => cases hend
        | cons a' rest => exact hfirst
      obtain ⟨hle, heq⟩ := ih hbefore hhead hend
      show ((leftOutOf bs + leftOut (a.pulse, b.pulse) : Nat) : Int) + (bs.length + 1 : Nat) ≤ _ ∧
        (_ → ((leftOutOf bs + leftOut (a.pulse, b.pulse) : Nat) : Int) + (bs.length + 1 : Nat) = _)
      -- The bundle takes the last place of its step; of a step longer than the greatest id, less is
      -- counted than it leaves out.
      constructor
      · unfold leftOut
        dsimp only
        omega
      · intro hnear
        rw [Option.map_some, Option.toList_some, List.forall_mem_append,
          List.forall_mem_singleton] at hnear
        replace heq := heq hnear.1
        have hnearest := hnear.2
        unfold leftOut
        dsimp only at hnearest ⊢
        omega

theorem steps_ascending (h : bs.Pairwise fun b b' => b.pulse < b'.pulse)
    {e : PulseId × PulseId} (he : e ∈ steps bs) : e.1 < e.2 := by
  induction bs using List.reverseRecOn with
  | nil => cases he
  | append_singleton bs b ih =>
    obtain ⟨hbefore, -, hlater⟩ := List.pairwise_append.1 h
    rw [steps_concat, List.mem_append, Option.mem_toList, Option.map_eq_some_iff] at he
    obtain he | ⟨a, ha, rfl⟩ := he
    · exact ih hbefore he
    · exact hlater a (List.mem_of_getLast? ha) b (.head _)

theorem Tells.violations_eq_zero (h : s.Tells bs)
    (hascending : bs.Pairwise fun b b' => b.pulse < b'.pulse) : s.violations = 0 := by
  have hnone : (steps bs).countP (fun e => e.2 ≤ e.1) = 0 := by
    rw [List.countP_eq_zero]
    intro e he
    simpa using steps_ascending hascending he
  rw [h.violations, hnone]
  rfl

/-- Bundles in ascending order have statistics. -/
theorem exists_ofList? (h : bs.Pairwise fun b b' => b.pulse < b'.pulse) :
    ∃ s, ofList? bs = some s ∧ s.Tells bs := by
  obtain ⟨-, hs⟩ | ⟨hfull, -⟩ := ofList?_cases bs
  · exact hs
  · cases bs with
    | nil => exact absurd hfull (by decide : ¬ UInt64.size ≤ 0)
    | cons first rest =>
      have hlast := List.getLast?_eq_some_getLast (List.cons_ne_nil first rest)
      have hle := (leftOutOf_ascending h rfl hlast).1
      have hlow := first.pulse.minValue_le_toInt
      have hhigh := ((first :: rest).getLast (List.cons_ne_nil first rest)).pulse.toInt_le
      have hmin := Int64.toInt_minValue
      have hmax := Int64.toInt_maxValue
      rw [List.length_cons] at hle
      change 2 ^ 64 ≤ _ at hfull
      omega

end BundleStats

end PulseJoin
