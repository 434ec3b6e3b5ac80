import PulseJoin.Proofs.Synchronizer.Counters

/-!
# Metrics and the journal

What the metrics show can be read off the journal.  A counter metric is there once an event has
added to its tally, and shows the sum; the gauge shows the last number of buffered pulses that was
noted, which is the present one.
-/

namespace PulseJoin

universe u

variable {α : Type u}

open Telemetry

/-! ## Instruments -/

namespace Telemetry.Readings

theorem counter?_add_count (r : Readings) (metric metric' : Counter) (n : UInt64) :
    (r.add (.count metric n)).counter? metric' =
      if metric' = metric then some ((r.counter? metric').getD 0 + n)
      else r.counter? metric' := by
  split
  next hsame =>
    subst hsame
    exact lookup_revise_self metric' _ r.counters
  next hother => exact lookup_revise_of_ne _ hother r.counters

theorem gauge?_add_set (r : Readings) (x : Float) :
    (r.add (.set .bufferedPulses x)).gauge? .bufferedPulses = some x :=
  lookup_revise_self Gauge.bufferedPulses _ r.gauges

end Telemetry.Readings

def Tally.metric? : Tally → Option Counter
  | .unknownChannel => some (.messagesDropped .unknownChannel)
  | .offSchedule => some (.messagesDropped .offSchedule)
  | .stale => some (.messagesDropped .stale)
  | .complete => some (.bundles .complete)
  | .incomplete => some (.bundles .incomplete)
  | .evicted => some (.bundles .evicted)
  | .queueFull => some .queueFull
  | .startupDiscarded => some .startupDiscarded
  | .received | .buffered | .duplicates => none

theorem Tally.metric?_inj {k k' : Tally} {metric : Counter} (h : k.metric? = some metric)
    (h' : k'.metric? = some metric) : k = k' := by
  cases k <;> cases h <;> cases k' <;> first | rfl | cases h'

/-! ## What events tell the metrics -/

namespace Event

def occupancy? : Event → Option Nat
  | .occupancy n => some n
  | _ => none

/-- Whether an event that tells of pulses set aside tells of at least one. -/
def Substantial : Event → Prop
  | .startupDiscarded _ n _ => 0 < n
  | _ => True

/-- The tally whose metric an event counts on. -/
def counted? : Event → Option Tally
  | .unknownChannel .. => some .unknownChannel
  | .offSchedule .. => some .offSchedule
  | .stale .. => some .stale
  | .startupDiscarded .. => some .startupDiscarded
  | .cutShort _ _ _ _ false => some .evicted
  | .delivered _ complete => some (if complete then .complete else .incomplete)
  | .queueFull .. => some .queueFull
  | _ => none

theorem samples_of_counted {e : Event} {k : Tally} (h : e.counted? = some k) :
    ∃ metric, k.metric? = some metric ∧ e.samples = [.count metric (.ofNat (e.adds k))] := by
  cases e with
  | delivered p complete =>
    cases h
    cases complete <;> exact ⟨_, rfl, rfl⟩
  | cutShort p expected received pressure kept =>
    cases kept
    · cases h
      exact ⟨_, rfl, rfl⟩
    · cases h
  | _ => cases h <;> exact ⟨_, rfl, rfl⟩

theorem counter?_of_not_counted {e : Event} (h : e.counted? = none) (r : Readings)
    (metric : Counter) : (e.samples.foldl .add r).counter? metric = r.counter? metric := by
  cases e with
  | delivered => cases h
  | cutShort p expected received pressure kept =>
    cases kept
    · cases h
    · rfl
  | _ => first | rfl | cases h

theorem adds_eq_zero_iff {e : Event} (he : e.Substantial) {k : Tally} {metric : Counter}
    (hk : k.metric? = some metric) : e.adds k = 0 ↔ e.counted? ≠ some k := by
  cases e with
  | delivered p complete => cases complete <;> cases k <;> cases hk <;> simp [adds, counted?]
  | cutShort p expected received pressure kept =>
    cases kept <;> cases k <;> cases hk <;> simp [adds, counted?]
  | startupDiscarded p n oldest =>
    have hpos : n ≠ 0 := Nat.ne_of_gt he
    cases k <;> cases hk <;> simp [adds, counted?, hpos]
  | _ => cases k <;> cases hk <;> simp [adds, counted?]

theorem counter?_samples {e : Event} (he : e.Substantial) {k : Tally} {metric : Counter}
    (hk : k.metric? = some metric) (r : Readings) :
    (e.samples.foldl .add r).counter? metric =
      if e.adds k = 0 then r.counter? metric
      else some ((r.counter? metric).getD 0 + .ofNat (e.adds k)) := by
  simp only [adds_eq_zero_iff he hk]
  cases hcounted : e.counted? with
  | none => rw [if_pos nofun, counter?_of_not_counted hcounted]
  | some k' =>
    obtain ⟨metric', hk', hsamples⟩ := samples_of_counted hcounted
    rw [hsamples, List.foldl_cons, List.foldl_nil, Readings.counter?_add_count]
    by_cases hsame : k' = k
    · subst hsame
      rw [hk, Option.some_inj] at hk'
      rw [if_pos hk', if_neg (not_not_intro rfl)]
    · have hother : metric ≠ metric' := by
        intro heq
        exact hsame (Tally.metric?_inj hk' (heq ▸ hk))
      rw [if_neg hother, if_pos (fun heq => hsame (Option.some_inj.1 heq))]

theorem gauge?_samples (e : Event) (r : Readings) :
    (e.samples.foldl .add r).gauge? .bufferedPulses =
      (e.occupancy?.map Nat.toFloat).or (r.gauge? .bufferedPulses) := by
  cases e with
  | occupancy n => exact r.gauge?_add_set _
  | cutShort p expected received pressure kept => cases kept <;> rfl
  | _ => rfl

/-! ## Readings of a journal -/

/-- The readings that the events of a journal lead to, the latest event first. -/
def readings (journal : List Event) : Readings :=
  journal.foldr (fun e r => e.samples.foldl .add r) {}

/-- The last number of buffered pulses in a journal. -/
def lastOccupancy? (journal : List Event) : Option Nat := journal.findSome? occupancy?

/-- A counter metric shows the sum of its tally, and is absent if nothing was added. -/
theorem counter?_readings {journal : List Event} (h : ∀ e ∈ journal, e.Substantial) {k : Tally}
    {metric : Counter} (hk : k.metric? = some metric) :
    (readings journal).counter? metric =
      if k.sum journal = 0 then none else some (.ofNat (k.sum journal)) := by
  induction journal with
  | nil => rfl
  | cons e journal ih =>
    obtain ⟨he, hrest⟩ := List.forall_mem_cons.1 h
    show (e.samples.foldl .add (readings journal)).counter? metric = _
    rw [counter?_samples he hk, ih hrest, Tally.sum_cons]
    by_cases hadds : e.adds k = 0
    · rw [if_pos hadds, hadds, Nat.zero_add]
    · have hsum : (if k.sum journal = 0 then none else some (UInt64.ofNat (k.sum journal))).getD 0 =
          .ofNat (k.sum journal) := by
        split
        next hzero => rw [hzero]; rfl
        next => rfl
      rw [if_neg hadds, if_neg (fun hzero => hadds (Nat.eq_zero_of_add_eq_zero hzero).1), hsum,
        Nat.add_comm, UInt64.ofNat_add]

theorem gauge?_readings (journal : List Event) :
    (readings journal).gauge? .bufferedPulses = (lastOccupancy? journal).map Nat.toFloat := by
  induction journal with
  | nil => rfl
  | cons e journal ih =>
    show (e.samples.foldl .add (readings journal)).gauge? .bufferedPulses = _
    rw [gauge?_samples, ih]
    unfold lastOccupancy?
    rw [List.findSome?_cons]
    cases e.occupancy? <;> rfl

end Event

namespace Synchronizer

variable {s s' : Synchronizer α} {acts : List (Act α)}

/-! ## The readings of a synchronizer -/

/-- The readings are those of the journal, and no event in it is empty. -/
structure Told (s : Synchronizer α) : Prop where
  readings : s.readings = Event.readings s.journal
  substantial : ∀ e ∈ s.journal, e.Substantial

theorem substantial_of_isRemark {e : Event} (h : e.isRemark = true) : e.Substantial := by
  cases e with
  | startupDiscarded => cases h
  | _ => trivial

theorem occupancy?_of_isRemark {e : Event} (h : e.isRemark = true) : e.occupancy? = none := by
  cases e <;> first | rfl | cases h

theorem Acts.substantial {a : Act α} (h : s.Acts a s') : ∀ e ∈ s.events a, e.Substantial := by
  intro e he
  cases h with
  | remark hremark =>
    rw [List.mem_singleton.1 he]
    exact substantial_of_isRemark hremark
  | @accept a =>
    change e ∈ s.acceptEvents a at he
    rcases mem_acceptEvents he with rfl | ⟨n, rfl⟩ | ⟨n, q, hpos, rfl⟩ | rfl
    · trivial
    · trivial
    · exact hpos
    · trivial
  | @look _ now =>
    change e ∈ s.lookEvents now at he
    obtain ⟨p, q, rfl⟩ := mem_lookEvents he
    trivial
  | resolve =>
    rcases List.mem_append.1 he with he | he
    · have hsettled := settled?_settleEvents he
      cases e <;> trivial
    · rw [List.mem_singleton.1 he]
      trivial
  | take => cases he
  | close =>
    rw [List.mem_singleton.1 he]
    trivial

theorem Runs.told (h : s.Runs acts s') (hstart : s.Told) : s'.Told := by
  induction h with
  | refl => exact hstart
  | step _ act ih =>
    constructor
    · rw [act.notes.readings, act.notes.journal, ih.readings]
      exact List.foldr_append.symm
    · intro e he
      rw [act.notes.journal] at he
      rcases List.mem_append.1 he with hnew | hold
      · exact act.substantial e hnew
      · exact ih.substantial e hold

/-! ## The gauge -/

/-- Once a message was taken in, the last number of buffered pulses that was noted is the present
one; before that none was noted, and the buffer is empty. -/
structure Gauged (s : Synchronizer α) : Prop where
  idle : s.tally .buffered = 0 → s.buffer.size = 0
  shown : Event.lastOccupancy? s.journal =
    if s.tally .buffered = 0 then none else some s.buffer.size

theorem lastOccupancy?_append {es journal : List Event} (h : ∀ e ∈ es, e.occupancy? = none) :
    Event.lastOccupancy? (es ++ journal) = Event.lastOccupancy? journal := by
  unfold Event.lastOccupancy?
  rw [List.findSome?_append, List.findSome?_eq_none_iff.2 h]
  rfl

namespace Gauged

theorem keep {es : List Event} (h : Gauged s) (hnotes : s.Notes es s')
    (hbuffer : s'.buffer = s.buffer) (hsum : Tally.sum .buffered es = 0)
    (hquiet : ∀ e ∈ es, e.occupancy? = none) : Gauged s' := by
  have htally : s'.tally .buffered = s.tally .buffered := by
    rw [hnotes.tally, hsum, Nat.zero_add]
  constructor
  · rw [htally, hbuffer]
    exact h.idle
  · rw [htally, hbuffer, hnotes.journal, lastOccupancy?_append hquiet]
    exact h.shown

theorem accept (a : Arrival α) : Gauged (s.accept a.clock a.message) := by
  have hnotes := s.notes_accept a
  have htally : (s.accept a.clock a.message).tally .buffered ≠ 0 := by
    rw [hnotes.tally, sum_acceptEvents, Nat.add_comm]
    exact Nat.succ_ne_zero _
  constructor
  · exact fun hzero => absurd hzero htally
  · rw [if_neg htally, hnotes.journal]
    rfl

theorem resolve {u : Turn α} (h : Gauged s) (hu : s.Acts (.resolve u) s') : Gauged s' := by
  obtain ⟨-, -, rfl, w, hfirst, -⟩ := hu.of_resolve
  have hbuffer := ((s.remove u.pulse).settle_alike u.resolution).1.buffer
  have htally : ((s.remove u.pulse).settle u.resolution).tally .buffered ≠ 0 := by
    rw [hu.notes.tally, sum_resolve_eq_zero (by decide), Nat.zero_add]
    intro hzero
    -- A buffered pulse was taken in.
    have hpos := List.length_pos_of_mem (SortedMap.mem_of_first? hfirst).1
    exact Nat.ne_of_gt hpos (h.idle hzero)
  have hquiet : ∀ e ∈ (s.remove u.pulse).settleEvents u.resolution, e.occupancy? = none := by
    intro e he
    have hsettled := settled?_settleEvents he
    cases e <;> first | rfl | cases hsettled
  constructor
  · exact fun hzero => absurd hzero htally
  · rw [if_neg htally, hu.notes.journal]
    show Event.lastOccupancy? (_ ++ [_] ++ s.journal) = _
    rw [List.append_assoc, lastOccupancy?_append hquiet, hbuffer]
    rfl

theorem step {a : Act α} (h : Gauged s) (hact : s.Acts a s') : Gauged s' := by
  have hkeep (hbuffer : s'.buffer = s.buffer) (hsum : Tally.sum .buffered (s.events a) = 0)
      (hquiet : ∀ e ∈ s.events a, e.occupancy? = none) : Gauged s' :=
    h.keep hact.notes hbuffer hsum hquiet
  have hsame := hact.alike
  cases hact with
  | remark hremark =>
    refine hkeep rfl (adds_of_isRemark hremark (by decide)) fun e' he' => ?_
    rw [List.mem_singleton.1 he']
    exact occupancy?_of_isRemark hremark
  | accept => exact accept _
  | @look _ now hlook =>
    refine hkeep (hsame rfl rfl).buffer (sum_lookEvents s now .buffered) fun e he => ?_
    change e ∈ s.lookEvents now at he
    obtain ⟨p, q, rfl⟩ := mem_lookEvents he
    rfl
  | resolve hopen hr => exact h.resolve (.resolve hopen hr)
  | take => exact hkeep rfl rfl nofun
  | close =>
    refine hkeep (hsame rfl rfl).buffer rfl fun e he => ?_
    rw [List.mem_singleton.1 he]
    rfl

end Gauged

theorem Runs.gauged (h : s.Runs acts s') (hstart : s.Gauged) : s'.Gauged := by
  induction h with
  | refl => exact hstart
  | step _ act ih => exact ih.step act

end Synchronizer

end PulseJoin
