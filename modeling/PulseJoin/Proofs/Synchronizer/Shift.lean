import PulseJoin.Proofs.Schedule.Shift
import PulseJoin.Proofs.Synchronizer.Waiting

/-!
# Two synchronizers, one some pulses on

Two synchronizers run side by side, and every id the second one is told is `K` pulses on from what
the first one is told, `K` being a multiple of every period.  They stay side by side (`Shifted`):
all their ids are `K` apart, and nothing else differs.  The ends of the range at which the
watermarks begin are no pulses and do not move, so whether a boundary still stands there is part of
the relation between two operations (`Abreast`).
-/

namespace PulseJoin

universe u

variable {α : Type u} {K : Int}

/-! ## Shifted data -/

def Bundle.shift (K : Int) (b : Bundle α) : Bundle α := { b with pulse := b.pulse.shift K }

def Pending.shift (K : Int) (w : Pending α) : Pending α := { w with pulse := w.pulse.shift K }

def Message.shift (K : Int) (m : Message α) : Message α := { m with pulse := m.pulse.shift K }

def Arrival.shift (K : Int) (a : Arrival α) : Arrival α := { a with message := a.message.shift K }

def Resolution.shift (K : Int) (r : Resolution α) : Resolution α :=
  { r with bundle := r.bundle.shift K }

def Verdict.shift (K : Int) : Verdict → Verdict
  | .gap reference => .gap (reference.shift K)
  | verdict => verdict

def Outlet.shift (K : Int) (o : Outlet α) : Outlet α :=
  { o with queue := o.queue.map (·.shift K) }

def Receipt.shift (K : Int) : Receipt α → Receipt α
  | .bundle b => .bundle (b.shift K)
  | r => r

def Event.shift (K : Int) : Event → Event
  | .unknownChannel channel p => .unknownChannel channel (p.shift K)
  | .offSchedule schedule p => .offSchedule schedule (p.shift K)
  | .stale channel p boundary => .stale channel (p.shift K) (boundary.shift K)
  | .replaced p => .replaced (p.shift K)
  | .startupDiscarded p n oldest => .startupDiscarded (p.shift K) n (oldest.shift K)
  | .waiting p reference => .waiting (p.shift K) (reference.shift K)
  | .cutShort p expected got pressure kept => .cutShort (p.shift K) expected got pressure kept
  | .delivered p complete => .delivered (p.shift K) complete
  | .queueFull p complete => .queueFull (p.shift K) complete
  | .outletClosed p complete => .outletClosed (p.shift K) complete
  | .closed left boundary => .closed left (boundary.map (·.shift K))
  | e => e

theorem Event.samples_shift (K : Int) (e : Event) : (e.shift K).samples = e.samples := by
  cases e with
  | cutShort p expected received pressure kept => cases kept <;> rfl
  | _ => rfl

theorem Counters.count_shift (c : Counters) (K : Int) (e : Event) :
    c.count (e.shift K) = c.count e := by
  cases e with
  | cutShort p expected received pressure kept => cases kept <;> rfl
  | delivered p complete => cases complete <;> rfl
  | _ => rfl

namespace Outlet

variable (o : Outlet α)

theorem handoff_shift : (o.shift K).handoff = o.handoff := by
  unfold handoff isFull shift
  rw [List.length_map]

theorem offer_shift (b : Bundle α) : (o.shift K).offer (b.shift K) = (o.offer b).shift K := by
  unfold offer
  rw [handoff_shift]
  cases o.handoff
  case accepted =>
    show ({ o with queue := o.queue.map _ ++ [b].map _ } : Outlet α) =
      { o with queue := (o.queue ++ [b]).map _ }
    rw [List.map_append]
  all_goals rfl

theorem drop_shift : (o.shift K).drop = o.drop.shift K := by
  unfold drop shift
  rw [List.map_tail]

theorem head?_shift : (o.shift K).queue.head? = o.queue.head?.map (·.shift K) := List.head?_map

theorem pop_shift : (o.shift K).pop = o.pop.map (Option.map (·.shift K)) (·.shift K) := by
  have hclosed : (o.shift K).closed = o.closed := rfl
  unfold pop
  rw [drop_shift, head?_shift, hclosed]
  split <;> rfl

theorem receive_shift : (o.shift K).receive = o.receive.map (·.shift K) (·.shift K) := by
  have hpulls : (o.shift K).pulls = o.pulls := rfl
  have hclosed : (o.shift K).closed = o.closed := rfl
  unfold receive
  rw [drop_shift, head?_shift, hpulls, hclosed]
  split
  · rfl
  · cases o.queue.head? with
    | some b => rfl
    | none => cases o.closed <;> rfl

theorem close_shift : (o.shift K).close = o.close.shift K := by
  unfold close shift pulls
  dsimp only
  cases o.mode == .pull <;> rfl

end Outlet

namespace Synchronizer

variable {s s' : Synchronizer α} {now : UInt64}

/-! ## The relation -/

/-- All ids of `s'` are `K` pulses on from those of `s`, and nothing else differs. -/
structure Shifted (K : Int) (s s' : Synchronizer α) : Prop where
  periods : ∀ r ∈ s.schedules.toList, r.period.toInt ∣ K
  config : s'.config = s.config
  schedules : s'.schedules = s.schedules
  buffer : SortedMap.Rekeyed (PulseId.shift K) (Pending.shift K) s.buffer s'.buffer
  fits : ∀ e ∈ s.buffer.toList, e.1.Fits K
  /-- Before the first arrival nothing is buffered. -/
  seen : PulseId.Moved K s.marks.smallestSeen s'.marks.smallestSeen ∨
    s.buffer.toList = [] ∧ s.marks.smallestSeen = Int64.maxValue ∧
      s'.marks.smallestSeen = Int64.maxValue
  boundary : PulseId.Moved K s.marks.boundary s'.marks.boundary ∨
    s.marks.boundary = Int64.minValue ∧ s'.marks.boundary = Int64.minValue
  outlet : s'.outlet = s.outlet.shift K
  closed : s'.closed = s.closed
  counters : s'.counters = s.counters
  readings : s'.readings = s.readings
  journal : s'.journal = s.journal.map (·.shift K)

/-- Two synchronizers `K` pulses apart between two operations: both have resolved a pulse, or
neither. -/
structure Abreast (K : Int) (s s' : Synchronizer α) : Prop extends Shifted K s s' where
  unresolved : s'.marks.unresolved = s.marks.unresolved

namespace Shifted

theorem note (h : Shifted K s s') (e : Event) : Shifted K (s.note e) (s'.note (e.shift K)) where
  periods := h.periods
  config := h.config
  schedules := h.schedules
  buffer := h.buffer
  fits := h.fits
  seen := h.seen
  boundary := h.boundary
  outlet := h.outlet
  closed := h.closed
  counters := by
    show s'.counters.count (e.shift K) = s.counters.count e
    rw [h.counters, Counters.count_shift]
  readings := by
    show (e.shift K).samples.foldl .add s'.readings = e.samples.foldl .add s.readings
    rw [h.readings, Event.samples_shift]
  journal := by
    show e.shift K :: s'.journal = (e :: s.journal).map _
    rw [h.journal]
    rfl

theorem compare_key (h : Shifted K s s') {p : PulseId} (hp : p.Fits K) :
    ∀ e ∈ s.buffer.toList, compare (e.1.shift K) (p.shift K) = compare e.1 p :=
  fun e he => (h.fits e he).compare_shift hp

theorem expectedCount (h : Shifted K s s') {p p' : PulseId} (hp : PulseId.Moved K p p') :
    s'.schedules.expectedCount p' = s.schedules.expectedCount p := by
  rw [h.schedules]
  exact Schedule.expectedCount_of_moved h.periods hp

theorem passed (h : Shifted K s s') {p : PulseId} (hp : p.Fits K) :
    s'.marks.passed (p.shift K) = s.marks.passed p := by
  unfold Watermarks.passed
  rcases h.boundary with hmoved | ⟨hmin, hmin'⟩
  · simp only [hp.moved.le_iff hmoved]
  · rw [hmin, hmin', decide_eq_false (Int64.not_le.2 hp.min_lt),
      decide_eq_false (Int64.not_le.2 hp.min_lt_shift)]

theorem boundary_of_passed (h : Shifted K s s') {p : PulseId} (hp : p.Fits K)
    (hpassed : s.marks.passed p = true) : s'.marks.boundary = s.marks.boundary.shift K := by
  rcases h.boundary with hmoved | ⟨hmin, -⟩
  · exact hmoved.shift_eq.symm
  · have hle : p ≤ s.marks.boundary := of_decide_eq_true hpassed
    rw [hmin] at hle
    exact absurd hp.min_lt (Int64.not_lt.2 hle)

/-! ## Arrivals -/

theorem entry (h : Shifted K s s') {p : PulseId} (hp : p.Fits K) (now : UInt64) :
    s'.buffer.entry (p.shift K) now = (s.buffer.entry p now).shift K := by
  unfold PulseBuffer.entry
  rw [h.buffer.get?_eq (h.compare_key hp)]
  cases s.buffer.get? p <;> rfl

theorem finding (h : Shifted K s s') {a : Arrival α} (ha : a.pulse.Fits K) :
    s'.finding (a.shift K) = s.finding a := by
  unfold Synchronizer.finding PulseBuffer.storing
  show (⟨((s'.buffer.entry (a.pulse.shift K) a.clock).values.insert _ _).size,
    (s'.buffer.entry (a.pulse.shift K) a.clock).values.contains _⟩ : Stored) = _
  rw [h.entry ha]
  rfl

theorem completes (h : Shifted K s s') {a : Arrival α} (ha : a.pulse.Fits K) :
    s'.completes (a.shift K) = s.completes a := by
  unfold Synchronizer.completes
  rw [h.finding ha]
  show decide (s'.schedules.expectedCount (a.pulse.shift K) ≤ _) = _
  rw [h.expectedCount ha.moved]

theorem observe (h : Shifted K s s') {p : PulseId} (hp : p.Fits K) :
    PulseId.Moved K (s.marks.observe p).smallestSeen
      (s'.marks.observe (p.shift K)).smallestSeen := by
  show PulseId.Moved K (min s.marks.smallestSeen p) (min s'.marks.smallestSeen (p.shift K))
  rcases h.seen with hmoved | ⟨-, hmax, hmax'⟩
  · exact hmoved.min hp.moved
  · have hleast (q : PulseId) : min Int64.maxValue q = q := by
      have hle := PulseId.le_maxValue q
      rw [PulseId.min_eq]
      grind
    rw [hmax, hmax', hleast, hleast]
    exact hp.moved

theorem store (h : Shifted K s s') {a : Arrival α} (ha : a.pulse.Fits K) :
    Shifted K (s.store a) (s'.store (a.shift K)) := by
  have hbase : Shifted K
      { s with
        marks := s.marks.observe a.pulse
        buffer := s.buffer.store a.pulse a.message.channel a.message.payload a.clock }
      { s' with
        marks := s'.marks.observe (a.pulse.shift K)
        buffer := s'.buffer.store (a.pulse.shift K) a.message.channel a.message.payload
          a.clock } := by
    refine { h with buffer := ?_, fits := ?_, seen := .inl (h.observe ha), boundary := h.boundary }
    · unfold PulseBuffer.store
      rw [h.entry ha]
      exact h.buffer.insert (h.compare_key ha) _
    · intro e he
      rcases PulseBuffer.mem_store.1 he with rfl | ⟨-, hold⟩
      · exact ha
      · exact h.fits e hold
  unfold Synchronizer.store
  rw [h.finding ha]
  split
  · exact hbase.note (.replaced a.pulse)
  · exact hbase

theorem discardBacklog (h : Shifted K s s') (hsame : s'.marks.unresolved = s.marks.unresolved)
    {p : PulseId} (hp : p.Fits K) :
    Shifted K (s.discardBacklog p) (s'.discardBacklog (p.shift K)) := by
  unfold Synchronizer.discardBacklog
  rw [hsame]
  split
  next hunresolved =>
    have hbelow := h.buffer.below (h.compare_key hp)
    have hjump : s.marks.jump p.pred = { s.marks with boundary := p.pred } := if_pos hunresolved
    have hjump' : s'.marks.jump (p.shift K).pred = { s'.marks with boundary := (p.shift K).pred } :=
      if_pos (hsame.trans hunresolved)
    have hbase : Shifted K
        { s with buffer := s.buffer.above p, marks := s.marks.jump p.pred }
        { s' with
          buffer := s'.buffer.above (p.shift K)
          marks := s'.marks.jump (p.shift K).pred } := by
      rw [hjump, hjump']
      refine { h with
        buffer := h.buffer.above (h.compare_key hp)
        fits := fun e he => h.fits e (SortedMap.mem_above.1 he).1
        seen := ?_
        boundary := .inl (hp.moved.pred hp.min_lt hp.min_lt_shift) }
      refine h.seen.imp_right fun ⟨hempty, hmarks⟩ => ⟨?_, hmarks⟩
      show s.buffer.toList.filter _ = []
      rw [hempty]
      rfl
    dsimp only
    -- The note is made only if something was set aside, on both sides or on neither.
    rw [hbelow.first?_eq, hbelow.size_eq]
    cases (s.buffer.below p).first? with
    | none => exact hbase
    | some e => exact hbase.note _
  next => exact h

theorem accept (h : Abreast K s s') {a : Arrival α} (ha : a.pulse.Fits K) :
    Shifted K (s.accept a.clock a.message) (s'.accept a.clock (a.message.shift K)) := by
  have hstore := h.store ha
  have hsame : (s'.store (a.shift K)).marks.unresolved = (s.store a).marks.unresolved := by
    obtain ⟨-, -, -, hmarks, -⟩ := s.store_fields a
    obtain ⟨-, -, -, hmarks', -⟩ := s'.store_fields (a.shift K)
    rw [hmarks, hmarks']
    exact h.unresolved
  have hstartup : Shifted K ((s.store a).afterStartup (s.completes a) a.pulse)
      ((s'.store (a.shift K)).afterStartup (s'.completes (a.shift K)) (a.pulse.shift K)) := by
    unfold afterStartup
    rw [hstore.config, h.completes ha]
    split
    · exact hstore.discardBacklog hsame ha
    · exact hstore
  rw [accept_eq, show s'.accept a.clock (a.message.shift K) = _ from s'.accept_eq (a.shift K)]
  dsimp only
  rw [show (a.shift K).pulse = a.pulse.shift K from rfl, hstartup.buffer.size_eq]
  exact (hstartup.note _).note .buffered

/-! ## Resolution -/

theorem reference (h : Shifted K s s') {e : PulseId × Pending α} (he : e ∈ s.buffer.toList) :
    PulseId.Moved K s.marks.reference s'.marks.reference := by
  have hseen : PulseId.Moved K s.marks.smallestSeen s'.marks.smallestSeen := by
    refine h.seen.resolve_right fun ⟨hempty, _⟩ => ?_
    rw [hempty] at he
    cases he
  unfold Watermarks.reference
  rcases h.boundary with hmoved | ⟨hmin, hmin'⟩
  · exact hseen.max hmoved
  · have hgreatest (q : PulseId) : max q Int64.minValue = q := by
      have hle := PulseId.minValue_le q
      rw [PulseId.max_eq]
      grind
    rw [hmin, hmin', hgreatest, hgreatest]
    exact hseen

theorem verdict (h : Shifted K s s') {p : PulseId} {w : Pending α} (hp : (p, w) ∈ s.buffer.toList)
    (now : UInt64) :
    s'.verdict now (p.shift K) (w.shift K) = (s.verdict now p w).shift K := by
  have hmoved := (h.fits _ hp).moved
  have hsize : (w.shift K).size = w.size := rfl
  have hpressure : s'.pressure? now (w.shift K) = s.pressure? now w := by
    unfold pressure?
    rw [h.config, h.buffer.size_eq]
    rfl
  have hmissing := Schedule.pulseMissing_of_moved h.periods (h.reference hp) hmoved
  unfold Synchronizer.verdict
  rw [hpressure, hsize, h.expectedCount hmoved, h.schedules, hmissing,
    ← (h.reference hp).shift_eq]
  split
  · rfl
  · split
    · rfl
    · split <;> rfl

theorem remove (h : Shifted K s s') {p : PulseId} (hp : p.Fits K) (hmem : s.buffer.toList ≠ []) :
    Abreast K (s.remove p) (s'.remove (p.shift K)) := by
  have hbuffer := h.buffer.erase (h.compare_key hp)
  have hboundary : PulseId.Moved K (s.marks.advance p).boundary
      (s'.marks.advance (p.shift K)).boundary := by
    show PulseId.Moved K (max s.marks.boundary p) (max s'.marks.boundary (p.shift K))
    rcases h.boundary with hmoved | ⟨hmin, hmin'⟩
    · exact hmoved.max hp.moved
    · -- A boundary that stands where it began leaves the end of the range for the pulse itself.
      have hleast (q : PulseId) : max Int64.minValue q = q := if_pos (PulseId.minValue_le q)
      rw [hmin, hmin', hleast, hleast]
      exact hp.moved
  have hpast {t : Synchronizer α} {q : PulseId} (hq : Int64.minValue < q) :
      (t.marks.advance q).unresolved = false := by
    rw [← Bool.not_eq_true, Watermarks.unresolved_iff]
    show ¬ max t.marks.boundary q = Int64.minValue
    rw [PulseId.max_eq]
    grind
  have hbase : Shifted K { s with buffer := s.buffer.erase p, marks := s.marks.advance p }
      { s' with
        buffer := s'.buffer.erase (p.shift K)
        marks := s'.marks.advance (p.shift K) } :=
    { h with
      buffer := hbuffer
      fits := fun e he => h.fits e (SortedMap.mem_erase.1 he).1
      seen := .inl (h.seen.resolve_right fun ⟨hempty, _⟩ => hmem hempty)
      boundary := .inl hboundary }
  refine { toShifted := ?_, unresolved := ?_ }
  · unfold Synchronizer.remove
    dsimp only
    rw [hbuffer.size_eq]
    exact hbase.note (.occupancy _)
  · exact (hpast hp.min_lt_shift).trans (hpast hp.min_lt).symm

theorem resolveOldest (h : Shifted K s s') (now : UInt64) :
    (s'.resolveOldest now).1 = (s.resolveOldest now).1.map (·.shift K) ∧
      Shifted K (s.resolveOldest now).2 (s'.resolveOldest now).2 ∧
      ((s.resolveOldest now).1 ≠ none ∨ s'.marks.unresolved = s.marks.unresolved →
        (s'.resolveOldest now).2.marks.unresolved = (s.resolveOldest now).2.marks.unresolved) := by
  unfold Synchronizer.resolveOldest
  rw [h.buffer.first?_eq]
  cases hfirst : s.buffer.first? with
  | none => exact ⟨rfl, h, fun hsame => hsame.resolve_left (not_not_intro rfl)⟩
  | some e =>
    obtain ⟨p, w⟩ := e
    have hmem := (SortedMap.mem_of_first? hfirst).1
    have hfits := h.fits _ hmem
    dsimp only [Option.map_some]
    rw [h.verdict hmem]
    cases s.verdict now p w with
    | incomplete => exact ⟨rfl, h, fun hsame => hsame.resolve_left (not_not_intro rfl)⟩
    | gap reference =>
      exact ⟨rfl, h.note _, fun hsame => hsame.resolve_left (not_not_intro rfl)⟩
    | ready pressure =>
      have hremove := h.remove hfits (List.ne_nil_of_mem hmem)
      refine ⟨?_, hremove.toShifted, fun _ => hremove.unresolved⟩
      show some _ = some _
      rw [h.expectedCount hfits.moved]
      rfl

theorem deliver (h : Shifted K s s') (b : Bundle α) (complete : Bool) :
    Shifted K (s.deliver b complete) (s'.deliver (b.shift K) complete) := by
  have hbase : Shifted K { s with outlet := s.outlet.offer b }
      { s' with outlet := s'.outlet.offer (b.shift K) } :=
    { h with outlet := by rw [h.outlet, Outlet.offer_shift] }
  unfold Synchronizer.deliver
  rw [show s'.outlet.handoff = s.outlet.handoff by rw [h.outlet, Outlet.handoff_shift]]
  cases s.outlet.handoff
  case accepted => exact hbase.note (.delivered b.pulse complete)
  case full => exact hbase.note (.queueFull b.pulse complete)
  case closed => exact hbase.note (.outletClosed b.pulse complete)

theorem settle (h : Shifted K s s') (r : Resolution α) :
    Shifted K (s.settle r) (s'.settle (r.shift K)) := by
  unfold Synchronizer.settle
  rw [show (r.shift K).bundle.isComplete = r.bundle.isComplete from rfl, h.config]
  split
  · exact h.deliver r.bundle true
  · have hcut := h.note (.cutShort r.bundle.pulse r.bundle.expected r.bundle.size r.pressure
      s.config.sendIncomplete)
    dsimp only
    rw [note_config, note_config, h.config]
    split
    · exact hcut.deliver r.bundle false
    · exact hcut

end Shifted

end Synchronizer

end PulseJoin
