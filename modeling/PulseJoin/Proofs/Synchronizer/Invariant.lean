import PulseJoin.Proofs.Synchronizer.Effect

/-!
# What every run keeps

The buffer holds exactly the arrivals above the boundary, each pulse with the latest value of every
channel and the time of its first arrival (`Held`).  The smallest id seen is the least arrival, and
once the boundary has moved nothing smaller can arrive (`Seen`).  With the order of the outlet these
are the invariant `Sound` of all runs from a fresh synchronizer.
-/

namespace PulseJoin

universe u

variable {α : Type u}

open Arrival Act

/-! ## The buffer and the arrivals -/

/-- The buffer holds the arrivals above the boundary, each under its own id. -/
structure Held (arrivals : List (Arrival α)) (b : PulseBuffer α) (boundary : PulseId) : Prop where
  keyed : b.Keyed
  above : ∀ e ∈ b.toList, boundary < e.1
  values : ∀ e ∈ b.toList, ∀ channel,
    e.2.values.get? channel = latest? arrivals channel e.1
  created : ∀ e ∈ b.toList, (first? arrivals e.1).map (·.clock) = some e.2.createdAt
  kept : ∀ a ∈ arrivals, a.pulse ≤ boundary ∨ b.contains a.pulse = true

namespace Held

variable {arrivals : List (Arrival α)} {b : PulseBuffer α} {boundary : PulseId}

theorem empty : Held ([] : List (Arrival α)) .empty boundary where
  keyed := nofun
  above := nofun
  values := nofun
  created := nofun
  kept := nofun

theorem arrived (h : Held arrivals b boundary) {e : PulseId × Pending α} (he : e ∈ b.toList) :
    ∃ a ∈ arrivals, a.pulse = e.1 := by
  obtain ⟨a, ha, -⟩ := Option.map_eq_some_iff.1 (h.created e he)
  exact ⟨a, mem_of_first? ha⟩

theorem size_pos (h : Held arrivals b boundary) {e : PulseId × Pending α} (he : e ∈ b.toList) :
    0 < e.2.size := by
  obtain ⟨a, ha, hpulse⟩ := h.arrived he
  have hsome : (latest? arrivals a.message.channel e.1).isSome = true :=
    latest?_isSome_iff.2 ⟨a, ha, rfl, hpulse⟩
  rw [← h.values e he] at hsome
  have hkey : a.message.channel ∈ e.2.values.keys := SortedMap.mem_keys_iff.2 hsome
  have hpos := List.length_pos_of_mem hkey
  rwa [SortedMap.length_keys] at hpos

theorem ne_of_absent (h : Held arrivals b boundary) {p : PulseId} (hp : boundary < p)
    (habsent : b.contains p = false) {a : Arrival α} (ha : a ∈ arrivals) : a.pulse ≠ p := by
  intro heq
  rcases h.kept a ha with hpassed | hbuffered
  · exact absurd (heq ▸ hpassed) (Int64.not_le.2 hp)
  · rw [heq, habsent] at hbuffered
    cases hbuffered

theorem le_or_le (h : Held arrivals b boundary) {p : PulseId} {w : Pending α}
    (hfirst : b.first? = some (p, w)) {a : Arrival α} (ha : a ∈ arrivals) :
    a.pulse ≤ boundary ∨ p ≤ a.pulse :=
  (h.kept a ha).imp_right (PulseBuffer.le_of_first? hfirst)

theorem store (h : Held arrivals b boundary) {a : Arrival α} (ha : boundary < a.pulse) :
    Held (arrivals ++ [a])
      (b.store a.pulse a.message.channel a.message.payload a.clock) boundary where
  keyed := h.keyed.store a.pulse a.message.channel a.message.payload a.clock
  above e he := by
    rcases PulseBuffer.mem_store.1 he with rfl | ⟨-, hold⟩
    · exact ha
    · exact h.above e hold
  values e he channel := by
    rw [latest?_concat]
    rcases PulseBuffer.mem_store.1 he with rfl | ⟨hother, hold⟩
    · rw [SortedMap.get?_insert]
      by_cases hchannel : channel = a.message.channel
      · rw [if_pos hchannel, if_pos ⟨hchannel.symm, rfl⟩]
      · rw [if_neg hchannel, if_neg (fun hsame => hchannel hsame.1.symm)]
        rcases b.entry_cases a.pulse a.clock with hold | ⟨habsent, hnew⟩
        · exact h.values _ hold channel
        · -- A pulse that was not buffered has no arrivals yet, so its new entry starts empty.
          rw [hnew, SortedMap.get?_empty, eq_comm, ← Option.not_isSome_iff_eq_none,
            latest?_isSome_iff]
          intro ⟨a', ha', _, hpulse⟩
          exact h.ne_of_absent ha habsent ha' hpulse
    · rw [if_neg (fun hsame => hother hsame.2.symm)]
      exact h.values e hold channel
  created e he := by
    rcases PulseBuffer.mem_store.1 he with rfl | ⟨-, hold⟩
    · rcases b.entry_cases a.pulse a.clock with hold | ⟨habsent, hnew⟩
      · obtain ⟨a', ha', hclock⟩ := Option.map_eq_some_iff.1 (h.created _ hold)
        rw [first?_append_of_some ha', Option.map_some, hclock]
      · -- The new entry takes its time from this arrival, which is the first for the pulse.
        have hnone : first? arrivals a.pulse = none := by
          rw [← Option.not_isSome_iff_eq_none, first?_isSome_iff]
          intro ⟨a', ha', hpulse⟩
          exact h.ne_of_absent ha habsent ha' hpulse
        rw [hnew, first?, List.find?_append, ← first?, hnone]
        simp
    · obtain ⟨a', ha', hclock⟩ := Option.map_eq_some_iff.1 (h.created e hold)
      rw [first?_append_of_some ha', Option.map_some, hclock]
  kept a' ha' := by
    rw [PulseBuffer.contains_store]
    rcases List.mem_append.1 ha' with hold | hnew
    · exact (h.kept a' hold).imp_right .inr
    · exact .inr (.inl (by rw [List.mem_singleton.1 hnew]))

theorem cut (h : Held arrivals b boundary) {p : PulseId} (hmin : Int64.minValue < p)
    (hp : boundary < p) : Held arrivals (b.above p) p.pred where
  keyed := h.keyed.filter _
  above e he := by
    have hle : ¬ e.1 < p := fun hlt => (SortedMap.mem_above.1 he).2 (Std.compare_eq_lt.2 hlt)
    have hpred := PulseId.pred_lt hmin
    grind
  values e he := h.values e (SortedMap.mem_above.1 he).1
  created e he := h.created e (SortedMap.mem_above.1 he).1
  kept a ha := by
    rw [PulseId.le_pred_iff hmin, PulseBuffer.contains_above]
    rcases h.kept a ha with hpassed | hbuffered
    · exact .inl (by grind)
    · by_cases hlt : a.pulse < p
      · exact .inl hlt
      · exact .inr ⟨hbuffered, Int64.not_lt.1 hlt⟩

theorem remove (h : Held arrivals b boundary) {p : PulseId} {w : Pending α}
    (hfirst : b.first? = some (p, w)) : Held arrivals (b.erase p) p where
  keyed := h.keyed.filter _
  above e he := by
    obtain ⟨hmem, hne⟩ := SortedMap.mem_erase.1 he
    rcases PulseBuffer.lt_of_first? hfirst hmem with rfl | hlt
    · exact absurd rfl hne
    · exact hlt
  values e he := h.values e (SortedMap.mem_erase.1 he).1
  created e he := h.created e (SortedMap.mem_erase.1 he).1
  kept a ha := by
    rw [PulseBuffer.contains_erase]
    have hlow := h.above _ (SortedMap.mem_of_first? hfirst).1
    rcases h.kept a ha with hpassed | hbuffered
    · exact .inl (by grind)
    · by_cases heq : a.pulse = p
      · exact .inl (heq ▸ Int64.le_refl _)
      · exact .inr ⟨hbuffered, heq⟩

end Held

/-! ## The watermarks and the arrivals -/

/-- The smallest id seen is that of the least arrival.  Once the boundary has moved, no id above it
is smaller. -/
structure Seen (arrivals : List (Arrival α)) (w : Watermarks) : Prop where
  least : ∀ a ∈ arrivals, w.smallestSeen ≤ a.pulse
  attained : (arrivals = [] ∧ w.smallestSeen = Int64.maxValue) ∨
    ∃ a ∈ arrivals, a.pulse = w.smallestSeen
  proper : ∀ a ∈ arrivals, Int64.minValue < a.pulse
  moved : w.boundary = Int64.minValue ∨ ∀ q, w.boundary < q → w.smallestSeen ≤ q

namespace Seen

variable {arrivals : List (Arrival α)} {w : Watermarks}

theorem empty : Seen ([] : List (Arrival α)) {} where
  least := nofun
  attained := .inl ⟨rfl, rfl⟩
  proper := nofun
  moved := .inl rfl

theorem observe (h : Seen arrivals w) {a : Arrival α} (ha : w.boundary < a.pulse) :
    Seen (arrivals ++ [a]) (w.observe a.pulse) where
  least a' ha' := by
    show min w.smallestSeen a.pulse ≤ a'.pulse
    rw [PulseId.min_eq]
    rcases List.mem_append.1 ha' with hold | hnew
    · have hle := h.least a' hold
      grind
    · rw [List.mem_singleton.1 hnew]
      grind
  attained := by
    right
    show ∃ a' ∈ arrivals ++ [a], a'.pulse = min w.smallestSeen a.pulse
    rw [PulseId.min_eq]
    by_cases hlower : w.smallestSeen ≤ a.pulse
    · rw [if_pos hlower]
      rcases h.attained with ⟨-, hmax⟩ | ⟨a', ha', hpulse⟩
      · -- Before the first arrival the smallest id seen is the greatest id of all.
        have hle := PulseId.le_maxValue a.pulse
        exact ⟨a, by simp, by grind⟩
      · exact ⟨a', List.mem_append_left _ ha', hpulse⟩
    · exact ⟨a, by simp, by rw [if_neg hlower]⟩
  proper a' ha' := by
    rcases List.mem_append.1 ha' with hold | hnew
    · exact h.proper a' hold
    · rw [List.mem_singleton.1 hnew]
      have hlow := PulseId.minValue_le w.boundary
      grind
  moved := by
    rcases h.moved with hstart | hmoved
    · exact .inl hstart
    · refine .inr fun q hq => ?_
      show min w.smallestSeen a.pulse ≤ q
      rw [PulseId.min_eq]
      have hle := hmoved q hq
      grind

theorem raise (h : Seen arrivals w) {boundary : PulseId}
    (hb : ∀ q, boundary < q → w.smallestSeen ≤ q) : Seen arrivals { w with boundary } where
  least := h.least
  attained := h.attained
  proper := h.proper
  moved := .inr hb

end Seen

namespace Synchronizer

/-! ## What admissions and resolutions do to the buffer -/

section Buffer

variable {arrivals : List (Arrival α)} {s : Synchronizer α}
  (h : Held arrivals s.buffer s.marks.boundary)

include h

theorem held_accept {a : Arrival α} (ha : s.Welcomes a.message) :
    Held (arrivals ++ [a]) (s.accept a.clock a.message).buffer
      (s.accept a.clock a.message).marks.boundary := by
  obtain ⟨-, -, hbuffer, hmarks, -⟩ := s.admitted_accept a
  have hpast : s.marks.boundary < a.pulse := ha.2.2
  have hmin : Int64.minValue < a.pulse := by
    have hlow := PulseId.minValue_le s.marks.boundary
    grind
  have hstored := h.store hpast
  rw [hbuffer, hmarks]
  by_cases hstart : s.startsWith a = true
  · rw [if_pos hstart, if_pos hstart]
    exact hstored.cut hmin hpast
  · rw [if_neg hstart, if_neg hstart]
    exact hstored

theorem marks_remove {p : PulseId} {w : Pending α} (hfirst : s.buffer.first? = some (p, w)) :
    s.marks.boundary < p ∧ (s.remove p).marks = { s.marks with boundary := p } := by
  have hpast : s.marks.boundary < p := h.above (p, w) (SortedMap.mem_of_first? hfirst).1
  refine ⟨hpast, ?_⟩
  show s.marks.advance p = _
  unfold Watermarks.advance
  rw [PulseId.max_eq, if_pos (by grind)]

theorem held_remove {p : PulseId} {w : Pending α} (hfirst : s.buffer.first? = some (p, w)) :
    Held arrivals (s.remove p).buffer (s.remove p).marks.boundary := by
  rw [(marks_remove h hfirst).2]
  exact h.remove hfirst

end Buffer

/-! ## The invariant of all runs -/

/-- A synchronizer that has done nothing yet. -/
structure Fresh (s : Synchronizer α) : Prop where
  buffer : s.buffer = .empty
  marks : s.marks = {}
  queue : s.outlet.queue = []
  outlet : s.outlet.closed = false
  closed : s.closed = false

/-- What holds after the actions `acts` of a synchronizer that was fresh. -/
structure Sound (acts : List (Act α)) (s : Synchronizer α) : Prop where
  held : Held (arrivals acts) s.buffer s.marks.boundary
  seen : Seen (arrivals acts) s.marks
  expected : ∀ a ∈ arrivals acts, a.message.channel ∈ s.schedules.expectedChannels a.pulse
  /-- The boundary stands at the last pulse that was resolved. -/
  last : ∀ u, (turns acts).getLast? = some u →
    s.marks.boundary = u.pulse ∧ Int64.minValue < u.pulse
  outlet : s.outlet.closed = s.closed
  /-- What consumers took and what waits for them was resolved in this order. -/
  queue : (taken acts ++ s.outlet.queue).Sublist (((turns acts).map Turn.bundle).filter s.wants)

namespace Sound

variable {acts acts' : List (Act α)} {s s' : Synchronizer α} {a : Arrival α} {u : Turn α}

theorem of_fresh (h : s.Fresh) : Sound [] s where
  held := by rw [h.buffer]; exact .empty
  seen := by rw [h.marks]; exact .empty
  expected := nofun
  last u hu := by cases hu
  outlet := by rw [h.outlet, h.closed]
  queue := by simp [taken, h.queue]

theorem keep {act : Act α} (h : Sound acts s) (harrivals : arrivals [act] = [])
    (hturns : turns [act] = []) (hbuffer : s'.buffer = s.buffer)
    (hmarks : s'.marks = s.marks) (hconfig : s'.config = s.config)
    (hschedules : s'.schedules = s.schedules) (houtlet : s'.outlet.closed = s'.closed)
    (hqueue : (taken [act] ++ s'.outlet.queue).Sublist s.outlet.queue) :
    Sound (acts ++ [act]) s' where
  held := by
    rw [arrivals_append, harrivals, List.append_nil, hbuffer, hmarks]
    exact h.held
  seen := by
    rw [arrivals_append, harrivals, List.append_nil, hmarks]
    exact h.seen
  expected := by
    rw [arrivals_append, harrivals, List.append_nil, hschedules]
    exact h.expected
  last := by
    rw [turns_append, hturns, List.append_nil, hmarks]
    exact h.last
  outlet := houtlet
  queue := by
    have hwants : s'.wants = s.wants := by
      unfold wants
      rw [hconfig]
    rw [turns_append, hturns, List.append_nil, taken_append, List.append_assoc, hwants]
    exact (hqueue.append_left _).trans h.queue

theorem accept (h : Sound acts s) (ha : s.Welcomes a.message) :
    Sound (acts ++ [Act.accept a]) (s.accept a.clock a.message) := by
  obtain ⟨hopen, hexpected, hpast⟩ := ha
  obtain ⟨hconfig, hschedules, hbuffer, hmarks, houtlet, hclosed⟩ := s.admitted_accept a
  have hwants : (s.accept a.clock a.message).wants = s.wants := by
    unfold wants
    rw [hconfig]
  have harrivals : arrivals (acts ++ [Act.accept a]) = arrivals acts ++ [a] := arrivals_append _ _
  have hturns : turns (acts ++ [Act.accept a]) = turns acts := by simp [turns]
  have htaken : taken (acts ++ [Act.accept a]) = taken acts := by simp [taken]
  have hobserved := h.seen.observe hpast
  have hmin : Int64.minValue < a.pulse := hobserved.proper a (by simp)
  have hseen : ((s.marks.observe a.pulse).smallestSeen) ≤ a.pulse :=
    hobserved.least a (by simp)
  constructor
  case held =>
    rw [harrivals]
    exact held_accept h.held ⟨hopen, hexpected, hpast⟩
  case seen =>
    rw [harrivals, hmarks]
    by_cases hstart : s.startsWith a = true
    · rw [if_pos hstart]
      -- Above the pulse that fires the rule nothing is smaller than it.
      refine hobserved.raise fun q hq => ?_
      have hle : a.pulse ≤ q := by
        have hpred := PulseId.le_pred_iff (q := q) hmin
        grind
      grind
    · rw [if_neg hstart]
      exact hobserved
  case expected =>
    rw [harrivals, hschedules]
    intro a' ha'
    rcases List.mem_append.1 ha' with hold | hnew
    · exact h.expected a' hold
    · rw [List.mem_singleton.1 hnew]
      exact hexpected
  case last =>
    rw [hturns]
    intro u hu
    obtain ⟨hboundary, hlow⟩ := h.last u hu
    -- The startup rule is over once a pulse was resolved.
    have hstart : s.startsWith a ≠ true := by
      intro hstart
      have hunresolved := Watermarks.unresolved_iff.1 (Bool.and_eq_true_iff.1 hstart).2
      rw [hunresolved] at hboundary
      grind
    rw [hmarks, if_neg hstart]
    exact ⟨hboundary, hlow⟩
  case outlet =>
    rw [houtlet, hclosed]
    exact h.outlet
  case queue =>
    rw [htaken, hturns, houtlet, hwants]
    exact h.queue

theorem resolve (h : Sound acts s) (hu : s.Acts (.resolve u) s') :
    Sound (acts ++ [Act.resolve u]) s' := by
  obtain ⟨-, hopen, rfl, w, hfirst, -, hbundle⟩ := hu.of_resolve
  obtain ⟨⟨hconfig, hschedules, hbuffer, hmarks⟩, hclosed⟩ :=
    (s.remove u.pulse).settle_alike u.resolution
  have hwants : ((s.remove u.pulse).settle u.resolution).wants = s.wants := by
    unfold wants
    rw [hconfig]
    rfl
  have harrivals : arrivals (acts ++ [Act.resolve u]) = arrivals acts := by simp [arrivals]
  have hturns : turns (acts ++ [Act.resolve u]) = turns acts ++ [u] := turns_append _ _
  have htaken : taken (acts ++ [Act.resolve u]) = taken acts := by simp [taken]
  obtain ⟨a, ha, hpulse⟩ := h.held.arrived (SortedMap.mem_of_first? hfirst).1
  -- A value of the oldest pulse arrived, so its id is not the least one, and none seen is greater.
  have hmin : Int64.minValue < u.pulse := by
    have hproper := h.seen.proper a ha
    grind
  have hboundary : ((s.remove u.pulse).settle u.resolution).marks =
      { s.marks with boundary := u.pulse } := hmarks.trans (marks_remove h.held hfirst).2
  constructor
  case held =>
    rw [harrivals, hbuffer, hboundary]
    exact h.held.remove hfirst
  case seen =>
    rw [harrivals, hboundary]
    refine h.seen.raise fun q hq => ?_
    have hle := h.seen.least a ha
    grind
  case expected =>
    rw [harrivals, hschedules]
    exact h.expected
  case last =>
    rw [hturns, hboundary]
    intro v hv
    rw [List.getLast?_concat, Option.some_inj] at hv
    subst hv
    exact ⟨rfl, hmin⟩
  case outlet =>
    rw [settle_outlet, hclosed]
    split
    · exact (Outlet.offer_frame _ _).2.trans h.outlet
    · exact h.outlet
  case queue =>
    rw [htaken, hturns, hwants, List.map_append, List.filter_append, settle_outlet]
    split
    next hwanted =>
      have hlast : ([u].map Turn.bundle).filter s.wants = [u.bundle] :=
        List.filter_cons_of_pos hwanted
      rw [Outlet.offer_queue, hlast]
      split
      · rw [← List.append_assoc]
        exact h.queue.append (List.Sublist.refl _)
      · -- A full queue loses the newest bundle, which keeps the order.
        exact h.queue.trans (List.sublist_append_left _ _)
    next => exact h.queue.trans (List.sublist_append_left _ _)

theorem step {act : Act α} (h : Sound acts s) (hact : s.Acts act s') :
    Sound (acts ++ [act]) s' := by
  cases hact with
  | remark => exact h.keep rfl rfl rfl rfl rfl rfl h.outlet (List.Sublist.refl _)
  | accept ha => exact h.accept ha
  | look hlook =>
    obtain ⟨⟨hconfig, hschedules, hbuffer, hmarks⟩, houtlet, hclosed⟩ := steady_look hlook
    apply h.keep rfl rfl hbuffer hmarks hconfig hschedules
    · rw [houtlet, hclosed]
      exact h.outlet
    · rw [houtlet]
      exact List.Sublist.refl _
  | resolve hopen hr => exact h.resolve (.resolve hopen hr)
  | take htake =>
    refine h.keep rfl rfl rfl rfl rfl rfl h.outlet ?_
    -- The bundle that leaves the queue is the next one taken.
    obtain ⟨rest, hrest⟩ := List.head?_eq_some_iff.1 htake
    show ([_] ++ s.outlet.queue.tail).Sublist s.outlet.queue
    rw [hrest]
    exact List.Sublist.refl _
  | close hopen =>
    unfold Synchronizer.close
    rw [hopen]
    refine h.keep rfl rfl rfl rfl rfl rfl rfl ?_
    show (if s.outlet.pulls then [] else s.outlet.queue).Sublist s.outlet.queue
    split
    · exact List.nil_sublist _
    · exact List.Sublist.refl _

end Sound

/-- Every run from a fresh synchronizer keeps the invariant. -/
theorem Runs.sound {s s' : Synchronizer α} {acts : List (Act α)} (h : s.Runs acts s')
    (hfresh : s.Fresh) : Sound acts s' := by
  induction h with
  | refl => exact .of_fresh hfresh
  | step _ act ih => exact ih.step act

end Synchronizer

end PulseJoin
