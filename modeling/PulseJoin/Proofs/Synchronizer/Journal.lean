import PulseJoin.Proofs.Synchronizer.Effect

/-!
# What the actions note

Every event is noted once, in the journal, in the counters and in the readings of the metrics.
`events` lists what an action notes, so the journal of a run is told by its actions.
-/

namespace PulseJoin

universe u

variable {α : Type u}

def Handoff.event (h : Handoff) (p : PulseId) (complete : Bool) : Event :=
  match h with
  | .accepted => .delivered p complete
  | .full => .queueFull p complete
  | .closed => .outletClosed p complete

/-- The pulse that an event says was delivered, refused or dropped. -/
def Event.settled? : Event → Option PulseId
  | .delivered p _ | .queueFull p _ | .outletClosed p _ | .cutShort p _ _ _ _ => some p
  | _ => none

namespace Synchronizer

/-- From `s` to `s'` exactly the events `es` were noted, the latest first. -/
structure Notes (s : Synchronizer α) (es : List Event) (s' : Synchronizer α) : Prop where
  journal : s'.journal = es ++ s.journal
  counters : s'.counters = es.foldr (fun e c => c.count e) s.counters
  readings : s'.readings = es.foldr (fun e r => e.samples.foldl .add r) s.readings

namespace Notes

variable {s s' s'' : Synchronizer α} {es es' : List Event}

theorem refl (s : Synchronizer α) : s.Notes [] s := ⟨rfl, rfl, rfl⟩

theorem note (h : s.Notes es s') (e : Event) : s.Notes (e :: es) (s'.note e) where
  journal := congrArg (e :: ·) h.journal
  counters := congrArg (·.count e) h.counters
  readings := congrArg (e.samples.foldl Telemetry.Readings.add ·) h.readings

theorem trans (h : s.Notes es s') (h' : s'.Notes es' s'') : s.Notes (es' ++ es) s'' where
  journal := by rw [h'.journal, h.journal, List.append_assoc]
  counters := by rw [h'.counters, h.counters, List.foldr_append]
  readings := by rw [h'.readings, h.readings, List.foldr_append]

end Notes

/-! ## The events of an admission -/

def startupEvents (s : Synchronizer α) (complete : Bool) (p : PulseId) : List Event :=
  if (s.config.sendFirstComplete && complete) && s.marks.unresolved then
    match (s.buffer.below p).first? with
    | some (_, oldest) => [.startupDiscarded p (s.buffer.below p).size oldest.pulse]
    | none => []
  else []

def acceptEvents (s : Synchronizer α) (a : Arrival α) : List Event :=
  .buffered :: .occupancy (s.accept a.clock a.message).buffer.size ::
    ((s.store a).startupEvents (s.completes a) a.pulse ++
      if (s.finding a).replaced then [.replaced a.pulse] else [])

theorem mem_startupEvents {s : Synchronizer α} {complete : Bool} {p : PulseId} {e : Event}
    (he : e ∈ s.startupEvents complete p) : ∃ n q, 0 < n ∧ e = .startupDiscarded p n q := by
  unfold startupEvents at he
  split at he
  · split at he
    next hfirst =>
      have hpos := List.length_pos_of_mem (SortedMap.mem_of_first? hfirst).1
      exact ⟨_, _, hpos, List.mem_singleton.1 he⟩
    next => cases he
  · cases he

theorem mem_acceptEvents {s : Synchronizer α} {a : Arrival α} {e : Event}
    (he : e ∈ s.acceptEvents a) :
    e = .buffered ∨ (∃ n, e = .occupancy n) ∨
      (∃ n q, 0 < n ∧ e = .startupDiscarded a.pulse n q) ∨ e = .replaced a.pulse := by
  unfold acceptEvents at he
  rcases List.mem_cons.1 he with hbuffered | he
  · exact .inl hbuffered
  rcases List.mem_cons.1 he with hoccupancy | he
  · exact .inr (.inl ⟨_, hoccupancy⟩)
  rcases List.mem_append.1 he with hstartup | he
  · exact .inr (.inr (.inl (mem_startupEvents hstartup)))
  · split at he
    · exact .inr (.inr (.inr (List.mem_singleton.1 he)))
    · cases he

theorem notes_afterStartup (s : Synchronizer α) (complete : Bool) (p : PulseId) :
    s.Notes (s.startupEvents complete p) (s.afterStartup complete p) := by
  unfold startupEvents afterStartup discardBacklog
  by_cases hwanted : (s.config.sendFirstComplete && complete) = true
  · by_cases hunresolved : s.marks.unresolved = true
    · simp only [hwanted, hunresolved, Bool.and_self, ↓reduceIte]
      rcases (s.buffer.below p).first? with _ | ⟨oldest, w⟩
      · exact ⟨rfl, rfl, rfl⟩
      · exact ⟨rfl, rfl, rfl⟩
    · simp only [hunresolved, Bool.and_false, Bool.false_eq_true, ↓reduceIte]
      rw [ite_self]
      exact .refl s
  · simp only [hwanted, Bool.false_and, Bool.false_eq_true, ↓reduceIte]
    exact .refl s

theorem notes_accept (s : Synchronizer α) (a : Arrival α) :
    s.Notes (s.acceptEvents a) (s.accept a.clock a.message) := by
  have hstore : s.Notes (if (s.finding a).replaced then [.replaced a.pulse] else [])
      (s.store a) := by
    unfold store
    cases (s.finding a).replaced <;> exact ⟨rfl, rfl, rfl⟩
  unfold acceptEvents
  rw [accept_eq]
  exact ((hstore.trans (notes_afterStartup _ _ _)).note _).note _

/-- If an admission sets no pulse aside, the startup rule has not fired or found none to set aside.
-/
theorem below_eq_none_of_accept {s : Synchronizer α} {a : Arrival α}
    (hstarts : s.startsWith a = true)
    (hnone : ∀ p n q, Event.startupDiscarded p n q ∉ s.acceptEvents a) :
    ((s.store a).buffer.below a.pulse).first? = none := by
  obtain ⟨hconfig, -, -, hmarks, -⟩ := s.store_fields a
  have hfires : (((s.store a).config.sendFirstComplete && s.completes a) &&
      (s.store a).marks.unresolved) = true := by
    rw [hconfig, hmarks]
    exact hstarts
  cases hfirst : ((s.store a).buffer.below a.pulse).first? with
  | none => rfl
  | some e =>
    refine absurd ?_ (hnone a.pulse ((s.store a).buffer.below a.pulse).size e.2.pulse)
    unfold acceptEvents startupEvents
    rw [if_pos hfires, hfirst]
    simp

/-! ## The events of a resolution -/

/-- What is noted when a resolved pulse is delivered or dropped. -/
def settleEvents (s : Synchronizer α) (r : Resolution α) : List Event :=
  (if s.wants r.bundle then [s.outlet.handoff.event r.bundle.pulse r.bundle.isComplete] else []) ++
    if r.bundle.isComplete then []
    else [.cutShort r.bundle.pulse r.bundle.expected r.bundle.size r.pressure
      s.config.sendIncomplete]

theorem settleEvents_of_complete (s : Synchronizer α) {r : Resolution α}
    (h : r.bundle.isComplete = true) :
    s.settleEvents r = [s.outlet.handoff.event r.bundle.pulse true] := by
  unfold settleEvents wants
  rw [h, Bool.true_or]
  rfl

theorem notes_deliver (s : Synchronizer α) (b : Bundle α) (complete : Bool) :
    s.Notes [s.outlet.handoff.event b.pulse complete] (s.deliver b complete) := by
  unfold deliver
  cases s.outlet.handoff <;> exact ⟨rfl, rfl, rfl⟩

theorem notes_settle (s : Synchronizer α) (r : Resolution α) :
    s.Notes (s.settleEvents r) (s.settle r) := by
  unfold settleEvents settle wants
  by_cases hcomplete : r.bundle.isComplete = true
  · simp only [hcomplete, Bool.true_or, ↓reduceIte]
    exact s.notes_deliver r.bundle true
  · by_cases hsend : s.config.sendIncomplete = true
    · simp only [hcomplete, hsend, note_config, Bool.false_or, Bool.false_eq_true, ↓reduceIte]
      exact ((Notes.refl s).note _).trans (notes_deliver _ r.bundle false)
    · simp only [hcomplete, hsend, note_config, Bool.false_or, Bool.false_eq_true, ↓reduceIte]
      exact (Notes.refl s).note _

/-- What is noted when the oldest pulse stays where it is. -/
def lookEvents (s : Synchronizer α) (now : UInt64) : List Event :=
  match s.buffer.first? with
  | none => []
  | some (p, w) =>
    match s.verdict now p w with
    | .gap reference => [.waiting p reference]
    | _ => []

theorem lookEvents_cases (s : Synchronizer α) (now : UInt64) :
    s.lookEvents now = [] ∨ ∃ p q, s.lookEvents now = [.waiting p q] := by
  unfold lookEvents
  split
  · exact .inl rfl
  · split
    · exact .inr ⟨_, _, rfl⟩
    · exact .inl rfl

theorem mem_lookEvents {s : Synchronizer α} {now : UInt64} {e : Event}
    (he : e ∈ s.lookEvents now) : ∃ p q, e = .waiting p q := by
  rcases s.lookEvents_cases now with hnone | ⟨p, q, hwaits⟩
  · rw [hnone] at he
    cases he
  · rw [hwaits] at he
    exact ⟨p, q, List.mem_singleton.1 he⟩

theorem look_cases {s s' : Synchronizer α} {now : UInt64}
    (h : s.resolveOldest now = (none, s')) :
    s' = s ∧ s.lookEvents now = [] ∨
      ∃ p q, s' = s.note (.waiting p q) ∧ s.lookEvents now = [.waiting p q] := by
  unfold lookEvents
  rcases resolveOldest_eq_none h with ⟨p, w, q, hfirst, hverdict, rfl⟩ | ⟨hother, rfl⟩
  · right
    rw [hfirst]
    dsimp only
    rw [hverdict]
    exact ⟨p, q, rfl, rfl⟩
  · left
    refine ⟨rfl, ?_⟩
    split
    · rfl
    next p w hfirst =>
      split
      next q hverdict => exact absurd hverdict (hother p w q hfirst)
      · rfl

theorem notes_look {s s' : Synchronizer α} {now : UInt64}
    (h : s.resolveOldest now = (none, s')) : s.Notes (s.lookEvents now) s' := by
  rcases look_cases h with ⟨rfl, hevents⟩ | ⟨p, q, rfl, hevents⟩
  · rw [hevents]
    exact .refl _
  · rw [hevents]
    exact (Notes.refl s).note _

/-! ## The events of a run -/

/-- What an action notes, the latest first. -/
def events (s : Synchronizer α) : Act α → List Event
  | .remark e => [e]
  | .accept a => s.acceptEvents a
  | .look now => s.lookEvents now
  | .resolve u =>
    (s.remove u.pulse).settleEvents u.resolution ++ [.occupancy (s.buffer.erase u.pulse).size]
  | .take _ => []
  | .close => [.closed s.buffer.size s.marks.boundary?]

variable {s s' : Synchronizer α} {acts : List (Act α)}

theorem Acts.notes {a : Act α} (h : s.Acts a s') : s.Notes (s.events a) s' := by
  cases h with
  | remark => exact (Notes.refl s).note _
  | accept ha => exact s.notes_accept _
  | look hlook => exact notes_look hlook
  | @resolve _ now r hopen h =>
    obtain ⟨w, -, -, -, rfl⟩ := resolveOldest_eq_some h
    have hremove : s.Notes [.occupancy (s.buffer.erase r.bundle.pulse).size]
        (s.remove r.bundle.pulse) := ⟨rfl, rfl, rfl⟩
    exact hremove.trans (notes_settle _ _)
  | take => exact ⟨rfl, rfl, rfl⟩
  | close hopen =>
    unfold Synchronizer.close
    rw [hopen]
    exact ⟨rfl, rfl, rfl⟩

theorem Runs.journal_suffix (h : s.Runs acts s') : s.journal <:+ s'.journal := by
  induction h with
  | refl => exact List.suffix_refl _
  | step _ act ih => exact ih.trans (act.notes.journal ▸ List.suffix_append _ _)

theorem Runs.mem_journal (h : s.Runs acts s') {e : Event} (he : e ∈ s'.journal) :
    e ∈ s.journal ∨ ∃ before a after t t', acts = before ++ [a] ++ after ∧ s.Runs before t ∧
      t.Acts a t' ∧ e ∈ t.events a := by
  induction h with
  | refl => exact .inl he
  | @step t t' acts a run act ih =>
    rw [act.notes.journal] at he
    rcases List.mem_append.1 he with hnew | hold
    · exact .inr ⟨acts, a, [], t, t', by rw [List.append_nil], run, act, hnew⟩
    · rcases ih hold with hstart | ⟨before, b, after, r, r', hsplit, hbefore, hact, hmem⟩
      · exact .inl hstart
      · exact .inr ⟨before, b, after ++ [a], r, r', by rw [hsplit, ← List.append_assoc], hbefore,
          hact, hmem⟩

/-! ## The events that end a pulse -/

theorem settled?_of_isRemark {e : Event} (h : e.isRemark = true) : e.settled? = none := by
  cases e <;> first | rfl | cases h

theorem settled?_acceptEvents {a : Arrival α} {e : Event} (he : e ∈ s.acceptEvents a) :
    e.settled? = none := by
  rcases mem_acceptEvents he with rfl | ⟨n, rfl⟩ | ⟨n, q, -, rfl⟩ | rfl <;> rfl

theorem settled?_lookEvents {now : UInt64} {e : Event} (he : e ∈ s.lookEvents now) :
    e.settled? = none := by
  obtain ⟨p, q, rfl⟩ := mem_lookEvents he
  rfl

theorem settled?_settleEvents {r : Resolution α} {e : Event} (he : e ∈ s.settleEvents r) :
    e.settled? = some r.bundle.pulse := by
  unfold settleEvents at he
  rcases List.mem_append.1 he with he | he
  · split at he
    · rw [List.mem_singleton.1 he]
      cases s.outlet.handoff <;> rfl
    · cases he
  · split at he
    · cases he
    · rw [List.mem_singleton.1 he]
      rfl

theorem Acts.resolve_of_settled {a : Act α} {e : Event} {p : PulseId} (h : s.Acts a s')
    (he : e ∈ s.events a) (hp : e.settled? = some p) :
    ∃ u, a = .resolve u ∧ u.pulse = p ∧ e ∈ (s.remove u.pulse).settleEvents u.resolution := by
  have hother (hnone : e.settled? = none) : False := by
    rw [hnone] at hp
    cases hp
  cases h with
  | remark hremark =>
    rw [List.mem_singleton.1 he] at hother
    exact (hother (settled?_of_isRemark hremark)).elim
  | accept => exact (hother (settled?_acceptEvents he)).elim
  | look => exact (hother (settled?_lookEvents he)).elim
  | @resolve _ now r =>
    rcases List.mem_append.1 he with he | he
    · rw [settled?_settleEvents he, Option.some_inj] at hp
      exact ⟨_, rfl, hp, he⟩
    · rw [List.mem_singleton.1 he] at hother
      exact (hother rfl).elim
  | take => cases he
  | close =>
    rw [List.mem_singleton.1 he] at hother
    exact (hother rfl).elim

end Synchronizer

end PulseJoin
