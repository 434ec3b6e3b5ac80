import PulseJoin.Proofs.Session.Conservation

/-!
# Sessions skip nothing without force

Without force a session resolves complete pulses only, and one expected pulse after the other.  What
is dropped or delivered incomplete was forced out, and where nothing is forced and the queue has
room, the delivered pulses are all that are expected between the first and the last of them.  The
delivered bundles are those obtained, thrown away at the close and still in the queue
(`delivered_eq_handed`).
-/

namespace PulseJoin.Session

universe u

variable {α : Type u} {c : Config} {clock : UInt64} {t : Session α}

theorem unforced_turn (h : create c clock = .ok t) {ops : List (Op α)} {front back : List (Turn α)}
    {u : Turn α} (hturns : (t.history ops).turns = front ++ u :: back)
    (hunforced : ¬ u.Forced c (t.history ops).arrivals) :
    (∀ channel ∈ t.synchronizer.schedules.expectedChannels u.pulse,
        (u.bundle.get? channel).isSome = true) ∧
      (∀ b, u.before.boundary? = some b → ∀ p, b < p → p < u.pulse →
        t.synchronizer.schedules.expectedCount p = 0) ∧
      (front = [] → (∀ p n q, Event.startupDiscarded p n q ∉ u.before.journal) →
        (∃ a ∈ (t.history ops).arrivals, a.pulse = u.pulse) ∧
          ∀ a ∈ (t.history ops).arrivals, u.pulse ≤ a.pulse) := by
  obtain ⟨hfresh, hconfig, -⟩ := new_of_create h
  obtain ⟨acts, hruns, hacts, -⟩ := sound_run h ops
  rw [← hacts] at hturns hunforced ⊢
  rw [← hconfig] at hunforced
  have hu : u ∈ Act.turns acts := by
    show u ∈ (Act.history acts).turns
    rw [hturns]
    exact List.mem_append_right _ List.mem_cons_self
  refine ⟨fun channel hchannel => ?_, fun b hb p hlow hhigh => ?_, fun hfront hstartup => ?_⟩
  · have hcomplete := (hruns.unforced hfresh hu hunforced).1
    rw [← Bundle.mem_channels_iff]
    exact ((hruns.isComplete_turn_iff hfresh hu).1 hcomplete channel).2 hchannel
  · obtain ⟨rfl, hmoved⟩ := Watermarks.boundary?_eq_some_iff.1 hb
    exact hruns.no_gap hfresh hu hunforced (Int64.ne_of_lt hmoved).symm hlow hhigh
  · rw [hfront] at hturns
    exact hruns.first_turn hfresh hturns hstartup

theorem forced_of_incomplete (h : create c clock = .ok t) {ops : List (Op α)} {p : PulseId}
    (hcut : Event.delivered p false ∈ (t.run ops).2.synchronizer.journal ∨
      ∃ expected received pressure,
        Event.cutShort p expected received pressure false ∈ (t.run ops).2.synchronizer.journal) :
    ∃ u ∈ (t.history ops).turns, u.pulse = p ∧ u.Forced c (t.history ops).arrivals := by
  obtain ⟨hfresh, hconfig, -, -, -, hjournal⟩ := new_of_create h
  obtain ⟨acts, hruns, hacts, -⟩ := sound_run h ops
  rw [← hacts, ← hconfig]
  have hincomplete : ∃ u ∈ Act.turns acts, u.pulse = p ∧ u.bundle.isComplete = false := by
    rcases hcut with hmem | ⟨expected, received, pressure, hmem⟩
    · exact hruns.incomplete_of_mem_journal (by simp [hjournal]) hmem (.inl rfl)
    · exact hruns.incomplete_of_mem_journal (by simp [hjournal]) hmem
        (.inr ⟨expected, received, pressure, false, rfl⟩)
  obtain ⟨u, hu, hpulse, hpart⟩ := hincomplete
  refine ⟨u, hu, hpulse, Classical.byContradiction fun hunforced => ?_⟩
  rw [(hruns.unforced hfresh hu hunforced).1] at hpart
  cases hpart

/-- The bundles that were handed over: consumers obtained them, the close threw them away, or they
wait in the queue. -/
def handed (t : Session α) (ops : List (Op α)) : List (Bundle α) :=
  (t.run ops).1.filterMap Response.bundle? ++ t.gather thrownBy ops ++
    (t.run ops).2.synchronizer.outlet.queue

theorem New.delivered_eq_nil (h : New c t) : t.synchronizer.delivered = [] := by
  unfold Synchronizer.delivered
  rw [h.journal]
  rfl

theorem delivered_eq_handed (h : create c clock = .ok t) (ops : List (Op α)) :
    (t.run ops).2.synchronizer.delivered = (t.handed ops).map (·.pulse) := by
  obtain ⟨acts, hruns, hacts, -⟩ := sound_run h ops
  rw [hruns.delivered_eq (new_of_create h).delivered_eq_nil, handed, ← (tally_bundles h ops).1,
    ← hacts, List.map_map]
  rfl

/-- Without force, and with room in the queue, exactly the expected pulses between the first and the
last delivered one are delivered. -/
theorem mem_delivered_iff (h : create c clock = .ok t) {ops : List (Op α)}
    (hunforced : ∀ u ∈ (t.history ops).turns, ¬ u.Forced c (t.history ops).arrivals)
    (hroom : ∀ p complete,
      Event.queueFull p complete ∉ (t.run ops).2.synchronizer.journal) {first last : PulseId}
    (hfirst : (t.run ops).2.synchronizer.delivered.head? = some first)
    (hlast : (t.run ops).2.synchronizer.delivered.getLast? = some last) (p : PulseId) :
    p ∈ (t.run ops).2.synchronizer.delivered ↔
      first ≤ p ∧ p ≤ last ∧ 0 < t.synchronizer.schedules.expectedCount p := by
  obtain ⟨hfresh, hconfig, -⟩ := new_of_create h
  obtain ⟨acts, hruns, hacts, hsound⟩ := sound_run h ops
  rw [← hacts, ← hconfig] at hunforced
  -- Unforced turns are complete and find room, so what was delivered is all that was resolved.
  have haccepted : (Act.turns acts).filter Turn.accepted = Act.turns acts :=
    List.filter_eq_self.2 fun u hu =>
      hruns.accepted_turn hfresh hu (hruns.unforced hfresh hu (hunforced u hu)).1 hroom
  have hdelivered := hruns.delivered_eq (new_of_create h).delivered_eq_nil
  rw [haccepted] at hdelivered
  have hascending : ((Act.turns acts).map Turn.pulse).Pairwise (· < ·) :=
    List.pairwise_map.2 (hruns.ascending hfresh)
  rw [hdelivered] at hfirst hlast ⊢
  have hleast := fun q => PulseId.le_of_head? (q := q) hascending hfirst
  rw [List.head?_map, Option.map_eq_some_iff] at hfirst
  rw [List.getLast?_map, Option.map_eq_some_iff] at hlast
  obtain ⟨u, hu, rfl⟩ := hfirst
  obtain ⟨v, hv, rfl⟩ := hlast
  have hboundary := (hsound.last v hv).1
  constructor
  · intro hp
    obtain ⟨w, hw, rfl⟩ := List.mem_map.1 hp
    refine ⟨hleast _ hp, ?_, hruns.expectedCount_turn_pos hfresh hw⟩
    rw [← hboundary]
    exact (hruns.passed hfresh hw).2
  · intro ⟨hlow, hhigh, hexpected⟩
    rw [← hboundary] at hhigh
    exact List.mem_map.2 (hruns.turn_of_between hfresh hunforced hu hexpected hlow hhigh)

/-- No expected pulse is skipped without force.  A resolution without force gives a bundle with all
expected channels, and nothing is expected between the boundary and its pulse; the first resolution
of all is that of the least pulse that is ever taken in, unless the startup rule set some aside.  So
pulses are dropped or delivered incomplete by force only, and if there was none and the queue never
was full, exactly the expected pulses between the first and the last delivered one are delivered:
there is a bundle of each that was obtained, was thrown away at the close or waits in the queue, and
of no other pulse. -/
theorem no_skip_without_force (h : create c clock = .ok t) (ops : List (Op α)) :
    let schedules := t.synchronizer.schedules
    let arrivals := (t.history ops).arrivals
    let turns := (t.history ops).turns
    let final := (t.run ops).2.synchronizer
    (∀ front u back, turns = front ++ u :: back → ¬ u.Forced c arrivals →
      (∀ channel ∈ schedules.expectedChannels u.pulse,
        (u.bundle.get? channel).isSome = true) ∧
      (∀ b, u.before.boundary? = some b →
        ∀ p, b < p → p < u.pulse → schedules.expectedCount p = 0) ∧
      (front = [] → (∀ p n q, Event.startupDiscarded p n q ∉ u.before.journal) →
        (∃ a ∈ arrivals, a.pulse = u.pulse) ∧ ∀ a ∈ arrivals, u.pulse ≤ a.pulse)) ∧
    (∀ p, (Event.delivered p false ∈ final.journal ∨ ∃ expected received pressure,
        Event.cutShort p expected received pressure false ∈ final.journal) →
      ∃ u ∈ turns, u.pulse = p ∧ u.Forced c arrivals) ∧
    final.delivered = (t.handed ops).map (·.pulse) ∧
    ((∀ u ∈ turns, ¬ u.Forced c arrivals) →
      (∀ p complete, Event.queueFull p complete ∉ final.journal) →
      ∀ first last, final.delivered.head? = some first → final.delivered.getLast? = some last →
        ∀ p, (p ∈ final.delivered ↔ first ≤ p ∧ p ≤ last ∧ 0 < schedules.expectedCount p) ∧
          ((∃ b ∈ t.handed ops, b.pulse = p) ↔
            first ≤ p ∧ p ≤ last ∧ 0 < schedules.expectedCount p)) := by
  refine ⟨fun front u back hturns hunforced => ?_, fun p hcut => ?_, delivered_eq_handed h ops, ?_⟩
  · exact unforced_turn h hturns hunforced
  · exact forced_of_incomplete h hcut
  · intro hunforced hroom first last hfirst hlast p
    have hdelivered := mem_delivered_iff h hunforced hroom hfirst hlast p
    refine ⟨hdelivered, ?_⟩
    rw [← hdelivered, delivered_eq_handed h ops, List.mem_map]

/-- Three pulses that arrive out of order, none of them forced. -/
theorem no_skip_without_force_three_pulses :
    ∃ t : Session Nat,
      create { channels := [⟨"a", 1, 0⟩, ⟨"b", 2, 0⟩], delivery := .pull } 0 = .ok t ∧
        let ops : List (Op Nat) :=
          [.add ⟨"a", 2, 1⟩, .add ⟨"b", 4, 2⟩, .add ⟨"a", 4, 3⟩, .add ⟨"b", 2, 4⟩, .add ⟨"a", 3, 5⟩]
        (t.run ops).2.synchronizer.delivered = [2, 3, 4] ∧ (t.handed ops).length = 3 ∧
          ∀ p, (∃ b ∈ t.handed ops, b.pulse = p) ↔
            2 ≤ p ∧ p ≤ 4 ∧ 0 < t.synchronizer.schedules.expectedCount p := by
  refine ⟨_, rfl, rfl, rfl, fun p => ?_⟩
  have h : create (α := Nat)
      { channels := [⟨"a", 1, 0⟩, ⟨"b", 2, 0⟩], delivery := .pull } 0 = .ok _ := rfl
  obtain ⟨-, -, -, hbetween⟩ := no_skip_without_force h
    [.add ⟨"a", 2, 1⟩, .add ⟨"b", 4, 2⟩, .add ⟨"a", 4, 3⟩, .add ⟨"b", 2, 4⟩, .add ⟨"a", 3, 5⟩]
  refine (hbetween (fun u hu hforced => ?_) (fun p complete hmem => ?_) 2 4 rfl rfl p).2
  · rcases hforced with hsize | ⟨limit, a, hlimit, -⟩
    · revert u
      decide +kernel
    · cases hlimit
  · have hother := (List.all_eq_true (p := fun e : Event => !e matches .queueFull ..)).1 rfl _ hmem
    cases hother

end PulseJoin.Session
