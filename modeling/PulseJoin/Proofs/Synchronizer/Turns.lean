import PulseJoin.Proofs.Synchronizer.Invariant

/-!
# What a resolution takes out

The boundary only rises and each resolution moves it up to its pulse.  So pulses are resolved in
ascending order, and no message arrives for a pulse that was resolved: the bundle has all the values
that ever arrive for it.
-/

namespace PulseJoin

universe u

variable {α : Type u}

open Arrival

namespace Bundle

variable {b : Bundle α} {channel : String}

theorem mem_channels_iff : channel ∈ b.channels ↔ (b.get? channel).isSome = true :=
  SortedMap.mem_keys_iff

theorem channels_nodup (b : Bundle α) : b.channels.Nodup := b.values.keys_nodup

theorem length_channels (b : Bundle α) : b.channels.length = b.size := b.values.length_keys

end Bundle

theorem length_le_iff_of_subset {β : Type u} {xs ys : List β} (hxs : xs.Nodup) (hys : ys.Nodup)
    (hsub : xs ⊆ ys) : ys.length ≤ xs.length ↔ ∀ x, x ∈ xs ↔ x ∈ ys := by
  constructor
  · intro hlength x
    exact ((hxs.subperm hsub).perm_of_length_le hlength).mem_iff
  · intro hsame
    exact (hys.subperm fun x hx => (hsame x).2 hx).length_le

namespace Synchronizer

variable {s s' : Synchronizer α} {acts : List (Act α)} {u : Turn α}

/-! ## The boundary -/

theorem Acts.boundary_le {a : Act α} (h : s.Acts a s') :
    s.marks.boundary ≤ s'.marks.boundary := by
  have halike := h.alike
  cases h with
  | @accept a ha =>
    rw [(s.admitted_accept a).marks]
    split
    next hstart =>
      -- The startup rule only fires while the boundary stands where it began.
      have hunresolved := Watermarks.unresolved_iff.1 (Bool.and_eq_true_iff.1 hstart).2
      rw [hunresolved]
      exact PulseId.minValue_le _
    next => exact Int64.le_refl _
  | resolve hopen h =>
    obtain ⟨w, -, -, -, rfl⟩ := resolveOldest_eq_some h
    rw [(settle_alike (s.remove _) _).1.marks]
    show s.marks.boundary ≤ max s.marks.boundary _
    rw [PulseId.max_eq]
    grind
  | _ =>
    rw [(halike rfl rfl).marks]
    exact Int64.le_refl _

theorem Runs.boundary_le (h : s.Runs acts s') : s.marks.boundary ≤ s'.marks.boundary := by
  induction h with
  | refl => exact Int64.le_refl _
  | step _ act ih => exact Int64.le_trans ih act.boundary_le

theorem Sound.boundary_lt (h : Sound acts s) (hu : s.Acts (.resolve u) s') :
    s.marks.boundary < u.pulse ∧ s'.marks.boundary = u.pulse := by
  obtain ⟨-, -, -, w, hfirst, -⟩ := hu.of_resolve
  have hlast : (Act.turns (acts ++ [Act.resolve u])).getLast? = some u := by
    rw [Act.turns_append]
    exact List.getLast?_concat
  exact ⟨h.held.above (u.pulse, w) (SortedMap.mem_of_first? hfirst).1,
    ((h.resolve hu).last u hlast).1⟩

theorem Runs.lt_of_arrival (h : s.Runs acts s') {a : Arrival α} (ha : a ∈ Act.arrivals acts) :
    s.marks.boundary < a.pulse := by
  obtain ⟨before, after, t, t', -, hbefore, hact, -⟩ := h.around (Act.mem_arrivals.1 ha)
  have hrise := hbefore.boundary_le
  cases hact with
  | accept hwelcome =>
    have hlow : t.marks.boundary < a.pulse := hwelcome.2.2
    grind

theorem Runs.turn (h : s.Runs acts s') (hfresh : s.Fresh) (hu : u ∈ Act.turns acts) :
    ∃ before after t', acts = before ++ [.resolve u] ++ after ∧ s.Runs before u.before ∧
      Sound before u.before ∧ u.before.Acts (.resolve u) t' ∧ t'.Runs after s' := by
  obtain ⟨before, after, t, t', hsplit, hbefore, hact, hafter⟩ := h.around (Act.mem_turns.1 hu)
  have hsame := hact.of_resolve.1
  rw [← hsame] at hbefore hact
  exact ⟨before, after, t', hsplit, hbefore, hbefore.sound hfresh, hact, hafter⟩

theorem Runs.passed (h : s.Runs acts s') (hfresh : s.Fresh) (hu : u ∈ Act.turns acts) :
    Int64.minValue < u.pulse ∧ u.pulse ≤ s'.marks.boundary := by
  obtain ⟨before, after, t', -, -, hsound, hact, hafter⟩ := h.turn hfresh hu
  obtain ⟨hlow, hhigh⟩ := hsound.boundary_lt hact
  have hmin := PulseId.minValue_le u.before.marks.boundary
  have hrise := hafter.boundary_le
  rw [hhigh] at hrise
  exact ⟨by grind, hrise⟩

/-- Pulses are resolved in ascending order. -/
theorem Runs.ascending (h : s.Runs acts s') (hfresh : s.Fresh) :
    (Act.turns acts).Pairwise (fun u v => u.pulse < v.pulse) := by
  induction h with
  | refl => exact .nil
  | @step t t' acts a hrun hact ih =>
    rw [Act.turns_append]
    cases a with
    | resolve u =>
      refine List.pairwise_append.2 ⟨ih, List.pairwise_singleton _ u, ?_⟩
      intro v hv u' hu'
      rw [List.mem_singleton.1 hu']
      -- The boundary has passed all earlier pulses, and the resolved one is above it.
      have hpassed := (hrun.passed hfresh hv).2
      have hlow := ((hrun.sound hfresh).boundary_lt hact).1
      grind
    | _ => rwa [show Act.turns [_] = [] from rfl, List.append_nil]

/-! ## The values -/

theorem Sound.size_le (h : Sound acts s) {pulses : List PulseId}
    (hpulses : ∀ a ∈ Act.arrivals acts, a.pulse ∈ pulses) : s.buffer.size ≤ pulses.length := by
  have hkeys : s.buffer.keys ⊆ pulses := by
    intro p hp
    obtain ⟨w, hw⟩ := SortedMap.contains_iff.1 (SortedMap.mem_keys_iff.1 hp)
    obtain ⟨a, ha, rfl⟩ := h.held.arrived hw
    exact hpulses a ha
  rw [← SortedMap.length_keys]
  exact (s.buffer.keys_nodup.subperm hkeys).length_le

/-- A bundle has the last value of each channel that arrived for its pulse, and none ever arrives
after the resolution. -/
theorem Runs.get?_turn (h : s.Runs acts s') (hfresh : s.Fresh) (hu : u ∈ Act.turns acts)
    (channel : String) :
    u.bundle.get? channel = latest? (Act.arrivals acts) channel u.pulse := by
  obtain ⟨before, after, t', hsplit, -, hsound, hact, hafter⟩ := h.turn hfresh hu
  obtain ⟨-, -, -, w, hfirst, -, hbundle⟩ := hact.of_resolve
  -- The boundary stands at the pulse from now on, so nothing arrives for it any more.
  have hlater : ∀ a ∈ Act.arrivals after, a.pulse ≠ u.pulse := by
    intro a ha heq
    have hlow := hafter.lt_of_arrival ha
    rw [(hsound.boundary_lt hact).2, heq] at hlow
    exact Int64.lt_irrefl hlow
  rw [hsplit, Act.arrivals_around, latest?_append_of_ne hlater,
    ← hsound.held.values _ (SortedMap.mem_of_first? hfirst).1 channel, hbundle]
  rfl

theorem Runs.mem_channels_turn (h : s.Runs acts s') (hfresh : s.Fresh)
    (hu : u ∈ Act.turns acts) {channel : String} :
    channel ∈ u.bundle.channels ↔
      ∃ a ∈ Act.arrivals acts, a.message.channel = channel ∧ a.pulse = u.pulse := by
  rw [Bundle.mem_channels_iff, h.get?_turn hfresh hu, latest?_isSome_iff]

theorem Runs.channels_turn_subset (h : s.Runs acts s') (hfresh : s.Fresh)
    (hu : u ∈ Act.turns acts) :
    u.bundle.channels ⊆ s.schedules.expectedChannels u.pulse := by
  intro channel hchannel
  obtain ⟨a, ha, rfl, hpulse⟩ := (h.mem_channels_turn hfresh hu).1 hchannel
  have hexpected := (h.sound hfresh).expected a ha
  rwa [h.frame.schedules, hpulse] at hexpected

theorem Runs.channels_turn_ne_nil (h : s.Runs acts s') (hfresh : s.Fresh)
    (hu : u ∈ Act.turns acts) : u.bundle.channels ≠ [] := by
  obtain ⟨before, after, t', hsplit, -, hsound, hact, -⟩ := h.turn hfresh hu
  obtain ⟨-, -, -, w, hfirst, -⟩ := hact.of_resolve
  obtain ⟨a, ha, hpulse⟩ := hsound.held.arrived (SortedMap.mem_of_first? hfirst).1
  have hin : a ∈ Act.arrivals acts := by
    rw [hsplit, Act.arrivals_around]
    exact List.mem_append_left _ ha
  exact List.ne_nil_of_mem ((h.mem_channels_turn hfresh hu).2 ⟨a, hin, rfl, hpulse⟩)

theorem Runs.arrival_of_turn (h : s.Runs acts s') (hfresh : s.Fresh)
    (hu : u ∈ Act.turns acts) : ∃ a ∈ Act.arrivals acts, a.pulse = u.pulse := by
  obtain ⟨channel, hchannel⟩ := List.exists_mem_of_ne_nil _ (h.channels_turn_ne_nil hfresh hu)
  obtain ⟨a, ha, -, hpulse⟩ := (h.mem_channels_turn hfresh hu).1 hchannel
  exact ⟨a, ha, hpulse⟩

theorem Runs.expected_turn (h : s.Runs acts s') (hfresh : s.Fresh) (hu : u ∈ Act.turns acts) :
    u.bundle.expected = s.schedules.expectedCount u.pulse := by
  obtain ⟨before, after, t', -, hbefore, -, hact, -⟩ := h.turn hfresh hu
  obtain ⟨-, -, -, w, -, -, hbundle⟩ := hact.of_resolve
  rw [hbundle, hbefore.frame.schedules]

theorem Runs.expectedCount_turn_pos (h : s.Runs acts s') (hfresh : s.Fresh)
    (hu : u ∈ Act.turns acts) : 0 < s.schedules.expectedCount u.pulse := by
  obtain ⟨channel, hchannel⟩ := List.exists_mem_of_ne_nil _ (h.channels_turn_ne_nil hfresh hu)
  exact ScheduleSet.expectedCount_pos_of_mem (h.channels_turn_subset hfresh hu hchannel)

/-- Counting is enough: a bundle with as many channels as expected has the channels expected. -/
theorem Runs.isComplete_turn_iff (h : s.Runs acts s') (hfresh : s.Fresh)
    (hu : u ∈ Act.turns acts) :
    u.bundle.isComplete = true ↔
      ∀ channel, channel ∈ u.bundle.channels ↔
        channel ∈ s.schedules.expectedChannels u.pulse := by
  rw [← length_le_iff_of_subset u.bundle.channels_nodup
    (s.schedules.expectedChannels_nodup u.pulse) (h.channels_turn_subset hfresh hu),
    Bundle.length_channels, ScheduleSet.length_expectedChannels, ← h.expected_turn hfresh hu]
  exact decide_eq_true_iff

theorem Runs.size_turn_le (h : s.Runs acts s') (hfresh : s.Fresh) (hu : u ∈ Act.turns acts) :
    u.bundle.size ≤ u.bundle.expected := by
  rw [← Bundle.length_channels, h.expected_turn hfresh hu,
    ← ScheduleSet.length_expectedChannels]
  exact (u.bundle.channels_nodup.subperm (h.channels_turn_subset hfresh hu)).length_le

end Synchronizer

end PulseJoin
