import PulseJoin.Proofs.Synchronizer.Counters
import PulseJoin.Proofs.Synchronizer.Deliveries

/-!
# The books balance

Each pulse that arrives stays in the buffer until it is resolved or set aside, once and for all, and
takes all its values along.  So the pulses that arrived and the values that replaced none are, in
number, those resolved, those set aside and those still buffered (`Balanced`).
-/

namespace PulseJoin

universe u

variable {α : Type u}

/-! ## Storing a value -/

namespace PulseBuffer

/-- Number of values in the entries of a list. -/
def valueCount (entries : List (PulseId × Pending α)) : Nat := (entries.map (·.2.size)).sum

theorem valueCount_append (es es' : List (PulseId × Pending α)) :
    valueCount (es ++ es') = valueCount es + valueCount es' := by
  unfold valueCount
  rw [List.map_append, List.sum_append]

theorem valueCount_perm {es es' : List (PulseId × Pending α)} (h : es.Perm es') :
    valueCount es = valueCount es' :=
  (h.map _).sum_eq

variable (b : PulseBuffer α) (p : PulseId) (channel : String) (v : α) (now : UInt64)

theorem size_store :
    (b.store p channel v now).size = b.size + if b.contains p then 0 else 1 :=
  b.size_insert p _

theorem valueCount_store :
    valueCount (b.store p channel v now).toList + (b.storing p channel v now).replaced.toNat =
      valueCount b.toList + 1 := by
  have hstored := valueCount_perm (b.perm_insert p
    { b.entry p now with values := (b.entry p now).values.insert channel v })
  have hentry : ((b.entry p now).values.insert channel v).size +
      (b.storing p channel v now).replaced.toNat = (b.entry p now).size + 1 := by
    rw [SortedMap.size_insert]
    show _ + ((b.entry p now).values.contains channel).toNat = (b.entry p now).values.size + 1
    cases (b.entry p now).values.contains channel <;> rfl
  have hrest : valueCount b.toList = (b.entry p now).size + valueCount (b.erase p).toList := by
    rcases b.entry_cases p now with hold | ⟨habsent, hnew⟩
    · exact valueCount_perm (SortedMap.perm_of_mem hold)
    · rw [SortedMap.erase_of_absent habsent, hnew]
      exact (Nat.zero_add _).symm
  show valueCount (b.insert p _).toList + _ = _
  rw [hstored, hrest]
  show ((b.entry p now).values.insert channel v).size + valueCount (b.erase p).toList + _ = _
  omega

theorem valueCount_cut :
    valueCount (b.below p).toList + valueCount (b.above p).toList = valueCount b.toList := by
  rw [← valueCount_append]
  exact valueCount_perm (b.perm_below_above p)

theorem size_cut : (b.below p).size + (b.above p).size = b.size := by
  have hlength := (b.perm_below_above p).length_eq
  rwa [List.length_append] at hlength

end PulseBuffer

/-! ## Pulses and values -/

namespace Synchronizer

variable {s s' : Synchronizer α} {acts : List (Act α)} {aside : List (PulseId × Pending α)}

/-- Where the pulses that arrived are, and where their values; `aside` lists the pulses that the
startup rule set aside. -/
structure Balanced (acts : List (Act α)) (aside : List (PulseId × Pending α))
    (s : Synchronizer α) : Prop where
  remarks : ∀ k ∈ Tally.ofRemarks, s.tally k = k.sum (Act.remarks acts)
  buffered : s.tally .buffered = (Act.arrivals acts).length
  discarded : s.tally .startupDiscarded = aside.length
  pulses : ((Act.arrivals acts).map Arrival.pulse).toFinset.card =
    (Act.turns acts).length + aside.length + s.buffer.size
  values : (Act.arrivals acts).length = s.tally .duplicates +
    ((Act.turns acts).map (·.bundle.size)).sum + PulseBuffer.valueCount aside +
    PulseBuffer.valueCount s.buffer.toList

theorem setAside_cut (s : Synchronizer α) (a : Arrival α) :
    let stored := s.buffer.store a.pulse a.message.channel a.message.payload a.clock
    let kept := (s.accept a.clock a.message).buffer
    (s.setAside a).size + kept.size = stored.size ∧
      PulseBuffer.valueCount (s.setAside a).toList + PulseBuffer.valueCount kept.toList =
        PulseBuffer.valueCount stored.toList := by
  intro stored kept
  have hkept : kept = if s.startsWith a then stored.above a.pulse else stored :=
    (s.admitted_accept a).buffer
  unfold setAside
  rw [hkept]
  split
  · exact ⟨stored.size_cut a.pulse, stored.valueCount_cut a.pulse⟩
  · exact ⟨Nat.zero_add _, Nat.zero_add _⟩

theorem Sound.mem_pulses_iff (h : Sound acts s) {p : PulseId} (hp : s.marks.boundary < p) :
    p ∈ ((Act.arrivals acts).map Arrival.pulse).toFinset ↔ s.buffer.contains p = true := by
  rw [List.mem_toFinset, List.mem_map]
  constructor
  · intro ⟨a, ha, hpulse⟩
    rcases h.held.kept a ha with hpassed | hbuffered
    · exact absurd (hpulse ▸ hpassed) (Int64.not_le.2 hp)
    · exact hpulse ▸ hbuffered
  · intro hbuffered
    obtain ⟨w, hw⟩ := SortedMap.contains_iff.1 hbuffered
    exact h.held.arrived hw

namespace Balanced

theorem of_fresh (h : s.Fresh) (hquiet : ∀ k, s.tally k = 0) : Balanced [] [] s where
  remarks k _ := hquiet k
  buffered := hquiet _
  discarded := hquiet _
  pulses := by rw [h.buffer]; rfl
  values := by rw [h.buffer, hquiet]; rfl

theorem keep {act : Act α} (h : Balanced acts aside s) (hact : s.Acts act s')
    (harrivals : Act.arrivals [act] = []) (hturns : Act.turns [act] = [])
    (hsum : ∀ k : Tally, k.sum (s.events act) = k.sum (Act.remarks [act]))
    (hother : ∀ k ∈ Tally.ofAdmissions, k.sum (Act.remarks [act]) = 0) :
    Balanced (acts ++ [act]) aside s' := by
  have hbuffer := (hact.alike harrivals hturns).buffer
  have htally (k : Tally) : s'.tally k = k.sum (Act.remarks [act]) + s.tally k := by
    rw [hact.notes.tally, hsum]
  have hsame {k : Tally} (hk : k ∈ Tally.ofAdmissions) : s'.tally k = s.tally k := by
    rw [htally, hother k hk, Nat.zero_add]
  constructor
  case remarks =>
    intro k hk
    rw [htally, h.remarks k hk, Act.remarks_append, Tally.sum_append, Nat.add_comm]
  case buffered =>
    rw [hsame (by decide), Act.arrivals_append, harrivals, List.append_nil]
    exact h.buffered
  case discarded =>
    rw [hsame (by decide)]
    exact h.discarded
  case pulses =>
    rw [Act.arrivals_append, harrivals, Act.turns_append, hturns, List.append_nil, List.append_nil,
      hbuffer]
    exact h.pulses
  case values =>
    rw [hsame (by decide), Act.arrivals_append, harrivals, Act.turns_append, hturns,
      List.append_nil, List.append_nil, hbuffer]
    exact h.values

theorem accept {a : Arrival α} (h : Balanced acts aside s) (hsound : Sound acts s)
    (ha : s.Welcomes a.message) :
    Balanced (acts ++ [Act.accept a]) (aside ++ (s.setAside a).toList)
      (s.accept a.clock a.message) := by
  have htally := (s.notes_accept a).tally
  have harrivals : Act.arrivals (acts ++ [Act.accept a]) = Act.arrivals acts ++ [a] :=
    Act.arrivals_append _ _
  have hturns : Act.turns (acts ++ [Act.accept a]) = Act.turns acts := by simp [Act.turns]
  obtain ⟨hsize, hvalues⟩ := s.setAside_cut a
  constructor
  case remarks =>
    intro k hk
    rw [htally, sum_acceptEvents_eq_zero (List.mem_append_left _ hk), Act.remarks_append,
      Tally.sum_append, ← h.remarks k hk]
    exact Nat.zero_add _
  case buffered =>
    rw [htally, sum_acceptEvents, harrivals, List.length_append, h.buffered]
    exact Nat.add_comm _ _
  case discarded =>
    rw [htally, sum_acceptEvents, List.length_append, h.discarded]
    exact Nat.add_comm _ _
  case pulses =>
    -- A pulse above the boundary arrived before exactly if it is still buffered.
    have hmem := hsound.mem_pulses_iff (p := a.pulse) ha.2.2
    have hstored := s.buffer.size_store a.pulse a.message.channel a.message.payload a.clock
    have hset : ((Act.arrivals acts ++ [a]).map Arrival.pulse).toFinset =
        insert a.pulse ((Act.arrivals acts).map Arrival.pulse).toFinset := by
      rw [List.map_append, List.toFinset_append]
      exact Finset.union_comm _ _
    have hbefore := h.pulses
    rw [harrivals, hturns, hset, Finset.card_insert_eq_ite, List.length_append]
    simp only [hmem]
    show _ = _ + (_ + (s.setAside a).size) + _
    split
    next hbuffered => rw [if_pos hbuffered] at hstored; omega
    next hnew => rw [if_neg hnew] at hstored; omega
  case values =>
    have hstored := s.buffer.valueCount_store a.pulse a.message.channel a.message.payload a.clock
    have hbefore := h.values
    rw [htally, sum_acceptEvents, harrivals, hturns, List.length_append,
      PulseBuffer.valueCount_append]
    show _ + 1 =
      (s.buffer.storing a.pulse a.message.channel a.message.payload a.clock).replaced.toNat +
        _ + _ + _ + _
    omega

theorem resolve {u : Turn α} (h : Balanced acts aside s) (hu : s.Acts (.resolve u) s') :
    Balanced (acts ++ [Act.resolve u]) aside s' := by
  have htally := hu.notes.tally
  obtain ⟨-, -, rfl, w, hfirst, -, hbundle⟩ := hu.of_resolve
  have hbuffer : ((s.remove u.pulse).settle u.resolution).buffer = s.buffer.erase u.pulse :=
    ((s.remove u.pulse).settle_alike u.resolution).1.buffer
  -- The first entry becomes the last resolution, and both sums keep their totals.
  have hentries : s.buffer.toList = (u.pulse, w) :: (s.buffer.erase u.pulse).toList :=
    SortedMap.erase_first hfirst
  have harrivals : Act.arrivals (acts ++ [Act.resolve u]) = Act.arrivals acts := by
    simp [Act.arrivals]
  have hturns : Act.turns (acts ++ [Act.resolve u]) = Act.turns acts ++ [u] := Act.turns_append _ _
  have hsame {k : Tally} (hk : k ∈ Tally.ofRemarks ++ Tally.ofAdmissions) :
      ((s.remove u.pulse).settle u.resolution).tally k = s.tally k := by
    rw [htally, sum_resolve_eq_zero hk, Nat.zero_add]
  constructor
  case remarks =>
    intro k hk
    rw [hsame (List.mem_append_left _ hk), h.remarks k hk, Act.remarks_append]
    simp [Act.remarks]
  case buffered =>
    rw [hsame (by decide), harrivals]
    exact h.buffered
  case discarded =>
    rw [hsame (by decide)]
    exact h.discarded
  case pulses =>
    have hbefore := h.pulses
    have hsize : s.buffer.size = (s.buffer.erase u.pulse).size + 1 := congrArg List.length hentries
    rw [harrivals, hturns, hbuffer, List.length_append, List.length_singleton]
    omega
  case values =>
    have hbefore := h.values
    have hcount : PulseBuffer.valueCount s.buffer.toList =
        u.bundle.size + PulseBuffer.valueCount (s.buffer.erase u.pulse).toList := by
      rw [hentries, hbundle]
      rfl
    rw [hsame (by decide), harrivals, hturns, hbuffer, List.map_append, List.sum_append,
      List.map_singleton, List.sum_singleton]
    omega

theorem step {act : Act α} (h : Balanced acts aside s) (hact : s.Acts act s')
    (harrivals : Act.arrivals [act] = []) : Balanced (acts ++ [act]) aside s' := by
  have hkeep := h.keep hact harrivals
  cases hact with
  | remark hremark =>
    apply hkeep rfl (fun _ => rfl)
    exact fun k hk => adds_of_isRemark hremark (List.mem_append_left _ hk)
  | accept => cases harrivals
  | look hlook => exact hkeep rfl (fun k => sum_lookEvents s _ k) (fun _ _ => rfl)
  | resolve hopen hr => exact h.resolve (.resolve hopen hr)
  | take htake => exact hkeep rfl (fun _ => rfl) (fun _ _ => rfl)
  | close hopen =>
    apply hkeep rfl _ (fun _ _ => rfl)
    intro k
    cases k <;> rfl

theorem run {later : List (Act α)} (h : Balanced acts aside s) (hrun : s.Runs later s')
    (hnone : Act.arrivals later = []) : Balanced (acts ++ later) aside s' := by
  induction hrun with
  | refl => rwa [List.append_nil]
  | step _ act ih =>
    rw [Act.arrivals_append, List.append_eq_nil_iff] at hnone
    rw [← List.append_assoc]
    exact (ih hnone.1).step act hnone.2

end Balanced

end Synchronizer

end PulseJoin
