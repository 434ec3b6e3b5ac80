import PulseJoin.Proofs.Buffer
import PulseJoin.Proofs.Synchronizer.Arrival

/-!
# The buffer as a finite map

Values are inserted into the buffer one by one, and pulses are taken out of it singly or from the
oldest end.  After any calls the entry of a pulse is made of the arrivals behind the last call that
took the pulse out, and there is no other entry (`get?_run`).
-/

namespace PulseJoin

universe u

variable {α : Type u}

namespace PulseBuffer

open Arrival

inductive Call (α : Type u) where
  | insert (a : Arrival α)
  | remove (p : PulseId)
  | discardBefore (p : PulseId)

inductive Answer (α : Type u) where
  | stored (s : Stored)
  | removed (w? : Option (Pending α))
  | discarded (entries : List (PulseId × Pending α))

def step (b : PulseBuffer α) : Call α → Answer α × PulseBuffer α
  | .insert a =>
    (.stored (b.storing a.pulse a.message.channel a.message.payload a.clock),
      b.store a.pulse a.message.channel a.message.payload a.clock)
  | .remove p => (.removed (b.get? p), b.erase p)
  | .discardBefore p => (.discarded (b.below p).toList, b.above p)

def run (calls : List (Call α)) : PulseBuffer α :=
  calls.foldl (fun b call => (b.step call).2) .empty

/-! ## What is in the buffer -/

/-- Whether a call takes a pulse out. -/
def Call.takes (p : PulseId) : Call α → Bool
  | .insert _ => false
  | .remove q => q == p
  | .discardBefore q => p < q

/-- The arrival of a call, if it is one for a pulse. -/
def Call.arrival? (p : PulseId) : Call α → Option (Arrival α)
  | .insert a => if a.pulse = p then some a else none
  | _ => none

/-- The arrivals for a pulse behind the last call that took it out. -/
def since (p : PulseId) (calls : List (Call α)) : List (Arrival α) :=
  (calls.rtakeWhile (!·.takes p)).filterMap (·.arrival? p)

/-- The entry that arrivals for one pulse make. -/
def entryOf? (arrivals : List (Arrival α)) : Option (Pending α) :=
  arrivals.head?.map fun first =>
    ⟨first.pulse, first.clock,
      .ofList (arrivals.map fun a => (a.message.channel, a.message.payload))⟩

theorem since_concat (p : PulseId) (calls : List (Call α)) (call : Call α) :
    since p (calls ++ [call]) =
      if call.takes p then [] else since p calls ++ (call.arrival? p).toList := by
  unfold since
  rw [List.rtakeWhile_concat]
  cases call.takes p
  · cases h : call.arrival? p <;> simp [h]
  · rfl

theorem run_concat (calls : List (Call α)) (call : Call α) :
    run (calls ++ [call]) = ((run calls).step call).2 := by
  unfold run
  rw [List.foldl_append]
  rfl

theorem entryOf?_concat (arrivals : List (Arrival α)) (a : Arrival α) :
    entryOf? (arrivals ++ [a]) =
      let old := (entryOf? arrivals).getD ⟨a.pulse, a.clock, .empty⟩
      some { old with values := old.values.insert a.message.channel a.message.payload } := by
  unfold entryOf?
  rw [List.map_append, List.map_singleton, SortedMap.ofList_concat]
  cases arrivals <;> rfl

/-- The buffer has the entries that its arrivals make, and no others. -/
theorem get?_run (calls : List (Call α)) (p : PulseId) :
    (run calls).get? p = entryOf? (since p calls) := by
  induction calls using List.reverseRecOn with
  | nil => rfl
  | append_singleton calls call ih =>
    rw [run_concat, since_concat]
    cases call with
    | insert a =>
      show (PulseBuffer.store ..).get? p =
        entryOf? (since p calls ++ (Call.arrival? p (.insert a)).toList)
      rw [get?_store, Call.arrival?]
      split
      next h =>
        subst h
        rw [if_pos rfl, entry, ih]
        exact (entryOf?_concat _ a).symm
      next h =>
        rw [if_neg (Ne.symm h), ih]
        simp
    | remove q =>
      show (SortedMap.erase _ q).get? p = _
      rw [get?_erase, ih]
      by_cases h : p = q
      · simp [Call.takes, h, entryOf?]
      · simp [Call.takes, Call.arrival?, h, Ne.symm h]
    | discardBefore q =>
      show (SortedMap.above _ q).get? p = _
      rw [get?_above, ih]
      by_cases h : p < q <;> simp [Call.takes, Call.arrival?, entryOf?, h]

/-! ## Entries -/

theorem pulse_of_mem_since {p : PulseId} {calls : List (Call α)} {a : Arrival α}
    (h : a ∈ since p calls) : a.pulse = p := by
  obtain ⟨call, -, hcall⟩ := List.mem_filterMap.1 h
  cases call with
  | insert a' =>
    obtain ⟨hpulse, heq⟩ := Option.ite_none_right_eq_some.1 hcall
    cases heq
    exact hpulse
  | remove q => cases hcall
  | discardBefore q => cases hcall

def channelsOf (arrivals : List (Arrival α)) : Finset String :=
  (arrivals.map (·.message.channel)).toFinset

theorem get?_ofList_arrivals {arrivals : List (Arrival α)} {p : PulseId}
    (h : ∀ a ∈ arrivals, a.pulse = p) (channel : String) :
    (SortedMap.ofList (arrivals.map fun a => (a.message.channel, a.message.payload))).get?
      channel = latest? arrivals channel p := by
  induction arrivals using List.reverseRecOn with
  | nil => rfl
  | append_singleton arrivals a ih =>
    rw [List.forall_mem_append, List.forall_mem_singleton] at h
    rw [List.map_append, List.map_singleton, SortedMap.ofList_concat, SortedMap.get?_insert,
      latest?_concat, ih h.1]
    simp [h.2, eq_comm]

/-- An entry that shows arrivals, all of them for its pulse: the last value of every channel, and
the clock reading of the first arrival. -/
structure Shows (arrivals : List (Arrival α)) (p : PulseId) (w : Pending α) : Prop where
  key : w.pulse = p
  pulse : ∀ a ∈ arrivals, a.pulse = p
  created : arrivals.head?.map (·.clock) = some w.createdAt
  values : ∀ channel, w.values.get? channel = latest? arrivals channel p
  size : w.size = (channelsOf arrivals).card
  size_pos : 0 < w.size

theorem contains_iff_mem_channelsOf {arrivals : List (Arrival α)} {p : PulseId}
    {values : ChannelMap α} (hpulse : ∀ a ∈ arrivals, a.pulse = p)
    (hvalues : ∀ channel, values.get? channel = latest? arrivals channel p) {channel : String} :
    values.contains channel = true ↔ channel ∈ channelsOf arrivals := by
  unfold SortedMap.contains channelsOf
  rw [hvalues, latest?_isSome_iff, List.mem_toFinset, List.mem_map]
  constructor
  · rintro ⟨a, ha, hchannel, -⟩
    exact ⟨a, ha, hchannel⟩
  · rintro ⟨a, ha, hchannel⟩
    exact ⟨a, ha, hchannel, hpulse a ha⟩

theorem shows_of_entryOf? {arrivals : List (Arrival α)} {p : PulseId} {w : Pending α}
    (hpulse : ∀ a ∈ arrivals, a.pulse = p) (h : entryOf? arrivals = some w) :
    Shows arrivals p w := by
  obtain ⟨first, hfirst, rfl⟩ := Option.map_eq_some_iff.1 h
  have hvalues := get?_ofList_arrivals hpulse
  have hkeys : (SortedMap.ofList (arrivals.map fun a =>
      (a.message.channel, a.message.payload))).keys.toFinset = channelsOf arrivals := by
    ext channel
    rw [List.mem_toFinset, SortedMap.mem_keys_iff, contains_iff_mem_channelsOf hpulse hvalues]
  have hsize : (SortedMap.ofList (arrivals.map fun a =>
      (a.message.channel, a.message.payload))).size = (channelsOf arrivals).card := by
    rw [← hkeys, List.toFinset_card_of_nodup (SortedMap.keys_nodup _), SortedMap.length_keys]
  have hkey : first.pulse = p := hpulse first (List.mem_of_mem_head? hfirst)
  refine ⟨hkey, hpulse, by rw [hfirst]; rfl, hvalues, hsize, ?_⟩
  show 0 < SortedMap.size _
  rw [hsize, Finset.card_pos]
  exact ⟨first.message.channel, List.mem_toFinset.2
    (List.mem_map_of_mem (List.mem_of_mem_head? hfirst))⟩

/-! ## The answers -/

variable {p : PulseId} {w : Pending α}

/-- What a call has to answer in a buffer after some calls, and what it has to leave of it. -/
def Correct (calls : List (Call α)) (b : PulseBuffer α) :
    Call α → Answer α × PulseBuffer α → Prop
  | .insert a, (.stored s, b') =>
    s.filled = (channelsOf (since a.pulse (calls ++ [.insert a]))).card ∧
      (s.replaced = true ↔ a.message.channel ∈ channelsOf (since a.pulse calls)) ∧
      ∀ q, q ≠ a.pulse → b'.get? q = b.get? q
  | .remove p, (.removed w?, b') =>
    w? = b.get? p ∧ ∀ q, b'.get? q = if q = p then none else b.get? q
  | .discardBefore p, (.discarded entries, b') =>
    entries.Pairwise (fun e e' => e.1 < e'.1) ∧
      (∀ q w, (q, w) ∈ entries ↔ q < p ∧ b.get? q = some w) ∧
      ∀ q, b'.get? q = if q < p then none else b.get? q
  | _, _ => False

theorem shows_run {calls : List (Call α)} (h : (run calls).get? p = some w) :
    Shows (since p calls) p w :=
  shows_of_entryOf? (fun _ => pulse_of_mem_since) ((get?_run calls p).symm.trans h)

theorem contains_run_iff {calls : List (Call α)} :
    (run calls).contains p = true ↔ since p calls ≠ [] := by
  unfold SortedMap.contains
  rw [get?_run, entryOf?, Option.isSome_map, List.isSome_head?]

theorem correct_insert (calls : List (Call α)) (a : Arrival α) :
    Correct calls (run calls) (.insert a) ((run calls).step (.insert a)) := by
  refine ⟨?_, ?_, fun q hq => (get?_store ..).trans (if_neg hq)⟩
  · -- The number of values is that of the entry behind the insertion.
    have hentry : ((run calls).step (.insert a)).2.get? a.pulse = _ :=
      (get?_store ..).trans (if_pos rfl)
    rw [← run_concat] at hentry
    exact (shows_run hentry).size
  · show ((run calls).entry a.pulse a.clock).values.contains a.message.channel = true ↔ _
    unfold entry
    cases hold : (run calls).get? a.pulse with
    | none =>
      have hnone : since a.pulse calls = [] := by
        rw [← not_ne_iff, ← contains_run_iff]
        simp [SortedMap.contains, hold]
      rw [hnone]
      exact iff_of_false Bool.false_ne_true (Finset.notMem_empty _)
    | some w =>
      exact contains_iff_mem_channelsOf (fun _ => pulse_of_mem_since) (shows_run hold).values

theorem correct_step (calls : List (Call α)) (call : Call α) :
    Correct calls (run calls) call ((run calls).step call) := by
  cases call with
  | insert a => exact correct_insert calls a
  | remove p => exact ⟨rfl, get?_erase _ p⟩
  | discardBefore p =>
    refine ⟨?_, fun q w => mem_toList_below, get?_above _ p⟩
    exact ((run calls).below p).ascending.imp fun {e e'} => lt_of_compare

/-- After any calls of an empty buffer, a pulse has an entry exactly if a value arrived for it
behind the last call that took it out, and the entry bears its id and shows these arrivals.  The
oldest and the newest id are the ends of the set of these pulses, and their number is its size.
Every further call changes only the entries it is about, and answers with what it found. -/
theorem run_refines_map (calls : List (Call α)) :
    let b := run calls
    (∀ p, b.get? p = none ↔ since p calls = []) ∧
    (∀ p w, b.get? p = some w → Shows (since p calls) p w) ∧
    (∃ ids : Finset PulseId, (∀ p, p ∈ ids ↔ since p calls ≠ []) ∧ b.size = ids.card ∧
      (∀ p, b.oldest? = some p ↔ p ∈ ids ∧ ∀ q ∈ ids, p ≤ q) ∧
      ∀ p, b.newest? = some p ↔ p ∈ ids ∧ ∀ q ∈ ids, q ≤ p) ∧
    (∀ p w, b.first? = some (p, w) ↔ b.oldest? = some p ∧ b.get? p = some w) ∧
    ∀ call, Correct calls b call (b.step call) := by
  intro b
  have hids (p : PulseId) : p ∈ b.keys.toFinset ↔ b.contains p = true := by
    rw [List.mem_toFinset, SortedMap.mem_keys_iff]
  refine ⟨fun p => ?_, fun p w => shows_run, ⟨b.keys.toFinset, ?_, ?_, ?_, ?_⟩,
    fun p w => first?_eq_some_iff, correct_step calls⟩
  · rw [get?_run, entryOf?, Option.map_eq_none_iff, List.head?_eq_none_iff]
  · exact fun p => (hids p).trans contains_run_iff
  · rw [List.toFinset_card_of_nodup (SortedMap.keys_nodup _), SortedMap.length_keys]
  · intro p
    simp only [oldest?_eq_some_iff, hids]
  · intro p
    simp only [newest?_eq_some_iff, hids]

/-- A pulse is taken out and comes back: its age counts from the value that brought it back, and
nothing is left of the value it had before. -/
theorem run_refines_map_recreated :
    let arrive (clock : UInt64) (channel : String) (p : PulseId) (v : Nat) : Call Nat :=
      .insert ⟨clock, ⟨channel, p, v⟩⟩
    let calls := [arrive 10 "a" 5 50, arrive 20 "a" 3 30, .remove 5, arrive 30 "b" 5 51,
      arrive 40 "c" 5 52, .discardBefore 4, arrive 50 "b" 5 53]
    (run calls).get? 3 = none ∧
    ∃ w, (run calls).get? 5 = some w ∧ w.pulse = 5 ∧ w.createdAt = 30 ∧ w.size = 2 ∧
      w.values.get? "a" = none ∧ w.values.get? "b" = some 53 := by
  intro arrive calls
  obtain ⟨hnone, hshows, -⟩ := run_refines_map calls
  refine ⟨(hnone 3).2 rfl, ?_⟩
  cases hw : (run calls).get? 5 with
  | none => exact absurd ((hnone 5).1 hw) (List.cons_ne_nil _ _)
  | some w =>
    have h := hshows 5 w hw
    exact ⟨w, rfl, h.key, (Option.some_inj.1 h.created).symm, h.size.trans (by decide),
      h.values "a", h.values "b"⟩

end PulseBuffer

end PulseJoin
