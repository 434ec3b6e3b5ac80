import Mathlib
import PulseJoin.Bundle

/-!
# Arrivals

The messages a synchronizer has taken in, in the order in which it took them, each with the clock
reading it found.  For a channel and a pulse the last arrival counts, for the age of a pulse the
first one.
-/

namespace PulseJoin

universe u

/-- A message that was taken in, and the milliseconds on the clock at that time. -/
structure Arrival (α : Type u) where
  clock : UInt64
  message : Message α

namespace Arrival

variable {α : Type u}

def pulse (a : Arrival α) : PulseId := a.message.pulse

/-- The last value that arrived from a channel for a pulse. -/
def latest? (arrivals : List (Arrival α)) (channel : String) (p : PulseId) : Option α :=
  (arrivals.filter fun a => a.message.channel == channel && a.pulse == p).getLast?.map
    (·.message.payload)

def first? (arrivals : List (Arrival α)) (p : PulseId) : Option (Arrival α) :=
  arrivals.find? (·.pulse == p)

theorem latest?_concat (arrivals : List (Arrival α)) (a : Arrival α) (channel : String)
    (p : PulseId) :
    latest? (arrivals ++ [a]) channel p =
      if a.message.channel = channel ∧ a.pulse = p then some a.message.payload
      else latest? arrivals channel p := by
  unfold latest?
  rw [List.filter_append]
  split
  next h =>
    rw [List.filter_cons_of_pos (by simpa using h)]
    simp
  next h =>
    rw [List.filter_cons_of_neg (by simpa using h)]
    simp

theorem latest?_append_of_ne {later : List (Arrival α)} {p : PulseId}
    (h : ∀ a ∈ later, a.pulse ≠ p) (arrivals : List (Arrival α)) (channel : String) :
    latest? (arrivals ++ later) channel p = latest? arrivals channel p := by
  have hnone : later.filter (fun a => a.message.channel == channel && a.pulse == p) = [] := by
    rw [List.filter_eq_nil_iff]
    intro a ha
    simp [h a ha]
  rw [latest?, List.filter_append, hnone, List.append_nil, latest?]

theorem latest?_isSome_iff {arrivals : List (Arrival α)} {channel : String} {p : PulseId} :
    (latest? arrivals channel p).isSome = true ↔
      ∃ a ∈ arrivals, a.message.channel = channel ∧ a.pulse = p := by
  rw [latest?, Option.isSome_map, List.getLast?_isSome, ne_eq,
    List.filter_eq_nil_iff]
  simp

theorem mem_of_latest? {arrivals : List (Arrival α)} {channel : String} {p : PulseId} {v : α}
    (h : latest? arrivals channel p = some v) :
    ∃ a ∈ arrivals, a.message.channel = channel ∧ a.pulse = p ∧ a.message.payload = v := by
  obtain ⟨a, ha, hv⟩ := Option.map_eq_some_iff.1 h
  obtain ⟨hmem, hkey⟩ := List.mem_filter.1 (List.mem_of_getLast? ha)
  rw [Bool.and_eq_true, beq_iff_eq, beq_iff_eq] at hkey
  exact ⟨a, hmem, hkey.1, hkey.2, hv⟩

theorem first?_isSome_iff {arrivals : List (Arrival α)} {p : PulseId} :
    (first? arrivals p).isSome = true ↔ ∃ a ∈ arrivals, a.pulse = p := by
  simp [first?]

theorem mem_of_first? {arrivals : List (Arrival α)} {p : PulseId} {a : Arrival α}
    (h : first? arrivals p = some a) : a ∈ arrivals ∧ a.pulse = p :=
  ⟨List.mem_of_find?_eq_some h, by simpa using List.find?_some h⟩

theorem first?_append_of_some {arrivals : List (Arrival α)} {p : PulseId} {a : Arrival α}
    (h : first? arrivals p = some a) (later : List (Arrival α)) :
    first? (arrivals ++ later) p = some a := by
  rw [first?, List.find?_append, ← first?, h]
  rfl

end Arrival

end PulseJoin
