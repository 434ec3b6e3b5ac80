import PulseJoin.Proofs.Session.Contents
import PulseJoin.Proofs.Synchronizer.Abreast

/-!
# Shifted sessions

Pulse ids have no meaning of their own: if every id a session is told is a whole number of all
periods further on, the session does the same, with its ids as far on.
-/

namespace PulseJoin

universe u

variable {α : Type u} {K : Int}

def Op.shift (K : Int) : Op α → Op α
  | .add m => .add (m.shift K)
  | op => op

def Response.shift (K : Int) : Response α → Response α
  | .bundle b => .bundle (b.map (·.shift K))
  | .receipt r => .receipt (r.shift K)
  | r => r

namespace Session

variable {c : Config} {clock : UInt64} {t t' : Session α}

/-- Two sessions with one clock reading, the second one `K` pulses on. -/
structure Abreast (K : Int) (t t' : Session α) : Prop where
  clock : t'.clock = t.clock
  synchronizer : Synchronizer.Abreast K t.synchronizer t'.synchronizer

theorem abreast_of_create (h : create c clock = .ok t)
    (hK : ∀ s ∈ c.channels, s.period.toInt ∣ K) : Abreast K t t := by
  obtain ⟨faultless, rfl⟩ := eq_of_create h
  refine ⟨rfl, ⟨?_, rfl⟩⟩
  exact {
    periods := hK
    config := rfl
    schedules := rfl
    buffer := .empty
    fits := nofun
    seen := .inr ⟨rfl, rfl, rfl⟩
    boundary := .inr ⟨rfl, rfl⟩
    outlet := rfl
    closed := rfl
    counters := rfl
    readings := rfl
    journal := rfl }

theorem Abreast.step (h : Abreast K t t') {op : Op α}
    (hop : ∀ m, op = .add m → m.pulse.Fits K) :
    (t'.step (op.shift K)).1 = (t.step op).1.shift K ∧
      Abreast K (t.step op).2 (t'.step (op.shift K)).2 := by
  obtain ⟨s, now⟩ := t
  obtain ⟨s', now'⟩ := t'
  obtain ⟨hclock, hboth⟩ := h
  cases (hclock : now' = now)
  change Synchronizer.Abreast K s s' at hboth
  cases op with
  | add m =>
    obtain ⟨houtcome, hafter⟩ := hboth.add now (hop m rfl)
    exact ⟨congrArg Response.outcome houtcome, rfl, hafter⟩
  | evictExpired =>
    obtain ⟨hcount, hafter⟩ := hboth.evictExpired now
    exact ⟨congrArg Response.resolved hcount, rfl, hafter⟩
  | tryNext =>
    obtain ⟨hbundle, hafter⟩ := hboth.tryNext now
    exact ⟨congrArg Response.bundle hbundle, rfl, hafter⟩
  | next =>
    obtain ⟨hbundle, hafter⟩ := hboth.next now
    exact ⟨congrArg Response.bundle hbundle, rfl, hafter⟩
  | receive =>
    obtain ⟨hreceipt, hafter⟩ := hboth.receive
    exact ⟨congrArg Response.receipt hreceipt, rfl, hafter⟩
  | close => exact ⟨rfl, rfl, hboth.close⟩
  | setClock ms => exact ⟨rfl, rfl, hboth⟩
  | advanceClock ms => exact ⟨rfl, rfl, hboth⟩

theorem Abreast.run (h : Abreast K t t') {ops : List (Op α)}
    (hops : ∀ m, .add m ∈ ops → m.pulse.Fits K) :
    (t'.run (ops.map (·.shift K))).1 = (t.run ops).1.map (·.shift K) ∧
      Abreast K (t.run ops).2 (t'.run (ops.map (·.shift K))).2 := by
  induction ops generalizing t t' with
  | nil => exact ⟨rfl, h⟩
  | cons op ops ih =>
    obtain ⟨hanswer, hafter⟩ := h.step fun m hm => hops m (hm ▸ .head _)
    obtain ⟨hanswers, hend⟩ := ih hafter fun m hm => hops m (.tail _ hm)
    refine ⟨?_, hend⟩
    show (t'.step (op.shift K)).1 :: ((t'.step (op.shift K)).2.run (ops.map (·.shift K))).1 =
      ((t.step op).1 :: ((t.step op).2.run ops).1).map _
    rw [hanswer, hanswers]
    rfl

theorem mem_of_arrival {a : Arrival α} {ops : List (Op α)}
    (ha : a ∈ (t.history ops).arrivals) : .add a.message ∈ ops := by
  induction ops generalizing t with
  | nil => cases ha
  | cons op ops ih =>
    rcases List.mem_append.1 ha with hnow | hlater
    · cases op with
      | add m =>
        change a ∈ (if (t.synchronizer.add t.clock m).1 = .buffered then _ else []) at hnow
        split at hnow
        · rw [List.mem_singleton.1 hnow]
          exact .head _
        · cases hnow
      | _ => cases hnow
    · exact .tail _ (ih hlater)

theorem message_of_bundle (h : create c clock = .ok t) {ops : List (Op α)} {b : Bundle α}
    (hb : b ∈ (t.run ops).1.filterMap Response.bundle? ++ (t.run ops).2.synchronizer.outlet.queue) :
    ∃ m, .add m ∈ ops ∧ m.pulse = b.pulse := by
  obtain ⟨acts, hruns, hacts, hsound⟩ := sound_run h ops
  have htaken : Act.taken acts = (t.run ops).1.filterMap Response.bundle? := by
    rw [← obtained_history, ← hacts]
    rfl
  rw [← htaken] at hb
  obtain ⟨u, hu, rfl⟩ := List.mem_map.1 (List.mem_filter.1 (hsound.queue.subset hb)).1
  obtain ⟨a, ha, hpulse⟩ := hruns.arrival_of_turn (new_of_create h).fresh hu
  have harrived : a ∈ (t.history ops).arrivals := by
    rw [← hacts]
    exact ha
  exact ⟨a.message, mem_of_arrival harrived, hpulse⟩

/-- Let `K` be a multiple of every period, and let every message be for a pulse that is an id above
the least one, also `K` pulses on.  Then the session that is told of the pulses `K` on gives the
same answers with the bundles `K` pulses on: their values and what was expected are the same.  Its
counters and metrics are the same; the buffer, the boundary and the bundles that wait are `K` pulses
on, and none of these ids runs over the end of the range. -/
theorem shift_equivariant (h : create c clock = .ok t)
    (hK : ∀ s ∈ c.channels, s.period.toInt ∣ K) (ops : List (Op α))
    (hops : ∀ m, .add m ∈ ops → m.pulse.Fits K) :
    let final := (t.run ops).2.synchronizer
    let shifted := (t.run (ops.map (·.shift K))).2.synchronizer
    (t.run (ops.map (·.shift K))).1 = (t.run ops).1.map (·.shift K) ∧
    shifted.counters = final.counters ∧ shifted.readings = final.readings ∧
    shifted.buffer.toList = final.buffer.toList.map (fun e => (e.1.shift K, e.2.shift K)) ∧
    shifted.boundary? = final.boundary?.map (·.shift K) ∧
    shifted.outlet.queue = final.outlet.queue.map (·.shift K) ∧
    ∀ p, (p ∈ final.buffer.keys ∨ final.boundary? = some p ∨
      ∃ b ∈ (t.run ops).1.filterMap Response.bundle? ++ final.outlet.queue, b.pulse = p) →
      (p.shift K).toInt = p.toInt + K := by
  intro final shifted
  obtain ⟨hanswers, -, hend⟩ := (abreast_of_create h hK).run hops
  have hboth : Synchronizer.Abreast K final shifted := hend
  refine ⟨hanswers, hboth.counters, hboth.readings, hboth.buffer, hboth.boundary?_eq, ?_, ?_⟩
  · rw [hboth.outlet]
    rfl
  · intro p hp
    suffices hfits : p.Fits K from hfits.moved
    rcases hp with hkey | hboundary | ⟨b, hb, rfl⟩
    · obtain ⟨e, he, rfl⟩ := List.mem_map.1 hkey
      exact hboth.fits e he
    · exact hboth.fits_boundary hboundary
    · obtain ⟨m, hm, hpulse⟩ := message_of_bundle h hb
      exact hpulse ▸ hops m hm

/-- Moved back by six, the pulses come to lie below zero: one is delivered, one waits. -/
theorem shift_equivariant_across_zero :
    ∃ t : Session Nat,
      create { channels := [⟨"a", 2, 0⟩, ⟨"b", 3, 1⟩] } 0 = .ok t ∧
        let ops : List (Op Nat) := [.add ⟨"a", 2, 20⟩, .add ⟨"a", 4, 40⟩, .receive]
        let shifted := t.run (ops.map (·.shift (-6)))
        shifted.1 = (t.run ops).1.map (·.shift (-6)) ∧
          (shifted.1.filterMap Response.bundle?).map (·.pulse) = [-4] ∧
          shifted.2.synchronizer.buffer.keys = [-2] ∧
          shifted.2.synchronizer.boundary? = some (-4) := by
  refine ⟨_, rfl, ?_⟩
  intro ops shifted
  have h : create (α := Nat) { channels := [⟨"a", 2, 0⟩, ⟨"b", 3, 1⟩] } 0 = .ok _ := rfl
  obtain ⟨hanswers, -⟩ := shift_equivariant (K := -6) h (by decide) ops (by simp [ops]; decide)
  exact ⟨hanswers, rfl, rfl, rfl⟩

end Session

end PulseJoin
