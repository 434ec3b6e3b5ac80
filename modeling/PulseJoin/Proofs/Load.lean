import PulseJoin.Bundle
import PulseJoin.Config
import PulseJoin.Proofs.Schedule.Set
import PulseJoin.Proofs.Watermarks

/-!
# Loads

A load sends each value that is expected in a range of pulses once, in some order that does not
finish another pulse before the least one has begun.
-/

namespace PulseJoin

universe u

variable {α : Type u}

namespace ScheduleSet

variable {set : ScheduleSet} {first last p : PulseId}

/-- The pulses from `first` to `last` that some channel is expected on, ascending. -/
def pulsesWithin (set : ScheduleSet) (first last : PulseId) : List PulseId :=
  ((List.range (last.toInt - first.toInt + 1).toNat).map
    fun (n : Nat) => Int64.ofInt (first.toInt + n)).filter fun p => 0 < set.expectedCount p

theorem length_le_room (first last : PulseId) :
    (last.toInt - first.toInt + 1).toNat ≤ first.room := by
  have hfirst := first.toInt_le
  have hlast := last.toInt_le
  unfold PulseId.room
  omega

theorem mem_pulsesWithin :
    p ∈ set.pulsesWithin first last ↔ first ≤ p ∧ p ≤ last ∧ 0 < set.expectedCount p := by
  have hstretch := PulseId.mem_stretch (p := p) (length_le_room first last)
  unfold PulseId.stretch at hstretch
  unfold pulsesWithin
  rw [List.mem_filter, decide_eq_true_iff, hstretch, and_assoc]
  refine and_congr_right fun hlow => and_congr_left fun _ => ?_
  rw [Int64.le_iff_toInt_le] at hlow ⊢
  omega

theorem pulsesWithin_ascending (set : ScheduleSet) (first last : PulseId) :
    (set.pulsesWithin first last).Pairwise (· < ·) :=
  (PulseId.stretch_ascending (length_le_room first last)).filter _

end ScheduleSet

/-- Messages that send each value expected from `first` to `last` once.  Some message for the least
pulse comes before the last message of every other pulse. -/
structure Load (set : ScheduleSet) (first last : PulseId) (sent : List (Message α)) : Prop where
  once : (sent.map fun m => (m.channel, m.pulse)).Nodup
  covers : ∀ channel p, (∃ m ∈ sent, m.channel = channel ∧ m.pulse = p) ↔
    p ∈ set.pulsesWithin first last ∧ channel ∈ set.expectedChannels p
  opens : ∀ least ∈ (set.pulsesWithin first last).head?,
    ∀ p ∈ set.pulsesWithin first last, p ≠ least →
      ∃ front m back, sent = front ++ m :: back ∧ m.pulse = least ∧ ∃ m' ∈ back, m'.pulse = p

/-- A configuration that holds back and delivers `pulses` pulses without force. -/
structure Config.Spacious (c : Config) (pulses : Nat) : Prop where
  age : c.maxAge? = none
  startup : c.sendFirstComplete = false
  buffer : pulses ≤ c.maxBuffered.toNat
  queue : ∀ capacity, c.delivery = .push capacity → pulses ≤ capacity.toNat

namespace Load

variable {set : ScheduleSet} {first last : PulseId} {sent : List (Message α)}

theorem unique (h : Load set first last sent) {m m' : Message α} (hm : m ∈ sent) (hm' : m' ∈ sent)
    (hchannel : m.channel = m'.channel) (hpulse : m.pulse = m'.pulse) : m = m' :=
  List.inj_on_of_nodup_map h.once hm hm' (Prod.ext hchannel hpulse)

theorem mem_pulses (h : Load set first last sent) {m : Message α} (hm : m ∈ sent) :
    m.pulse ∈ set.pulsesWithin first last ∧ m.channel ∈ set.expectedChannels m.pulse :=
  (h.covers m.channel m.pulse).1 ⟨m, hm, rfl, rfl⟩

theorem exists_message (h : Load set first last sent) {p : PulseId}
    (hp : p ∈ set.pulsesWithin first last) : ∃ m ∈ sent, m.pulse = p := by
  obtain ⟨s, hs, hexpects⟩ :=
    ScheduleSet.expectedCount_pos_iff.1 (ScheduleSet.mem_pulsesWithin.1 hp).2.2
  obtain ⟨m, hm, -, hpulse⟩ := (h.covers s.name p).2
    ⟨hp, ScheduleSet.mem_expectedChannels.2 ⟨s, hs, hexpects, rfl⟩⟩
  exact ⟨m, hm, hpulse⟩

theorem mem_of_prefix (h : Load set first last sent) {early front back : List (Message α)}
    {m m' : Message α} (hearly : early <+: sent) (hsplit : sent = front ++ m :: back)
    (hback : m' ∈ back) (hm' : m' ∈ early) : m ∈ early := by
  have hfront : front ++ [m] <+: sent := ⟨back, by rw [hsplit, List.append_assoc]; rfl⟩
  rcases List.prefix_or_prefix_of_prefix hearly hfront with hshort | hlong
  · -- Then `m'` stands on both sides of the cut.
    have hnodup : sent.Nodup := h.once.of_map
    rw [hsplit, ← List.singleton_append, ← List.append_assoc, List.nodup_append] at hnodup
    exact absurd rfl (hnodup.2.2 m' (hshort.subset hm') m' hback)
  · exact hlong.subset (List.mem_append_right _ (.head _))

end Load

end PulseJoin
