import PulseJoin.Proofs.Synchronizer.Counters
import PulseJoin.Proofs.Synchronizer.Unread
import PulseJoin.Proofs.Synchronizer.Waiting

/-!
# The startup rule

Only an arrival that sets pulses aside can tell whether the startup rule is on.  Where the rule
fires and finds nothing to set aside, it moves the boundary up to the pulse that arrived, and the
pass that follows resolves that pulse; without the rule the pass resolves it just as well.
-/

namespace PulseJoin

universe u

variable {α : Type u}

/-- An event as it is without the startup rule, which is only named at the creation. -/
def Event.unflagged : Event → Event
  | .created c => .created { c with sendFirstComplete := false }
  | e => e

namespace Synchronizer

variable {s s' : Synchronizer α} {now : UInt64}

def unflagged (s : Synchronizer α) : Synchronizer α :=
  { s with
    config := { s.config with sendFirstComplete := false }
    journal := s.journal.map Event.unflagged }

@[simp] theorem unflagged_closed (s : Synchronizer α) : s.unflagged.closed = s.closed := rfl

/-! ## Everything but an admission -/

theorem unflagged_note (s : Synchronizer α) (e : Event) :
    (s.note e).unflagged = s.unflagged.note e.unflagged := by
  cases e <;> rfl

theorem unread_unflagged : Unread (unflagged : Synchronizer α → Synchronizer α) where
  buffer _ := rfl
  outlet _ := rfl
  closed _ := rfl
  schedules _ := rfl
  sendIncomplete _ := rfl
  verdict _ _ _ _ := rfl
  note s e he := by
    rw [unflagged_note]
    cases e with
    | created c => exact absurd rfl (he c)
    | _ => rfl
  remove _ _ := rfl
  put _ _ := rfl

theorem close_unflagged (s : Synchronizer α) : s.unflagged.close = s.close.unflagged := by
  unfold close
  rw [unflagged_closed]
  split <;> rfl

/-! ## Admissions that set nothing aside -/

theorem store_unflagged (s : Synchronizer α) (a : Arrival α) :
    s.unflagged.store a = (s.store a).unflagged := by
  have hfinding : s.unflagged.finding a = s.finding a := rfl
  unfold store
  rw [hfinding]
  split <;> rfl

theorem accept_of_unflagged (s : Synchronizer α) (a : Arrival α) :
    s.unflagged.accept a.clock a.message =
      (((s.store a).note (.occupancy (s.store a).buffer.size)).note .buffered).unflagged := by
  have hstartup : (s.unflagged.store a).afterStartup (s.unflagged.completes a) a.pulse =
      (s.store a).unflagged := by
    rw [store_unflagged]
    rfl
  rw [accept_eq, hstartup]
  rfl

theorem accept_unflagged {a : Arrival α} (hquiet : s.startsWith a = false) :
    s.unflagged.accept a.clock a.message = (s.accept a.clock a.message).unflagged := by
  obtain ⟨hconfig, -, -, hmarks, -⟩ := s.store_fields a
  have hstartup : (s.store a).afterStartup (s.completes a) a.pulse = s.store a := by
    unfold afterStartup discardBacklog
    rw [hconfig, hmarks]
    split
    next hfires =>
      have hmoved : (s.marks.observe a.pulse).unresolved = false := by
        unfold startsWith at hquiet
        rwa [hfires, Bool.true_and] at hquiet
      rw [hmoved]
      rfl
    next => rfl
  rw [accept_of_unflagged, accept_eq, hstartup]

/-- Where the rule fires and sets nothing aside, it moves the boundary and does nothing else. -/
theorem accept_of_startsWith {a : Arrival α} (hstarts : s.startsWith a = true)
    (hnone : (s.setAside a).first? = none) :
    (s.accept a.clock a.message).unflagged =
      { s.unflagged.accept a.clock a.message with
        marks := { s.marks.observe a.pulse with boundary := a.pulse.pred } } := by
  obtain ⟨hconfig, -, hbuffer, hmarks, -⟩ := s.store_fields a
  have hunresolved : (s.store a).marks.unresolved = true := by
    rw [hmarks]
    exact (Bool.and_eq_true_iff.1 hstarts).2
  have hfires : ((s.store a).config.sendFirstComplete && s.completes a) = true := by
    rw [hconfig]
    exact (Bool.and_eq_true_iff.1 hstarts).1
  have hbelow : ((s.store a).buffer.below a.pulse).first? = none := by
    unfold setAside at hnone
    rwa [if_pos hstarts, ← hbuffer] at hnone
  have hjump : (s.store a).marks.jump a.pulse.pred =
      { s.marks.observe a.pulse with boundary := a.pulse.pred } := by
    unfold Watermarks.jump
    rw [if_pos hunresolved, hmarks]
  have hstartup : (s.store a).afterStartup (s.completes a) a.pulse =
      { s.store a with
        marks := { s.marks.observe a.pulse with boundary := a.pulse.pred } } := by
    unfold afterStartup discardBacklog
    rw [if_pos hfires, if_pos hunresolved]
    dsimp only
    rw [hbelow, SortedMap.above_of_below hbelow, hjump]
  rw [accept_of_unflagged, accept_eq, hstartup]
  rfl

/-! ## Arrivals -/

theorem Sound.unflagged {acts : List (Act α)} (h : Sound acts s) : Sound acts s.unflagged :=
  ⟨h.held, h.seen, h.expected, h.last, h.outlet, h.queue⟩

/-- The pulse that fires the rule is resolved first with the rule and without it, and leaves the
same boundary behind. -/
theorem resolve_of_startsWith {acts : List (Act α)} (hsound : Sound acts s) {a : Arrival α}
    (ha : s.Welcomes a.message) (hstarts : s.startsWith a = true)
    (hnone : (s.setAside a).first? = none) (now : UInt64) :
    (s.unflagged.accept a.clock a.message).resolve now =
      ((s.accept a.clock a.message).resolve now).map id unflagged := by
  obtain ⟨w, hfirst, hcomplete, hready⟩ := ready_of_startsWith ha hstarts now
  have hrule := accept_of_startsWith hstarts hnone
  have hadmitted := s.unflagged.admitted_accept a
  have hafter : Sound (acts ++ [.accept a]) (s.unflagged.accept a.clock a.message) :=
    hsound.unflagged.step (.accept ha)
  generalize s.accept a.clock a.message = t at hfirst hcomplete hready hrule ⊢
  generalize s.unflagged.accept a.clock a.message = t' at hrule hadmitted hafter ⊢
  have hmarks : t'.marks = s.marks.observe a.pulse := hadmitted.marks
  have hunmoved : s.marks.boundary = Int64.minValue :=
    Watermarks.unresolved_iff.1 (Bool.and_eq_true_iff.1 hstarts).2
  -- Behind the pulse and behind the id before it, the boundary moves to the pulse.
  have hlast : max s.marks.boundary a.pulse = a.pulse := by
    have hpast : s.marks.boundary < a.pulse := ha.2.2
    rw [PulseId.max_eq]
    grind
  have hlast' : max a.pulse.pred a.pulse = a.pulse := by
    have hpred := PulseId.pred_lt (p := a.pulse) (by rw [← hunmoved]; exact ha.2.2)
    rw [PulseId.max_eq]
    grind
  have hschedules : t'.schedules = t.schedules := (congrArg (·.schedules) hrule).symm
  have hbuffer : t'.buffer = t.buffer := (congrArg (·.buffer) hrule).symm
  have hpressure : t'.pressure? now w = t.pressure? now w :=
    (congrArg (·.pressure? now w) hrule).symm
  have hremove : t'.remove a.pulse = (t.remove a.pulse).unflagged := by
    have hadvance : t'.marks.advance a.pulse =
        { s.marks.observe a.pulse with boundary := a.pulse.pred }.advance a.pulse := by
      rw [hmarks]
      exact congrArg (Watermarks.mk _) (hlast.trans hlast'.symm)
    have hflagged : (t.remove a.pulse).unflagged = t.unflagged.remove a.pulse := rfl
    rw [hflagged, hrule]
    unfold remove
    rw [hadvance]
  have hfirst' : t'.buffer.first? = some (a.pulse, w) := by rw [hbuffer, hfirst]
  have hready' : t'.verdict now a.pulse w = .ready (t'.pressure? now w) := by
    have hreference : t'.marks.reference = a.pulse :=
      hafter.reference_of_unmoved (by rw [hmarks]; exact hunmoved) hfirst'
    rw [← hschedules] at hcomplete
    apply verdict_of_next hcomplete
    intro q hlow hhigh
    rw [hreference] at hlow
    exact absurd hhigh (Int64.lt_asymm hlow)
  unfold resolve
  rw [hbuffer]
  cases hsize : t.buffer.size with
  | zero =>
    rw [SortedMap.first?_eq_none_iff.2 (List.length_eq_zero_iff.1 hsize)] at hfirst
    cases hfirst
  | succ limit =>
    unfold resolveUpTo
    rw [resolveOldest_of_ready hfirst hready, resolveOldest_of_ready hfirst' hready', hpressure,
      hschedules, hremove]
    dsimp only
    rw [unread_unflagged.settle, unread_unflagged.resolveUpTo]
    rfl

theorem add_unflagged {acts : List (Act α)} (hsound : Sound acts s) (now : UInt64) {m : Message α}
    (hnone : s.Welcomes m → (s.setAside ⟨now, m⟩).first? = none) :
    s.unflagged.add now m = (s.add now m).map id unflagged := by
  have hrefusal : s.unflagged.refusal? m = s.refusal? m := rfl
  rw [add_eq, add_eq, hrefusal]
  rcases hwelcome : s.refusal? m with _ | ⟨o, e⟩
  · have hreceived : Sound _ (s.note .received) := hsound.step (.remark rfl)
    have hwelcomes : (s.note .received).Welcomes m := refusal?_eq_none_iff.1 hwelcome
    have hpass : ((s.note .received).unflagged.accept now m).resolve now =
        (((s.note .received).accept now m).resolve now).map id unflagged := by
      cases hstarts : (s.note .received).startsWith ⟨now, m⟩ with
      | true =>
        exact resolve_of_startsWith hreceived (a := ⟨now, m⟩) hwelcomes hstarts
          (hnone hwelcomes) now
      | false =>
        have haccept := accept_unflagged hstarts
        dsimp only at haccept
        rw [haccept, unread_unflagged.resolve]
    show (_, (((s.note .received).unflagged.accept now m).resolve now).2) = _
    rw [hpass]
    rfl
  · have hremark : e.unflagged = e := by
      have hplain := (refusal?_isRemark hwelcome).2
      cases e <;> first | rfl | cases hplain
    show (o, (s.unflagged.note .received).note e) = (o, ((s.note .received).note e).unflagged)
    rw [unflagged_note, unflagged_note, hremark]
    rfl

end Synchronizer

end PulseJoin
