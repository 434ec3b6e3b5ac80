import PulseJoin.Proofs.Synchronizer.Effect

/-!
# Operations as sequences of actions

A `History` is what a sequence of actions leaves behind.  Each operation of a synchronizer has one,
and is a sequence of actions with that history (`Performs`).
-/

namespace PulseJoin

universe u

variable {α : Type u}

/-- What went on between two states of a synchronizer: the remarks on messages and calls, the
messages taken in, the resolutions and the bundles consumers obtained, each in order, and whether
the synchronizer was closed. -/
@[ext]
structure History (α : Type u) where
  remarks : List Event := []
  arrivals : List (Arrival α) := []
  turns : List (Turn α) := []
  obtained : List (Bundle α) := []
  closed : Bool := false

def History.append (h h' : History α) : History α :=
  ⟨h.remarks ++ h'.remarks, h.arrivals ++ h'.arrivals, h.turns ++ h'.turns,
    h.obtained ++ h'.obtained, h.closed || h'.closed⟩

instance : Append (History α) := ⟨History.append⟩

namespace History

variable (h h' : History α)

@[simp] theorem remarks_append : (h ++ h').remarks = h.remarks ++ h'.remarks := rfl
@[simp] theorem arrivals_append : (h ++ h').arrivals = h.arrivals ++ h'.arrivals := rfl
@[simp] theorem turns_append : (h ++ h').turns = h.turns ++ h'.turns := rfl
@[simp] theorem obtained_append : (h ++ h').obtained = h.obtained ++ h'.obtained := rfl
@[simp] theorem closed_append : (h ++ h').closed = (h.closed || h'.closed) := rfl

theorem append_nil : h ++ {} = h := by
  ext1 <;> simp

theorem append_assoc (h'' : History α) : h ++ h' ++ h'' = h ++ (h' ++ h'') := by
  ext1 <;> simp [Bool.or_assoc]

theorem turns_then_obtained (us : List (Turn α)) (bs : List (Bundle α)) :
    ({ turns := us } : History α) ++ { obtained := bs } = { turns := us, obtained := bs } := by
  ext1 <;> simp

theorem turns_then_turns (us vs : List (Turn α)) (bs : List (Bundle α)) :
    ({ turns := us } : History α) ++ { turns := vs, obtained := bs } =
      { turns := us ++ vs, obtained := bs } := by
  ext1 <;> simp

end History

namespace Act

def history (actions : List (Act α)) : History α :=
  ⟨remarks actions, arrivals actions, turns actions, taken actions, closes actions⟩

theorem history_append (as bs : List (Act α)) : history (as ++ bs) = history as ++ history bs := by
  simp only [history, remarks_append, arrivals_append, turns_append, taken_append, closes_append]
  rfl

end Act

def Receipt.bundle? : Receipt α → Option (Bundle α)
  | .bundle b => some b
  | _ => none

namespace Synchronizer

/-- Some sequence of actions with history `h` leads from `s` to `s'`. -/
def Performs (s : Synchronizer α) (h : History α) (s' : Synchronizer α) : Prop :=
  ∃ acts, s.Runs acts s' ∧ Act.history acts = h

namespace Performs

variable {s s' s'' : Synchronizer α} {h h' : History α}

theorem refl (s : Synchronizer α) : s.Performs {} s := ⟨[], .refl, rfl⟩

theorem of_eq (heq : s' = s) : s.Performs {} s' := heq ▸ refl s

theorem act {a : Act α} (hact : s.Acts a s') : s.Performs (Act.history [a]) s' :=
  ⟨[a], hact.run, rfl⟩

theorem trans (hfront : s.Performs h s') (hback : s'.Performs h' s'') :
    s.Performs (h ++ h') s'' := by
  obtain ⟨acts, hruns, rfl⟩ := hfront
  obtain ⟨acts', hruns', rfl⟩ := hback
  exact ⟨acts ++ acts', hruns.trans hruns', Act.history_append _ _⟩

theorem alike (hperforms : s.Performs h s') (harrivals : h.arrivals = []) (hturns : h.turns = []) :
    s.Alike s' := by
  obtain ⟨acts, hruns, rfl⟩ := hperforms
  exact hruns.alike harrivals hturns

end Performs

/-! ## Resolution passes -/

/-- The resolutions of a pass that resolves at most `limit` pulses. -/
def turnsUpTo (now : UInt64) : Nat → Synchronizer α → List (Turn α)
  | 0, _ => []
  | limit + 1, s =>
    match s.resolveOldest now with
    | (none, _) => []
    | (some r, s') => ⟨s, now, r⟩ :: turnsUpTo now limit (s'.settle r)

def turns (s : Synchronizer α) (now : UInt64) : List (Turn α) := turnsUpTo now s.buffer.size s

theorem length_turnsUpTo (now : UInt64) (limit : Nat) (s : Synchronizer α) :
    (turnsUpTo now limit s).length = (resolveUpTo now limit s).1 := by
  induction limit generalizing s with
  | zero => rfl
  | succ limit ih =>
    unfold turnsUpTo resolveUpTo
    rcases s.resolveOldest now with ⟨_ | r, s'⟩
    · rfl
    · exact congrArg (· + 1) (ih _)

theorem performs_resolveUpTo (now : UInt64) (limit : Nat) {s : Synchronizer α}
    (hopen : s.closed = false) :
    s.Performs { turns := turnsUpTo now limit s } (resolveUpTo now limit s).2 := by
  induction limit generalizing s with
  | zero => exact .refl s
  | succ limit ih =>
    unfold turnsUpTo resolveUpTo
    rcases h : s.resolveOldest now with ⟨_ | r, s'⟩
    · exact .act (.look h)
    · obtain ⟨w, -, -, -, hremoved⟩ := resolveOldest_eq_some h
      have hstill : (s'.settle r).closed = false := by
        rw [(settle_alike s' r).2, hremoved]
        exact hopen
      exact (Performs.act (.resolve hopen h)).trans (ih hstill)

theorem performs_resolve (now : UInt64) {s : Synchronizer α} (hopen : s.closed = false) :
    s.Performs { turns := s.turns now } (s.resolve now).2 :=
  performs_resolveUpTo now _ hopen

/-- The resolutions of a pass without an arrival. -/
def evictTurns (s : Synchronizer α) (now : UInt64) : List (Turn α) :=
  if s.closed then [] else s.turns now

theorem length_evictTurns (s : Synchronizer α) (now : UInt64) :
    (s.evictTurns now).length = (s.evictExpired now).1 := by
  unfold evictTurns evictExpired
  by_cases hclosed : s.closed = true
  · rw [if_pos hclosed, if_pos hclosed]
    rfl
  · rw [if_neg hclosed, if_neg hclosed]
    exact length_turnsUpTo now _ s

theorem performs_evictExpired (s : Synchronizer α) (now : UInt64) :
    s.Performs { turns := s.evictTurns now } (s.evictExpired now).2 := by
  unfold evictTurns evictExpired
  cases hopen : s.closed
  · exact performs_resolve now hopen
  · exact .refl s

/-! ## Arrivals -/

/-- Why a message is not taken in, and what is remarked on it. -/
def refusal? (s : Synchronizer α) (m : Message α) : Option (Outcome × Event) :=
  if s.closed then some (.closed, .ignored)
  else match s.schedules.get? m.channel with
    | none => some (.unknownChannel, .unknownChannel m.channel m.pulse)
    | some schedule =>
      if !schedule.expects m.pulse then some (.offSchedule, .offSchedule schedule m.pulse)
      else if s.marks.passed m.pulse then
        some (.stale, .stale m.channel m.pulse s.marks.boundary)
      else none

/-- A message is refused with a remark, or it is stored and a pass follows. -/
theorem add_eq (s : Synchronizer α) (now : UInt64) (m : Message α) :
    s.add now m = match s.refusal? m with
      | some (o, e) => (o, (s.note .received).note e)
      | none => (.buffered, (((s.note .received).accept now m).resolve now).2) := by
  unfold add refusal?
  by_cases hclosed : s.closed = true
  · simp [hclosed]
  · cases hschedule : s.schedules.get? m.channel with
    | none => simp [hclosed, hschedule]
    | some schedule =>
      by_cases hexpects : schedule.expects m.pulse = true
      · by_cases hpassed : s.marks.passed m.pulse = true
        · simp [hclosed, hschedule, hexpects, hpassed]
        · simp [hclosed, hschedule, hexpects, hpassed]
      · simp [hclosed, hschedule, hexpects]

theorem refusal?_eq_none_iff {s : Synchronizer α} {m : Message α} :
    s.refusal? m = none ↔ s.Welcomes m := by
  unfold refusal? Welcomes
  cases s.closed
  · cases hschedule : s.schedules.get? m.channel with
    | none =>
      have hunknown : m.channel ∉ s.schedules.expectedChannels m.pulse := by
        rw [ScheduleSet.mem_expectedChannels]
        intro ⟨r, hr, _, hname⟩
        have hfound := ScheduleSet.get?_eq_some_iff.2 ⟨hr, hname⟩
        rw [hschedule] at hfound
        cases hfound
      simp [hunknown]
    | some schedule =>
      rw [ScheduleSet.mem_expectedChannels_of_get? hschedule, ← Watermarks.passed_eq_false_iff]
      by_cases hexpects : schedule.expects m.pulse = true
      · by_cases hpassed : s.marks.passed m.pulse = true
        · simp [hexpects, hpassed]
        · simp [hexpects, hpassed]
      · simp [hexpects]
  · simp

theorem refusal?_cases {s : Synchronizer α} {m : Message α} {o : Outcome} {e : Event}
    (h : s.refusal? m = some (o, e)) :
    (o = .closed ∧ e = .ignored) ∨
    (o = .unknownChannel ∧ e = .unknownChannel m.channel m.pulse) ∨
    (o = .offSchedule ∧ ∃ schedule, e = .offSchedule schedule m.pulse) ∨
    (o = .stale ∧ e = .stale m.channel m.pulse s.marks.boundary) := by
  unfold refusal? at h
  split at h
  · cases h
    exact .inl ⟨rfl, rfl⟩
  · split at h
    · cases h
      exact .inr (.inl ⟨rfl, rfl⟩)
    · split at h
      · cases h
        exact .inr (.inr (.inl ⟨rfl, _, rfl⟩))
      · split at h
        · cases h
          exact .inr (.inr (.inr ⟨rfl, rfl⟩))
        · cases h

theorem refusal?_isRemark {s : Synchronizer α} {m : Message α} {o : Outcome} {e : Event}
    (h : s.refusal? m = some (o, e)) : o ≠ .buffered ∧ e.isRemark = true := by
  rcases refusal?_cases h with ⟨rfl, rfl⟩ | ⟨rfl, rfl⟩ | ⟨rfl, schedule, rfl⟩ | ⟨rfl, rfl⟩ <;>
    exact ⟨nofun, rfl⟩

/-- Exactly the welcome messages are answered with `buffered`. -/
theorem add_eq_buffered_iff {s : Synchronizer α} {now : UInt64} {m : Message α} :
    (s.add now m).1 = .buffered ↔ s.Welcomes m := by
  rw [add_eq, ← refusal?_eq_none_iff]
  rcases h : s.refusal? m with _ | ⟨o, e⟩
  · simp
  · simpa using (refusal?_isRemark h).1

theorem add_of_welcome {s : Synchronizer α} {m : Message α} (h : s.Welcomes m) (now : UInt64) :
    s.add now m = (.buffered, (((s.note .received).accept now m).resolve now).2) := by
  rw [add_eq, refusal?_eq_none_iff.2 h]

theorem performs_pass {s : Synchronizer α} {m : Message α} (h : s.Welcomes m) (now : UInt64) :
    ((s.note .received).accept now m).Performs
      { turns := ((s.note .received).accept now m).turns now } (s.add now m).2 := by
  rw [add_of_welcome h]
  exact performs_resolve now (((s.note .received).admitted_accept ⟨now, m⟩).closed.trans h.1)

/-- What goes on when a message is offered. -/
def addHistory (s : Synchronizer α) (now : UInt64) (m : Message α) : History α where
  remarks := .received :: ((s.refusal? m).map (·.2)).toList
  arrivals := if (s.add now m).1 = .buffered then [⟨now, m⟩] else []
  turns := if (s.add now m).1 = .buffered then ((s.note .received).accept now m).turns now else []

theorem addHistory_of_welcome {s : Synchronizer α} {m : Message α} (h : s.Welcomes m)
    (now : UInt64) :
    (s.addHistory now m).remarks = [.received] ∧ (s.addHistory now m).arrivals = [⟨now, m⟩] := by
  unfold addHistory
  rw [refusal?_eq_none_iff.2 h, if_pos (add_eq_buffered_iff.2 h)]
  exact ⟨rfl, rfl⟩

theorem turns_addHistory {s : Synchronizer α} {m : Message α} (h : s.Welcomes m) (now : UInt64) :
    (s.addHistory now m).turns = ((s.note .received).accept now m).turns now :=
  if_pos (add_eq_buffered_iff.2 h)

theorem runs_add {s : Synchronizer α} {m : Message α} (h : s.Welcomes m) (now : UInt64) :
    ∃ pass, ((s.note .received).accept now m).Runs pass (s.add now m).2 ∧
      Act.arrivals pass = [] ∧
      Act.history ([.remark .received] ++ [.accept ⟨now, m⟩] ++ pass) = s.addHistory now m := by
  obtain ⟨pass, hpass, hhistory⟩ := performs_pass h now
  obtain ⟨hremarks, harrivals⟩ := addHistory_of_welcome h now
  refine ⟨pass, hpass, congrArg History.arrivals hhistory, ?_⟩
  rw [Act.history_append, Act.history_append, hhistory]
  ext1
  · exact hremarks.symm
  · exact harrivals.symm
  · exact (turns_addHistory h now).symm
  · rfl
  · rfl

theorem performs_add (s : Synchronizer α) (now : UInt64) (m : Message α) :
    s.Performs (s.addHistory now m) (s.add now m).2 := by
  have hreceived : s.Acts (.remark .received) (s.note .received) := .remark rfl
  rcases h : s.refusal? m with _ | ⟨o, e⟩
  · have hwelcome : s.Welcomes m := refusal?_eq_none_iff.1 h
    have haccepted : (s.note .received).Acts (.accept ⟨now, m⟩) ((s.note .received).accept now m) :=
      .accept hwelcome
    obtain ⟨pass, hpass, -, hhistory⟩ := runs_add hwelcome now
    exact ⟨_, (hreceived.run.trans haccepted.run).trans hpass, hhistory⟩
  · obtain ⟨hother, hremark⟩ := refusal?_isRemark h
    unfold addHistory
    rw [add_eq, h]
    simp only [if_neg hother]
    exact (Performs.act hreceived).trans (.act (.remark hremark))

/-! ## Consumers -/

theorem performs_pop (s : Synchronizer α) :
    s.Performs { obtained := s.pop.1.toList } s.pop.2 := by
  unfold pop Outlet.pop
  cases s.outlet.closed
  · cases hhead : s.outlet.queue.head? with
    | some b => exact .act (.take hhead)
    | none =>
      have hsame := Outlet.drop_of_nil (List.head?_eq_none_iff.1 hhead)
      refine .of_eq ?_
      show { s with outlet := s.outlet.drop } = s
      rw [hsame]
  · exact .refl s

theorem performs_receive (s : Synchronizer α) :
    s.Performs { obtained := s.receive.1.bundle?.toList } s.receive.2 := by
  unfold receive Outlet.receive
  cases s.outlet.pulls
  · cases hhead : s.outlet.queue.head? with
    | some b => exact .act (.take hhead)
    | none => cases s.outlet.closed <;> exact .refl s
  · exact .refl s

theorem tryNext_eq (s : Synchronizer α) (now : UInt64) :
    s.tryNext now =
      if s.outlet.pulls then (s.evictExpired now).2.pop
      else (s.receive.1.bundle?, s.receive.2) := by
  unfold tryNext
  rcases s.receive with ⟨r, s'⟩
  cases r <;> rfl

def tryTurns (s : Synchronizer α) (now : UInt64) : List (Turn α) :=
  if s.outlet.pulls then s.evictTurns now else []

theorem performs_tryNext (s : Synchronizer α) (now : UInt64) :
    s.Performs { turns := s.tryTurns now, obtained := (s.tryNext now).1.toList }
      (s.tryNext now).2 := by
  rw [tryNext_eq]
  unfold tryTurns
  cases s.outlet.pulls
  · exact s.performs_receive
  · have hboth := (s.performs_evictExpired now).trans (performs_pop _)
    rwa [History.turns_then_obtained] at hboth

/-- The resolutions of a pull that makes at most `rounds` passes. -/
def pullTurns (now : UInt64) : Nat → Synchronizer α → List (Turn α)
  | 0, _ => []
  | rounds + 1, s =>
    match s.pop with
    | (some _, _) => []
    | (none, s) =>
      s.evictTurns now ++ match s.evictExpired now with
        | (0, _) => []
        | (_ + 1, s) => pullTurns now rounds s

theorem performs_pullWithin (now : UInt64) (rounds : Nat) (s : Synchronizer α) :
    s.Performs
      { turns := pullTurns now rounds s, obtained := (pullWithin now rounds s).1.toList }
      (pullWithin now rounds s).2 := by
  induction rounds generalizing s with
  | zero => exact s.performs_pop
  | succ rounds ih =>
    unfold pullTurns pullWithin
    have hpop := s.performs_pop
    rcases htaken : s.pop with ⟨_ | b, t⟩
    · rw [htaken] at hpop
      have hevict : s.Performs { turns := t.evictTurns now } (t.evictExpired now).2 :=
        hpop.trans (t.performs_evictExpired now)
      dsimp only
      rcases hpass : t.evictExpired now with ⟨_ | n, t'⟩
      · rw [hpass] at hevict
        dsimp only
        rwa [List.append_nil]
      · rw [hpass] at hevict
        have hall := hevict.trans (ih t')
        rwa [History.turns_then_turns] at hall
    · rw [htaken] at hpop
      exact hpop

def nextTurns (s : Synchronizer α) (now : UInt64) : List (Turn α) :=
  if s.outlet.pulls then pullTurns now (s.buffer.size + 1) s else []

def nextRemarks (s : Synchronizer α) : List Event :=
  if s.outlet.pulls then [] else [.pullWithoutQueue]

theorem performs_next (s : Synchronizer α) (now : UInt64) :
    s.Performs
      { remarks := s.nextRemarks, turns := s.nextTurns now, obtained := (s.next now).1.toList }
      (s.next now).2 := by
  unfold nextRemarks nextTurns next
  cases s.outlet.pulls
  · exact .act (.remark rfl)
  · exact performs_pullWithin now _ s

theorem performs_close (s : Synchronizer α) : s.Performs { closed := !s.closed } s.close := by
  by_cases hclosed : s.closed = true
  · rw [hclosed]
    exact .of_eq (if_pos hclosed)
  · rw [Bool.not_eq_true] at hclosed
    rw [hclosed]
    exact .act (.close hclosed)

end Synchronizer

end PulseJoin
