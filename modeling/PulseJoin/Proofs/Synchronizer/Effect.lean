import PulseJoin.Proofs.Synchronizer.Act

/-!
# What the actions change

Each part of a synchronizer is changed by few actions.  An admission touches buffer and watermarks,
a resolution buffer, boundary and outlet, a consumer the outlet; the rest is telemetry.
-/

namespace PulseJoin

universe u

variable {α : Type u}

namespace Outlet

variable (o : Outlet α) (b : Bundle α)

theorem offer_queue :
    (o.offer b).queue = if o.handoff = .accepted then o.queue ++ [b] else o.queue := by
  unfold offer
  cases o.handoff <;> rfl

theorem offer_frame : (o.offer b).mode = o.mode ∧ (o.offer b).closed = o.closed := by
  unfold offer
  cases o.handoff <;> exact ⟨rfl, rfl⟩

theorem drop_of_nil {o : Outlet α} (h : o.queue = []) : o.drop = o := by
  unfold drop
  rw [h, List.tail_nil, ← h]

end Outlet

namespace Synchronizer

variable {s s' : Synchronizer α} {a : Act α} {u : Turn α} {now : UInt64}

section Note

variable (s) (e : Event)

@[simp] theorem note_config : (s.note e).config = s.config := rfl
@[simp] theorem note_schedules : (s.note e).schedules = s.schedules := rfl
@[simp] theorem note_buffer : (s.note e).buffer = s.buffer := rfl
@[simp] theorem note_marks : (s.note e).marks = s.marks := rfl
@[simp] theorem note_outlet : (s.note e).outlet = s.outlet := rfl
@[simp] theorem note_closed : (s.note e).closed = s.closed := rfl
@[simp] theorem note_journal : (s.note e).journal = e :: s.journal := rfl

end Note

/-! ## What stays -/

/-- What no action changes. -/
structure Frame (s s' : Synchronizer α) : Prop where
  config : s'.config = s.config
  schedules : s'.schedules = s.schedules
  mode : s'.outlet.mode = s.outlet.mode

/-- Two states that resolve the same pulses. -/
structure Alike (s s' : Synchronizer α) : Prop where
  config : s'.config = s.config
  schedules : s'.schedules = s.schedules
  buffer : s'.buffer = s.buffer
  marks : s'.marks = s.marks

/-- Two states that only telemetry tells apart. -/
structure Steady (s s' : Synchronizer α) : Prop extends Alike s s' where
  outlet : s'.outlet = s.outlet
  closed : s'.closed = s.closed

theorem Alike.refl (s : Synchronizer α) : s.Alike s := ⟨rfl, rfl, rfl, rfl⟩

theorem Steady.refl (s : Synchronizer α) : s.Steady s := ⟨.refl s, rfl, rfl⟩

theorem Steady.note (s : Synchronizer α) (e : Event) : s.Steady (s.note e) :=
  ⟨⟨rfl, rfl, rfl, rfl⟩, rfl, rfl⟩

/-! ## Admission -/

def finding (s : Synchronizer α) (a : Arrival α) : Stored :=
  s.buffer.storing a.pulse a.message.channel a.message.payload a.clock

def completes (s : Synchronizer α) (a : Arrival α) : Bool :=
  s.schedules.expectedCount a.pulse ≤ (s.finding a).filled

/-- Whether the startup rule fires on an arrival: its pulse is the first to be complete. -/
def startsWith (s : Synchronizer α) (a : Arrival α) : Bool :=
  (s.config.sendFirstComplete && s.completes a) && s.marks.unresolved

/-- The first half of an admission: the value is stored, the startup rule not yet applied. -/
def store (s : Synchronizer α) (a : Arrival α) : Synchronizer α :=
  let t := { s with
    marks := s.marks.observe a.pulse
    buffer := s.buffer.store a.pulse a.message.channel a.message.payload a.clock }
  if (s.finding a).replaced then t.note (.replaced a.pulse) else t

/-- The second half of an admission. -/
def afterStartup (s : Synchronizer α) (complete : Bool) (p : PulseId) : Synchronizer α :=
  if s.config.sendFirstComplete && complete then s.discardBacklog p else s

theorem accept_eq (s : Synchronizer α) (a : Arrival α) :
    s.accept a.clock a.message =
      let t := (s.store a).afterStartup (s.completes a) a.pulse
      (t.note (.occupancy t.buffer.size)).note .buffered := by
  unfold accept store completes finding Arrival.pulse
  dsimp only
  cases (s.buffer.storing a.message.pulse a.message.channel a.message.payload a.clock).replaced
  · rfl
  · rfl

theorem store_fields (s : Synchronizer α) (a : Arrival α) :
    (s.store a).config = s.config ∧ (s.store a).schedules = s.schedules ∧
      (s.store a).buffer =
        s.buffer.store a.pulse a.message.channel a.message.payload a.clock ∧
      (s.store a).marks = s.marks.observe a.pulse ∧ (s.store a).outlet = s.outlet ∧
      (s.store a).closed = s.closed := by
  unfold store
  cases (s.finding a).replaced <;> exact ⟨rfl, rfl, rfl, rfl, rfl, rfl⟩

theorem afterStartup_fields (s : Synchronizer α) (complete : Bool) (p : PulseId) :
    (s.afterStartup complete p).config = s.config ∧
      (s.afterStartup complete p).schedules = s.schedules ∧
      (s.afterStartup complete p).buffer =
        (if (s.config.sendFirstComplete && complete) && s.marks.unresolved then s.buffer.above p
        else s.buffer) ∧
      (s.afterStartup complete p).marks =
        (if (s.config.sendFirstComplete && complete) && s.marks.unresolved then
          { s.marks with boundary := p.pred }
        else s.marks) ∧
      (s.afterStartup complete p).outlet = s.outlet ∧
      (s.afterStartup complete p).closed = s.closed := by
  unfold afterStartup discardBacklog
  cases (s.config.sendFirstComplete && complete)
  · exact ⟨rfl, rfl, rfl, rfl, rfl, rfl⟩
  · by_cases hunresolved : s.marks.unresolved = true
    · simp only [hunresolved, ↓reduceIte, Bool.and_self]
      have hjump : s.marks.jump p.pred = { s.marks with boundary := p.pred } := if_pos hunresolved
      split <;> exact ⟨rfl, rfl, rfl, hjump, rfl, rfl⟩
    · simp [hunresolved]

/-- From `s` to `s'` the value of an arrival is stored and its pulse observed.  If the startup rule
fires, all older pulses go and the boundary moves up to the pulse. -/
structure Admitted (s : Synchronizer α) (a : Arrival α) (s' : Synchronizer α) : Prop where
  config : s'.config = s.config
  schedules : s'.schedules = s.schedules
  buffer : s'.buffer =
    if s.startsWith a then
      (s.buffer.store a.pulse a.message.channel a.message.payload a.clock).above a.pulse
    else s.buffer.store a.pulse a.message.channel a.message.payload a.clock
  marks : s'.marks =
    if s.startsWith a then { s.marks.observe a.pulse with boundary := a.pulse.pred }
    else s.marks.observe a.pulse
  outlet : s'.outlet = s.outlet
  closed : s'.closed = s.closed

theorem admitted_accept (s : Synchronizer α) (a : Arrival α) :
    s.Admitted a (s.accept a.clock a.message) := by
  obtain ⟨hconfig, hschedules, hbuffer, hmarks, houtlet, hclosed⟩ := s.store_fields a
  have h := (s.store a).afterStartup_fields (s.completes a) a.pulse
  have hstarts : ((s.config.sendFirstComplete && s.completes a) &&
      (s.marks.observe a.pulse).unresolved) = s.startsWith a := rfl
  rw [hconfig, hschedules, hbuffer, hmarks, houtlet, hclosed, hstarts] at h
  obtain ⟨hconfig', hschedules', hbuffer', hmarks', houtlet', hclosed'⟩ := h
  rw [accept_eq]
  exact ⟨hconfig', hschedules', hbuffer', hmarks', houtlet', hclosed'⟩

/-! ## Resolution -/

theorem resolveOldest_eq_some {r : Resolution α} (h : s.resolveOldest now = (some r, s')) :
    ∃ w, s.buffer.first? = some (r.bundle.pulse, w) ∧
      s.verdict now r.bundle.pulse w = .ready r.pressure ∧
      r.bundle = ⟨r.bundle.pulse, w.values, s.schedules.expectedCount r.bundle.pulse⟩ ∧
      s' = s.remove r.bundle.pulse := by
  unfold resolveOldest at h
  cases hfirst : s.buffer.first? with
  | none => simp [hfirst] at h
  | some e =>
    obtain ⟨p, w⟩ := e
    cases hverdict : s.verdict now p w with
    | incomplete => simp [hfirst, hverdict] at h
    | gap reference => simp [hfirst, hverdict] at h
    | ready pressure =>
      simp only [hfirst, hverdict, Prod.mk.injEq, Option.some_inj] at h
      obtain ⟨rfl, rfl⟩ := h
      exact ⟨w, rfl, hverdict, rfl, rfl⟩

theorem resolveOldest_eq_none (h : s.resolveOldest now = (none, s')) :
    (∃ p w q, s.buffer.first? = some (p, w) ∧ s.verdict now p w = .gap q ∧
      s' = s.note (.waiting p q)) ∨
    (∀ p w q, s.buffer.first? = some (p, w) → s.verdict now p w ≠ .gap q) ∧ s' = s := by
  unfold resolveOldest at h
  cases hfirst : s.buffer.first? with
  | none =>
    simp only [hfirst, Prod.mk.injEq, true_and] at h
    exact .inr ⟨nofun, h.symm⟩
  | some e =>
    obtain ⟨p, w⟩ := e
    cases hverdict : s.verdict now p w with
    | incomplete =>
      simp only [hfirst, hverdict, Prod.mk.injEq, true_and] at h
      refine .inr ⟨fun p' w' q hentry => ?_, h.symm⟩
      cases hentry
      rw [hverdict]
      exact nofun
    | gap reference =>
      simp only [hfirst, hverdict, Prod.mk.injEq, true_and] at h
      exact .inl ⟨p, w, reference, rfl, hverdict, h.symm⟩
    | ready pressure => simp [hfirst, hverdict] at h

theorem steady_look (h : s.resolveOldest now = (none, s')) : s.Steady s' := by
  rcases resolveOldest_eq_none h with ⟨p, w, q, -, -, rfl⟩ | ⟨-, rfl⟩
  · exact .note s _
  · exact .refl _

theorem settle_alike (s : Synchronizer α) (r : Resolution α) :
    s.Alike (s.settle r) ∧ (s.settle r).closed = s.closed := by
  unfold settle deliver
  split
  · cases s.outlet.handoff <;> exact ⟨⟨rfl, rfl, rfl, rfl⟩, rfl⟩
  · dsimp only
    split
    · cases (s.note _).outlet.handoff <;> exact ⟨⟨rfl, rfl, rfl, rfl⟩, rfl⟩
    · exact ⟨⟨rfl, rfl, rfl, rfl⟩, rfl⟩

/-- Whether a bundle is for consumers: it is complete, or incomplete ones are wanted too. -/
def wants (s : Synchronizer α) (b : Bundle α) : Bool := b.isComplete || s.config.sendIncomplete

theorem settle_outlet (s : Synchronizer α) (r : Resolution α) :
    (s.settle r).outlet = if s.wants r.bundle then s.outlet.offer r.bundle else s.outlet := by
  unfold settle deliver wants
  split
  next h => cases s.outlet.handoff <;> simp [h]
  next h =>
    dsimp only
    split
    next hsend =>
      rw [note_config] at hsend
      cases (s.note _).outlet.handoff <;> simp [hsend]
    next hdrop =>
      rw [note_config] at hdrop
      simp [h, hdrop]

theorem Acts.of_resolve (h : s.Acts (.resolve u) s') :
    u.before = s ∧ s.closed = false ∧ s' = (s.remove u.pulse).settle u.resolution ∧
      ∃ w, s.buffer.first? = some (u.pulse, w) ∧
        s.verdict u.clock u.pulse w = .ready u.resolution.pressure ∧
        u.bundle = ⟨u.pulse, w.values, s.schedules.expectedCount u.pulse⟩ := by
  cases h with
  | resolve hopen h =>
    obtain ⟨w, hfirst, hverdict, hbundle, rfl⟩ := resolveOldest_eq_some h
    exact ⟨rfl, hopen, rfl, w, hfirst, hverdict, hbundle⟩

/-! ## Actions and runs -/

theorem Acts.frame (h : s.Acts a s') : s.Frame s' := by
  cases h with
  | remark => exact ⟨rfl, rfl, rfl⟩
  | @accept a ha =>
    have hadmitted := s.admitted_accept a
    exact ⟨hadmitted.config, hadmitted.schedules, by rw [hadmitted.outlet]⟩
  | look h =>
    have hsteady := steady_look h
    exact ⟨hsteady.config, hsteady.schedules, by rw [hsteady.outlet]⟩
  | @resolve _ now r hopen h =>
    obtain ⟨w, -, -, -, rfl⟩ := resolveOldest_eq_some h
    have halike := (settle_alike (s.remove r.bundle.pulse) r).1
    refine ⟨halike.config, halike.schedules, ?_⟩
    rw [settle_outlet]
    split
    · exact (Outlet.offer_frame _ _).1
    · rfl
  | take => exact ⟨rfl, rfl, rfl⟩
  | close hopen =>
    unfold Synchronizer.close
    rw [hopen]
    exact ⟨rfl, rfl, rfl⟩

theorem Acts.alike (h : s.Acts a s') (harrivals : Act.arrivals [a] = [])
    (hturns : Act.turns [a] = []) : s.Alike s' := by
  cases h with
  | remark => exact ⟨rfl, rfl, rfl, rfl⟩
  | accept => cases harrivals
  | look h => exact (steady_look h).toAlike
  | resolve => cases hturns
  | take => exact ⟨rfl, rfl, rfl, rfl⟩
  | close hopen =>
    unfold Synchronizer.close
    rw [hopen]
    exact ⟨rfl, rfl, rfl, rfl⟩

theorem Alike.trans {s'' : Synchronizer α} (h : s.Alike s') (h' : s'.Alike s'') : s.Alike s'' :=
  ⟨h'.config.trans h.config, h'.schedules.trans h.schedules, h'.buffer.trans h.buffer,
    h'.marks.trans h.marks⟩

theorem Runs.alike {as : List (Act α)} (h : s.Runs as s') (harrivals : Act.arrivals as = [])
    (hturns : Act.turns as = []) : s.Alike s' := by
  induction h with
  | refl => exact .refl s
  | step _ act ih =>
    rw [Act.arrivals_append, List.append_eq_nil_iff] at harrivals
    rw [Act.turns_append, List.append_eq_nil_iff] at hturns
    exact (ih harrivals.1 hturns.1).trans (act.alike harrivals.2 hturns.2)

theorem Runs.frame {as : List (Act α)} (h : s.Runs as s') : s.Frame s' := by
  induction h with
  | refl => exact ⟨rfl, rfl, rfl⟩
  | step _ act ih =>
    obtain ⟨hconfig, hschedules, hmode⟩ := act.frame
    exact ⟨hconfig.trans ih.config, hschedules.trans ih.schedules, hmode.trans ih.mode⟩

end Synchronizer

end PulseJoin
