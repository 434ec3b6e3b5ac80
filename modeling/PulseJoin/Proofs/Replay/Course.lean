import PulseJoin.Proofs.Replay.Accounting
import PulseJoin.Proofs.Synchronizer.Unread

/-!
# The replay that is run

The replay that is run lets the producers take turns by their pulses and the consumer take what is
there after each value; at the end the clock moves on beyond the limit of age.  This is one of the
interleavings (`exists_orderly_of_run`), so the books of every replay balance (`exists_run`).
-/

namespace PulseJoin.Replay

/-! ## Turns -/

section Turns

variable {p : PulseId} {producers rest : List Producer} {channel : String}

theorem exists_of_takeTurn (h : takeTurn p producers = some (channel, rest)) :
    ∃ i a todo, producers[i]? = some a ∧ a.todo = p :: todo ∧ channel = a.channel ∧
      rest = producers.set i { a with todo } := by
  induction producers generalizing rest with
  | nil => cases h
  | cons a producers ih =>
    rw [takeTurn] at h
    split at h
    next hhead =>
      cases h
      exact ⟨0, a, a.todo.tail, rfl, (List.cons_head?_tail hhead).symm, rfl, rfl⟩
    next =>
      obtain ⟨⟨channel', later⟩, hlater, heq⟩ := Option.map_eq_some_iff.1 h
      cases heq
      obtain ⟨i, b, todo, hb, htodo, hchannel, hset⟩ := ih hlater
      exact ⟨i + 1, b, todo, hb, htodo, hchannel, congrArg (a :: ·) hset⟩

theorem takeTurn_ne_none {a : Producer} (ha : a ∈ producers) (hhead : a.todo.head? = some p) :
    takeTurn p producers ≠ none := by
  induction producers with
  | nil => cases ha
  | cons b producers ih =>
    rw [takeTurn]
    split
    · simp
    next hother =>
      rcases List.mem_cons.1 ha with rfl | hlater
      · exact absurd hhead hother
      · simpa using ih hlater

theorem exists_takeTurn (h : (producers.filterMap (·.todo.head?)).min? = some p) :
    ∃ channel rest, takeTurn p producers = some (channel, rest) := by
  have hmin : Std.MinEqOr PulseId := ⟨fun q q' => by
    rw [PulseId.min_eq]
    split
    · exact .inl rfl
    · exact .inr rfl⟩
  obtain ⟨a, ha, hhead⟩ := List.mem_filterMap.1 (List.min?_mem h)
  obtain ⟨⟨channel, rest⟩, hturn⟩ := Option.ne_none_iff_exists'.1 (takeTurn_ne_none ha hhead)
  exact ⟨channel, rest, hturn⟩

end Turns

/-! ## Sums -/

open Exchange

theorem sum_eq_ofNat (counts : List UInt64) : counts.sum = .ofNat (counts.map (·.toNat)).sum := by
  induction counts with
  | nil => rfl
  | cons n counts ih =>
    rw [List.sum_cons, List.map_cons, List.sum_cons, UInt64.ofNat_add, UInt64.ofNat_toNat, ih]

theorem sum_map_set {β : Type} {xs : List β} {i : Nat} {a b : β} (ha : xs[i]? = some a)
    {f : β → UInt64} {n : UInt64} (hb : f b = f a + n) :
    ((xs.set i b).map f).sum = (xs.map f).sum + n := by
  obtain ⟨front, back, hxs, hset⟩ := Fed.exists_set ha
  rw [hset, hxs, List.map_append, List.map_append, List.map_cons, List.map_cons, List.sum_append,
    List.sum_append, List.sum_cons, List.sum_cons, hb]
  ac_rfl

/-! ## Exchanges under way -/

/-- The values of a replay have no payload. -/
def noPayload (_ : String) (_ : PulseId) : Unit := ()

/-- What exchanges come to that began with unsent plans, as long as nothing closes the session. -/
structure Exchange.Underway (t : Session Unit) (plans : List (String × Plan))
    (x : Exchange Unit) : Prop where
  moves : ∃ moves, x = (ofPlans t plans).run noPayload moves ∧
    ∀ op, .other op ∈ moves → op.message? = none ∧ op ≠ .close
  session : ∃ ops, x.session = (t.run ops).2
  opened : x.session.synchronizer.closed = false
  dropped : x.senders.map (·.report.dropped) = plans.map (·.2.dropped)

namespace Exchange.Underway

variable {r : Setup} {t : Session Unit} {plans : List (String × Plan)} {x : Exchange Unit}

theorem ofPlans (hopen : t.synchronizer.closed = false) (plans : List (String × Plan)) :
    (ofPlans t plans).Underway t plans where
  moves := ⟨[], rfl, nofun⟩
  session := ⟨[], rfl⟩
  opened := hopen
  dropped := by
    show (plans.map _).map _ = _
    rw [List.map_map]
    rfl

theorem outlet (hx : x.Underway t plans) (h : Session.create r.config 0 = .ok t) :
    x.session.synchronizer.outlet.closed = false := by
  obtain ⟨ops, hsession⟩ := hx.session
  obtain ⟨acts, -, -, hsound⟩ := Session.sound_run h ops
  rw [hsession, hsound.outlet, ← hsession]
  exact hx.opened

theorem add_ne_closed (hx : x.Underway t plans) (m : Message Unit) :
    (x.session.synchronizer.add x.session.clock m).1 ≠ .closed := by
  intro hclosed
  cases hx.opened.symm.trans (Synchronizer.closed_of_add hclosed)

theorem step {op : Op Unit} (hx : x.Underway t plans) (hopen : op ≠ .close) :
    (∃ ops, (x.session.step op).2 = (t.run ops).2) ∧
      (x.session.step op).2.synchronizer.closed = false := by
  obtain ⟨ops, hsession⟩ := hx.session
  constructor
  · exact ⟨ops ++ [op], by rw [Session.run_concat, ← hsession]⟩
  · rw [← Bool.not_eq_true]
    intro hclosed
    rcases Session.closed_step hclosed with hbefore | hclose
    · cases hx.opened.symm.trans hbefore
    · exact hopen hclose

theorem extend (hx : x.Underway t plans) {m : Move Unit}
    (hquiet : ∀ op, m = .other op → op.message? = none ∧ op ≠ .close) :
    ∃ moves, x.move noPayload m = (Exchange.ofPlans t plans).run noPayload moves ∧
      ∀ op, .other op ∈ moves → op.message? = none ∧ op ≠ .close := by
  obtain ⟨moves, rfl, hmoves⟩ := hx.moves
  refine ⟨moves ++ [m], (run_concat noPayload _ moves m).symm, fun op hop => ?_⟩
  rcases List.mem_append.1 hop with hearlier | hlast
  · exact hmoves op hearlier
  · exact hquiet op (List.mem_singleton.1 hlast).symm

theorem other (hx : x.Underway t plans) {op : Op Unit} (hquiet : op.message? = none)
    (hopen : op ≠ .close) : (x.move noPayload (.other op)).Underway t plans := by
  obtain ⟨hsession, hopened⟩ := hx.step hopen
  refine ⟨hx.extend fun op' heq => ?_, hsession, hopened, hx.dropped⟩
  cases heq
  exact ⟨hquiet, hopen⟩

theorem send (hx : x.Underway t plans) {i : Nat} {a : Sender} {p : PulseId} {todo : List PulseId}
    (ha : x.senders[i]? = some a) (htodo : a.todo = p :: todo) :
    (x.send noPayload i a p).Underway t plans := by
  have hmove : x.move noPayload (.send i) = x.send noPayload i a p := by
    unfold Exchange.move
    simp only [ha, htodo]
  have hopen : Op.add (⟨a.channel, p, noPayload a.channel p⟩ : Message Unit) ≠ .close := nofun
  obtain ⟨hsession, hopened⟩ := hx.step hopen
  refine ⟨hmove ▸ hx.extend nofun, hsession, hopened, ?_⟩
  obtain ⟨front, back, hsenders, hset⟩ := Fed.exists_set ha
  have hdropped (o : Outcome) : (a.hear o).report.dropped = a.report.dropped := by
    cases o <;> rfl
  rw [← hx.dropped]
  unfold Exchange.send
  dsimp only
  rw [hset, hsenders, List.map_append, List.map_append, List.map_cons, List.map_cons, hdropped]

end Exchange.Underway

/-! ## Courses -/

theorem exists_pull {α : Type} {t : Session α} {b : Bundle α}
    (hopen : t.synchronizer.outlet.closed = false)
    (hhead : t.synchronizer.outlet.queue.head? = some b) :
    ∃ op, op.message? = none ∧ op ≠ .close ∧ (t.step op).1.bundle? = some b ∧
      (t.step op).2 =
        { t with
          synchronizer := { t.synchronizer with outlet := t.synchronizer.outlet.drop } } := by
  cases hpulls : t.synchronizer.outlet.pulls with
  | true =>
    have hpop : t.synchronizer.pop =
        (some b, { t.synchronizer with outlet := t.synchronizer.outlet.drop }) := by
      simp [Synchronizer.pop, Outlet.pop, hopen, hhead]
    have hnext : t.synchronizer.next t.clock =
        (some b, { t.synchronizer with outlet := t.synchronizer.outlet.drop }) := by
      unfold Synchronizer.next
      rw [if_pos hpulls, Synchronizer.pullWithin, hpop]
    refine ⟨.next, rfl, nofun, ?_, ?_⟩
    · exact congrArg Prod.fst hnext
    · exact congrArg (fun read => { t with synchronizer := read.2 }) hnext
  | false =>
    have hreceive : t.synchronizer.receive =
        (.bundle b, { t.synchronizer with outlet := t.synchronizer.outlet.drop }) := by
      simp [Synchronizer.receive, Outlet.receive, hpulls, hhead]
    refine ⟨.receive, rfl, nofun, ?_, ?_⟩
    · exact congrArg (fun read => read.1.bundle?) hreceive
    · exact congrArg (fun read => { t with synchronizer := read.2 }) hreceive

theorem Exchange.done_of_producers {x : Exchange Unit} {producers : List Producer}
    (hproducers : x.senders.map (·.toProducer) = producers)
    (hall : ∀ a ∈ producers, a.todo = []) : x.Done :=
  fun a ha => hall a.toProducer (hproducers ▸ List.mem_map_of_mem ha)

/-- A course that does what an exchange does, but for what its journal has forgotten. -/
structure Course.Follows (c : Course) (x : Exchange Unit) : Prop where
  clock : x.session.clock = c.session.clock
  synchronizer : ∃ old, x.session.synchronizer = c.session.synchronizer.recording old
  bundles : c.bundles? = BundleStats.ofList? x.obtained
  sent : c.sent = (x.senders.map (·.report.sent)).sum
  rejected : c.rejected = (x.senders.map (·.report.rejected)).sum

namespace Course.Follows

variable {r : Setup} {t : Session Unit} {plans : List (String × Plan)} {x : Exchange Unit}
  {c : Course}

theorem ofPlans (t : Session Unit) (plans : List (String × Plan)) :
    Follows { session := t } (Exchange.ofPlans t plans) where
  clock := rfl
  synchronizer := ⟨[], by simp [Synchronizer.recording, Exchange.ofPlans]⟩
  bundles := rfl
  sent := by simp [Exchange.ofPlans, Sender.start, Function.comp_def]
  rejected := by simp [Exchange.ofPlans, Sender.start, Function.comp_def]

theorem take (hcourse : c.Follows x) (hx : x.Underway t plans)
    (h : Session.create r.config 0 = .ok t) {b : Bundle Unit}
    (hhead : c.session.synchronizer.outlet.queue.head? = some b) :
    ∃ x', x'.Underway t plans ∧ x'.senders = x.senders ∧
      Follows { c with
        session := { c.session with synchronizer := { c.session.synchronizer with
          outlet := c.session.synchronizer.outlet.drop } }
        bundles? := c.bundles?.bind (·.add? b) } x' := by
  obtain ⟨old, hsynchronizer⟩ := hcourse.synchronizer
  have hnext : x.session.synchronizer.outlet.queue.head? = some b := by
    rw [hsynchronizer]
    exact hhead
  obtain ⟨op, hquiet, hopen, hbundle, hstep⟩ := exists_pull (hx.outlet h) hnext
  have hmove : x.move noPayload (.other op) =
      { x with session := (x.session.step op).2, obtained := x.obtained ++ [b] } := by
    unfold Exchange.move
    dsimp only
    rw [hbundle]
    rfl
  refine ⟨x.move noPayload (.other op), hx.other hquiet hopen, by rw [hmove], ?_⟩
  rw [hmove, hstep]
  refine ⟨hcourse.clock, ⟨old, ?_⟩, ?_, hcourse.sent, hcourse.rejected⟩
  · dsimp only
    rw [hsynchronizer]
    rfl
  · dsimp only
    rw [BundleStats.ofList?_concat, hcourse.bundles]

theorem consume (hcourse : c.Follows x) (hx : x.Underway t plans)
    (h : Session.create r.config 0 = .ok t) (limit : Nat) :
    ∃ x', x'.Underway t plans ∧ x'.senders = x.senders ∧ (c.consume limit).Follows x' := by
  induction limit generalizing c x with
  | zero => exact ⟨x, hx, rfl, hcourse⟩
  | succ limit ih =>
    unfold Course.consume
    dsimp only
    cases hhead : c.session.synchronizer.outlet.queue.head? with
    | none => exact ⟨x, hx, rfl, hcourse⟩
    | some b =>
      obtain ⟨x', hx', hsenders, hcourse'⟩ := hcourse.take hx h hhead
      obtain ⟨x'', hx'', hsenders', hcourse''⟩ := ih hcourse' hx'
      exact ⟨x'', hx'', hsenders'.trans hsenders, hcourse''⟩

theorem add (hcourse : c.Follows x) (hx : x.Underway t plans) {i : Nat} {a : Sender} {p : PulseId}
    (ha : x.senders[i]? = some a) :
    let added := c.session.synchronizer.add c.session.clock ⟨a.channel, p, ()⟩
    Follows { c with
      session := { c.session with synchronizer := added.2.clearJournal }
      sent := c.sent + 1
      rejected := if added.1 = .buffered then c.rejected else c.rejected + 1 }
      (x.send noPayload i a p) := by
  intro added
  obtain ⟨old, hsynchronizer⟩ := hcourse.synchronizer
  have hadd : x.session.synchronizer.add x.session.clock ⟨a.channel, p, noPayload a.channel p⟩ =
      added.map id (Synchronizer.recording old) := by
    rw [hsynchronizer, hcourse.clock]
    exact Synchronizer.add_recording old _ _ _
  have hopen : added.1 ≠ .closed := by
    have hanswer := hx.add_ne_closed ⟨a.channel, p, noPayload a.channel p⟩
    rwa [hadd] at hanswer
  have hstep : (x.session.step (.add ⟨a.channel, p, noPayload a.channel p⟩)).2 =
      ⟨added.2.recording old, x.session.clock⟩ :=
    congrArg (fun answer => Session.mk answer.2 x.session.clock) hadd
  have hreport : (a.hear added.1).report = { a.report with
      sent := a.report.sent + 1
      rejected := a.report.rejected + if added.1 = .buffered then 0 else 1 } := by
    cases hanswer : added.1 with
    | buffered => rw [if_pos rfl, UInt64.add_zero]; rfl
    | closed => exact absurd hanswer hopen
    | _ => rfl
  unfold Exchange.send
  dsimp only
  rw [hstep, hadd]
  refine ⟨hcourse.clock, ⟨added.2.journal ++ old, ?_⟩, hcourse.bundles, ?_, ?_⟩
  -- What the course forgets of its journal stands behind what it notes from now on.
  · dsimp only
    rw [← Synchronizer.recording_recording, Synchronizer.recording_clearJournal]
  · exact hcourse.sent ▸ (sum_map_set ha (congrArg Report.sent hreport)).symm
  · refine Eq.trans ?_ (sum_map_set ha (congrArg Report.rejected hreport)).symm
    dsimp only
    rw [hcourse.rejected]
    split
    · exact (UInt64.add_zero _).symm
    · rfl

theorem send (hcourse : c.Follows x) (hx : x.Underway t plans)
    (h : Session.create r.config 0 = .ok t) {i : Nat} {a : Sender} {p : PulseId}
    {todo : List PulseId} (ha : x.senders[i]? = some a) (htodo : a.todo = p :: todo) :
    ∃ x', x'.Underway t plans ∧
      x'.senders.map (·.toProducer) =
        (x.senders.map (·.toProducer)).set i { a.toProducer with todo } ∧
      (c.send a.channel p).Follows x' := by
  obtain ⟨x', hx', hsenders, hcourse'⟩ := (hcourse.add hx ha).consume (hx.send ha htodo) h
    (c.session.synchronizer.add c.session.clock ⟨a.channel, p, ()⟩).2.clearJournal.pending
  refine ⟨x', hx', ?_, hcourse'⟩
  have hopen := hx.add_ne_closed ⟨a.channel, p, noPayload a.channel p⟩
  have hproducer {o : Outcome} (ho : o ≠ .closed) :
      (a.hear o).toProducer = { a.toProducer with todo } := by
    rw [← Sender.todo_hear htodo ho]
    exact congrArg (Producer.mk · _) (a.hear_frame o).1
  rw [hsenders]
  show (x.senders.set i _).map _ = _
  rw [List.map_set, hproducer hopen]

/-- The turns of the producers are moves of the exchange, and in the end all is sent. -/
theorem turns (hcourse : c.Follows x) (hx : x.Underway t plans)
    (h : Session.create r.config 0 = .ok t) {producers : List Producer}
    (hproducers : x.senders.map (·.toProducer) = producers) {limit : Nat}
    (hlimit : (producers.map (·.todo.length)).sum ≤ limit) {sent : Array (String × PulseId)}
    {c₀ : Course} (hsent : sent.foldl (fun c m => c.send m.1 m.2) c₀ = c) :
    ∃ x', x'.Underway t plans ∧ x'.Done ∧
      ((turns limit producers sent).foldl (fun c m => c.send m.1 m.2) c₀).Follows x' := by
  induction limit generalizing c x producers sent with
  | zero =>
    refine ⟨x, hx, done_of_producers hproducers fun a ha => ?_, hsent ▸ hcourse⟩
    have hpart : a.todo.length ∈ producers.map (·.todo.length) := List.mem_map_of_mem ha
    have hle := List.le_sum_of_mem hpart
    exact List.length_eq_zero_iff.1 (by omega)
  | succ limit ih =>
    unfold Replay.turns
    cases hmin : (producers.filterMap (·.todo.head?)).min? with
    | none =>
      refine ⟨x, hx, done_of_producers hproducers fun a ha => ?_, hsent ▸ hcourse⟩
      have hhead := List.filterMap_eq_nil_iff.1 (List.min?_eq_none_iff.1 hmin) a ha
      exact List.head?_eq_none_iff.1 hhead
    | some p =>
      -- A producer with the least pulse sends it, and one value less is left for the other turns.
      obtain ⟨channel, rest, hturn⟩ := exists_takeTurn hmin
      obtain ⟨i, b, todo, hb, htodo, rfl, rfl⟩ := exists_of_takeTurn hturn
      have ha := hb
      rw [← hproducers, List.getElem?_map, Option.map_eq_some_iff] at ha
      obtain ⟨a, ha, rfl⟩ := ha
      obtain ⟨x', hx', hproducers', hcourse'⟩ := hcourse.send hx h ha htodo
      rw [hproducers] at hproducers'
      obtain ⟨front, back, hfront, hset⟩ := Fed.exists_set hb
      have hfewer : ((producers.set i { a.toProducer with todo }).map (·.todo.length)).sum ≤
          limit := by
        rw [hset]
        rw [hfront] at hlimit
        simp only [List.map_append, List.map_cons, List.sum_append, List.sum_cons, htodo,
          List.length_cons] at hlimit ⊢
        omega
      dsimp only
      rw [hturn]
      exact ih hcourse' hx' hproducers' hfewer (by rw [Array.foldl_push, hsent])

/-- At the end the clock moves and the pulses that are too old leave. -/
theorem flush (hcourse : c.Follows x) (hx : x.Underway t plans)
    (h : Session.create r.config 0 = .ok t) :
    ∃ x', x'.Underway t plans ∧ x'.senders = x.senders ∧ c.flush.Follows x' := by
  obtain ⟨old, hsynchronizer⟩ := hcourse.synchronizer
  unfold Course.flush
  cases c.session.synchronizer.config.maxAge? with
  | none => exact ⟨x, hx, rfl, hcourse⟩
  | some age =>
    have hclock : (x.move noPayload (.other (.setClock (age + 1)))).Underway t plans :=
      hx.other rfl nofun
    have hevict : ((x.move noPayload (.other (.setClock (age + 1)))).move noPayload
        (.other .evictExpired)).Underway t plans := hclock.other rfl nofun
    have hstep : (x.session.synchronizer.evictExpired (age + 1)).2 =
        (c.session.synchronizer.evictExpired (age + 1)).2.recording old := by
      rw [hsynchronizer, (Synchronizer.unread_recording old).evictExpired]
      rfl
    refine consume ?_ hevict h _
    refine ⟨rfl, ⟨old, hstep⟩, ?_, hcourse.sent, hcourse.rejected⟩
    show c.bundles? = BundleStats.ofList? ((x.obtained ++ []) ++ [])
    rw [List.append_nil, List.append_nil, hcourse.bundles]

end Course.Follows

/-! ## Runs -/

/-- The course of a replay whose plans are there. -/
def course (t : Session Unit) (plans : List (String × Plan)) : Course :=
  let producers := plans.map fun q => (⟨q.1, q.2.pulses⟩ : Producer)
  let total := producers.foldl (fun n a => n + a.todo.length) 0
  Course.flush ((turns total producers #[]).foldl (fun c m => c.send m.1 m.2) { session := t })

/-- Some exchange in which all is sent does what the course does. -/
theorem exists_follows_course {r : Setup} {t : Session Unit}
    (h : Session.create r.config 0 = .ok t) (plans : List (String × Plan)) :
    ∃ x, x.Underway t plans ∧ x.Done ∧ (course t plans).Follows x := by
  have hproducers : (ofPlans t plans).senders.map (·.toProducer) =
      plans.map fun q => ⟨q.1, q.2.pulses⟩ := by
    show (plans.map _).map _ = _
    rw [List.map_map]
    rfl
  have hlimit : ((plans.map fun q => (⟨q.1, q.2.pulses⟩ : Producer)).map (·.todo.length)).sum =
      (plans.map fun q => (⟨q.1, q.2.pulses⟩ : Producer)).foldl (fun n a => n + a.todo.length) 0 :=
    by rw [List.sum_eq_foldl, List.foldl_map]
  obtain ⟨x, hx, hdone, hturns⟩ := (Course.Follows.ofPlans t plans).turns
    (.ofPlans (Session.new_of_create h).fresh.closed plans) h hproducers (Nat.le_of_eq hlimit)
    Array.foldl_empty
  obtain ⟨x', hx', hsenders, hcourse⟩ := hturns.flush hx h
  exact ⟨x', hx', fun a ha => hdone a (hsenders ▸ ha), hcourse⟩

section Runs

variable {r : Setup} {t : Session Unit} {plans : List (String × Plan)}
  (h : Session.create r.config 0 = .ok t) (hplans : r.plans? = some plans)

include h hplans

theorem run_eq {stats : BundleStats}
    (hstats : (course t plans).bundles? = some stats) :
    run r = .ok {
      seed := r.seed
      channels := r.config.channels.length
      sent := (course t plans).sent
      dropped := (plans.map (·.2.dropped)).sum
      rejected := (course t plans).rejected
      leftBuffered := (course t plans).session.synchronizer.buffer.size
      counters := (course t plans).session.synchronizer.close.counters
      bundles := stats } := by
  have hdropped : (plans.map (·.2.dropped)).sum = plans.foldl (fun n q => n + q.2.dropped) 0 := by
    rw [List.sum_eq_foldl, List.foldl_map]
  unfold run
  rw [h, producers?_eq, hplans, hdropped]
  dsimp only [Except.mapError, bind, Except.bind, Option.map]
  split
  next bundles hbundles =>
    cases hstats.symm.trans hbundles
    rfl
  next hnone => exact absurd hstats (hnone stats)

/-- The replay that is run is one of the interleavings in which all is sent, and comes to what is
counted there. -/
theorem exists_orderly_of_run :
    ∃ moves, (ofPlans t plans).Orderly noPayload moves ∧
      let final := (ofPlans t plans).run noPayload moves
      final.Done ∧ ∀ stats, BundleStats.ofList? final.obtained = some stats →
        run r = .ok {
          seed := r.seed
          channels := r.config.channels.length
          sent := (final.senders.map (·.report.sent)).sum
          dropped := (final.senders.map (·.report.dropped)).sum
          rejected := (final.senders.map (·.report.rejected)).sum
          leftBuffered := final.session.synchronizer.buffer.size
          counters := final.session.synchronizer.counters
          bundles := stats } := by
  obtain ⟨x, hx, hdone, hcourse⟩ := exists_follows_course h plans
  obtain ⟨old, hsynchronizer⟩ := hcourse.synchronizer
  obtain ⟨moves, rfl, hquiet⟩ := hx.moves
  refine ⟨moves, ⟨fun op hop => (hquiet op hop).1, fun before after hsplit => ?_⟩, hdone, ?_⟩
  · have hclose : Move.other .close ∈ moves := hsplit ▸ List.mem_append_right _ (.head _)
    exact absurd rfl (hquiet _ hclose).2
  · intro stats hstats
    have hcounters : (course t plans).session.synchronizer.close.counters =
        (course t plans).session.synchronizer.counters := by
      unfold Synchronizer.close
      split <;> rfl
    rw [run_eq h hplans (hcourse.bundles.trans hstats), hcounters, hcourse.sent, hcourse.rejected,
      hx.dropped, hsynchronizer]
    rfl

end Runs

/-- Every replay for which a session can be created comes to a result, and its books balance: all
values planned are received, those rejected are the stale ones, and with those dropped the values
are all that were expected, as far as 64 bits go. -/
theorem exists_run {r : Setup} {t : Session Unit} (h : Session.create r.config 0 = .ok t)
    (hpulses : r.pulses.toNat ≤ 2 ^ 63) (hrate : r.dropRate ≤ 1) :
    ∃ plans, r.plans? = some plans ∧
      ((plans.map (·.2.pulses.length)).sum < UInt64.size →
        ∃ result, run r = .ok result ∧
          result.sent.toNat = (plans.map (·.2.pulses.length)).sum ∧
          result.sent = result.counters.received ∧ result.rejected = result.counters.stale ∧
          result.counters.unknownChannel = 0 ∧ result.counters.offSchedule = 0 ∧
          result.counters.duplicates = 0 ∧
          result.sent + result.dropped =
            .ofNat (r.config.channels.map (·.expectedFrom r.start r.pulses.toNat)).sum ∧
          result.bundles.violations = 0) := by
  obtain ⟨plans, hplans, hcovers⟩ := exists_plans_of_create h hpulses hrate
  refine ⟨plans, hplans, fun hfew => ?_⟩
  obtain ⟨moves, hmoves, hdone, hrun⟩ := exists_orderly_of_run h hplans
  have hbooks := books_of_orderly h hcovers hfew hmoves hdone
  obtain ⟨stats, hstats, hviolations, -⟩ := hbooks.statistics
  generalize (ofPlans t plans).run noPayload moves = final at hrun hbooks hstats
  have htotal (f : Report → UInt64) : (final.senders.map fun a => f a.report).sum =
      .ofNat (final.senders.map fun a => (f a.report).toNat).sum := by
    rw [sum_eq_ofNat, List.map_map]
    rfl
  have hsent : (final.senders.map (·.report.sent)).sum =
      final.session.synchronizer.counters.received := by
    rw [htotal, hbooks.received, UInt64.ofNat_toNat]
  refine ⟨_, hrun stats hstats, ?_, hsent, ?_, hbooks.unknownChannel, hbooks.offSchedule,
    hbooks.duplicates, ?_, hviolations⟩
  · exact (congrArg UInt64.toNat hsent).trans (hbooks.received.symm.trans hbooks.sent)
  · dsimp only
    rw [htotal, hbooks.rejected, UInt64.ofNat_toNat]
  · dsimp only
    rw [htotal, htotal, ← UInt64.ofNat_add, ← List.sum_map_add, hbooks.expected]

end PulseJoin.Replay
