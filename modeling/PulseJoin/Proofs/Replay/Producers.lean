import PulseJoin.Proofs.Session.Scheduled
import PulseJoin.Replay

/-!
# Producers at work

In a replay the producers send their plans value by value, in any interleaving with one another,
with consumers and with the clock.  An `Exchange` is a session with its producers; after any moves
the values sent and those still ahead are those of the plans, and the reports of the producers
agree with what the session answered (`Fed`).
-/

namespace PulseJoin.Replay

universe u

variable {α : Type u}

structure Report where
  sent : UInt64 := 0
  dropped : UInt64 := 0
  rejected : UInt64 := 0

/-- A producer at work: what it has still to send, its plan and its report so far. -/
structure Sender extends Producer where
  plan : Plan
  report : Report

namespace Sender

def start (channel : String) (plan : Plan) : Sender :=
  { channel, todo := plan.pulses, plan, report := { dropped := plan.dropped } }

/-- What a producer makes of the answer to its next value.  After the close it sends no more; every
other value is sent, also one that is rejected. -/
def hear (a : Sender) : Outcome → Sender
  | .buffered =>
    { a with todo := a.todo.tail, report := { a.report with sent := a.report.sent + 1 } }
  | .closed => { a with todo := [] }
  | _ =>
    { a with
      todo := a.todo.tail
      report := { a.report with
        sent := a.report.sent + 1
        rejected := a.report.rejected + 1 } }

def ahead (a : Sender) : List (String × PulseId) := a.todo.map fun p => (a.channel, p)

/-- A report that tells how much of the plan was sent. -/
structure Honest (a : Sender) : Prop where
  sent : a.report.sent.toNat + a.todo.length = a.plan.pulses.length
  dropped : a.report.dropped = a.plan.dropped
  rejected : a.report.rejected.toNat ≤ a.report.sent.toNat

variable {a : Sender} {o : Outcome} {p : PulseId} {rest : List PulseId}

theorem honest_start (channel : String) (plan : Plan) : (start channel plan).Honest :=
  ⟨Nat.zero_add _, rfl, Nat.le_refl _⟩

theorem hear_frame (a : Sender) (o : Outcome) :
    (a.hear o).channel = a.channel ∧ (a.hear o).plan = a.plan := by
  cases o <;> exact ⟨rfl, rfl⟩

theorem todo_hear (htodo : a.todo = p :: rest) (hopen : o ≠ .closed) : (a.hear o).todo = rest := by
  have htail : a.todo.tail = rest := by rw [htodo, List.tail_cons]
  cases o with
  | closed => exact absurd rfl hopen
  | _ => exact htail

theorem Honest.hear (h : a.Honest) (htodo : a.todo = p :: rest) (hopen : o ≠ .closed)
    (hfew : a.plan.pulses.length < UInt64.size) :
    (a.hear o).Honest ∧ (a.hear o).report.rejected.toNat =
      a.report.rejected.toNat + if o = .buffered then 0 else 1 := by
  have hsent := h.sent
  have hrejected := h.rejected
  rw [htodo, List.length_cons] at hsent
  have hone : (1 : UInt64).toNat = 1 := rfl
  have hmore : (a.report.sent + 1).toNat = a.report.sent.toNat + 1 :=
    Count.toNat_add_of_lt (by rw [hone]; omega)
  have hworse : (a.report.rejected + 1).toNat = a.report.rejected.toNat + 1 :=
    Count.toNat_add_of_lt (by rw [hone]; omega)
  have hrest := todo_hear htodo hopen
  -- Every answer but `buffered` and `closed` is one more rejection.
  have hrejection (hreport : (a.hear o).report = { a.report with
        sent := a.report.sent + 1, rejected := a.report.rejected + 1 }) :
      (a.hear o).Honest ∧ (a.hear o).report.rejected.toNat = a.report.rejected.toNat + 1 := by
    refine ⟨⟨?_, ?_, ?_⟩, ?_⟩
    · rw [hreport, hrest, hmore, (a.hear_frame o).2]
      omega
    · rw [hreport, (a.hear_frame o).2]
      exact h.dropped
    · rw [hreport, hmore, hworse]
      omega
    · rw [hreport, hworse]
  cases o with
  | buffered =>
    refine ⟨⟨?_, h.dropped, ?_⟩, rfl⟩
    · rw [hrest]
      show (a.report.sent + 1).toNat + _ = a.plan.pulses.length
      omega
    · show a.report.rejected.toNat ≤ (a.report.sent + 1).toNat
      omega
  | closed => exact absurd rfl hopen
  | _ => exact hrejection rfl

end Sender

/-! ## Moves -/

/-- A session, the producers that send to it, and the bundles that consumers obtained from it. -/
structure Exchange (α : Type u) where
  session : Session α
  senders : List Sender
  obtained : List (Bundle α) := []

/-- What can happen next: some producer sends its next value, or another operation is asked for. -/
inductive Move (α : Type u) where
  | send (i : Nat)
  | other (op : Op α)

namespace Exchange

/-- Whether no producer has anything left to send. -/
def Done (x : Exchange α) : Prop := ∀ a ∈ x.senders, a.todo = []

variable (payload : String → PulseId → α)

/-- The `i`th producer, which is `a`, sends its value for `p`. -/
def send (x : Exchange α) (i : Nat) (a : Sender) (p : PulseId) : Exchange α :=
  let m : Message α := ⟨a.channel, p, payload a.channel p⟩
  { x with
    session := (x.session.step (.add m)).2
    senders := x.senders.set i (a.hear (x.session.synchronizer.add x.session.clock m).1) }

/-- One move.  A producer that is not there or has nothing left to send does nothing. -/
def move (x : Exchange α) : Move α → Exchange α
  | .send i =>
    match x.senders[i]? with
    | none => x
    | some a =>
      match a.todo with
      | [] => x
      | p :: _ => x.send payload i a p
  | .other op =>
    { x with
      session := (x.session.step op).2
      obtained := x.obtained ++ (x.session.step op).1.bundle?.toList }

def run (x : Exchange α) (moves : List (Move α)) : Exchange α := moves.foldl (move payload) x

theorem run_concat (x : Exchange α) (moves : List (Move α)) (m : Move α) :
    x.run payload (moves ++ [m]) = (x.run payload moves).move payload m :=
  List.foldl_concat _ _ _ _

/-- What an exchange comes to that began with the session `t` and the producers `start` and asked
for `ops`. -/
structure Fed (t : Session α) (start : List Sender) (ops : List (Op α)) (x : Exchange α) :
    Prop where
  session : x.session = (t.run ops).2
  obtained : x.obtained = (t.run ops).1.filterMap Response.bundle?
  opened : x.session.synchronizer.closed = true → x.Done
  heard : (t.run ops).1.countP Response.isClosed = 0
  plans : x.senders.map (·.plan) = start.map (·.plan)
  honest : ∀ a ∈ x.senders, a.Honest
  sent : ((ops.filterMap Op.message?).map (fun m => (m.channel, m.pulse)) ++
    x.senders.flatMap Sender.ahead).Perm (start.flatMap Sender.ahead)
  rejected : (x.senders.map (·.report.rejected.toNat)).sum + (t.history ops).arrivals.length =
    (ops.filterMap Op.message?).length

namespace Fed

variable {payload} {t : Session α} {start : List Sender} {ops : List (Op α)} {x : Exchange α}

theorem of_open (hopen : t.synchronizer.closed = false) (hhonest : ∀ a ∈ start, a.Honest)
    (hstart : ∀ a ∈ start, a.report.rejected = 0) : Fed t start [] ⟨t, start, []⟩ where
  session := rfl
  obtained := rfl
  opened hclosed := absurd (hopen.symm.trans hclosed) nofun
  heard := rfl
  plans := rfl
  honest := hhonest
  sent := .refl _
  rejected := by
    have hnone : start.map (·.report.rejected.toNat) = start.map fun _ => 0 :=
      List.map_congr_left fun a ha => congrArg UInt64.toNat (hstart a ha)
    rw [hnone]
    simp
    rfl

theorem exists_set {β : Type u} {xs : List β} {i : Nat} {a : β} (h : xs[i]? = some a) :
    ∃ front back, xs = front ++ a :: back ∧ ∀ b, xs.set i b = front ++ b :: back := by
  obtain ⟨hi, rfl⟩ := List.getElem?_eq_some_iff.1 h
  refine ⟨xs.take i, xs.drop (i + 1), ?_, fun b => List.set_eq_take_cons_drop b hi⟩
  rw [← List.drop_eq_getElem_cons hi, List.take_append_drop]

theorem send (h : x.Fed t start ops) {i : Nat} {a : Sender} {p : PulseId} {rest : List PulseId}
    (ha : x.senders[i]? = some a) (htodo : a.todo = p :: rest)
    (hfew : a.plan.pulses.length < UInt64.size) :
    (x.send payload i a p).Fed t start (ops ++ [.add ⟨a.channel, p, payload a.channel p⟩]) := by
  obtain ⟨front, back, hsenders, hset⟩ := exists_set ha
  have hmem : a ∈ x.senders := List.mem_of_getElem? ha
  -- After the close nobody has anything left to send.
  have hopen : ¬ x.session.synchronizer.closed = true := by
    intro hclosed
    have hnone := h.opened hclosed a hmem
    rw [htodo] at hnone
    cases hnone
  unfold Exchange.send
  generalize hm : (⟨a.channel, p, payload a.channel p⟩ : Message α) = m
  dsimp only
  generalize ho : (x.session.synchronizer.add x.session.clock m).1 = o
  have hheard : o ≠ .closed := by
    intro hclosed
    exact hopen (Synchronizer.closed_of_add (ho.trans hclosed))
  obtain ⟨hhonest, hrejected⟩ := (h.honest a hmem).hear htodo hheard hfew
  obtain ⟨hchannel, hplan⟩ := a.hear_frame o
  have hstep : (x.session.step (.add m)).1 = .outcome o := congrArg Response.outcome ho
  have hrun : t.run (ops ++ [.add m]) =
      ((t.run ops).1 ++ [.outcome o], (x.session.step (.add m)).2) := by
    rw [Session.run_concat, ← h.session, hstep]
  have harrivals : (t.history (ops ++ [.add m])).arrivals.length =
      (t.history ops).arrivals.length + if o = .buffered then 1 else 0 := by
    rw [Session.history_concat, ← h.session, History.arrivals_append, List.length_append]
    show _ + List.length (if (x.session.synchronizer.add x.session.clock m).1 = Outcome.buffered
      then _ else _) = _
    rw [ho]
    split <;> rfl
  have hmessages : (ops ++ [Op.add m]).filterMap Op.message? = ops.filterMap Op.message? ++ [m] :=
    List.filterMap_append
  constructor
  case session => rw [hrun]
  case obtained =>
    rw [hrun, List.filterMap_append, ← h.obtained]
    exact (List.append_nil _).symm
  case opened =>
    intro hclosed
    rcases Session.closed_step hclosed with hbefore | hclose
    · exact absurd hbefore hopen
    · cases hclose
  case heard =>
    rw [hrun, List.countP_append, h.heard, List.countP_singleton]
    cases o with
    | closed => exact absurd rfl hheard
    | _ => rfl
  case plans =>
    rw [← h.plans, hset, hsenders, List.map_append, List.map_append, List.map_cons, List.map_cons,
      hplan]
  case honest =>
    intro b hb
    rcases List.mem_or_eq_of_mem_set hb with hold | rfl
    · exact h.honest b hold
    · exact hhonest
  case sent =>
    -- The value moves from those ahead to those sent.
    refine .trans ?_ h.sent
    have hahead : a.ahead = (a.channel, p) :: (a.hear o).ahead := by
      unfold Sender.ahead
      rw [htodo, Sender.todo_hear htodo hheard, hchannel, List.map_cons]
    have hvalue : (m.channel, m.pulse) = (a.channel, p) := by rw [← hm]
    rw [hmessages, hset, hsenders]
    simp only [List.map_append, List.map_cons, List.map_nil, List.flatMap_append,
      List.flatMap_cons, hahead, hvalue, List.append_assoc, List.cons_append, List.nil_append]
    refine .append_left _ ?_
    exact List.perm_middle.symm
  case rejected =>
    have hbefore := h.rejected
    rw [hsenders, List.map_append, List.map_cons, List.sum_append, List.sum_cons] at hbefore
    rw [harrivals, hmessages, hset, List.map_append, List.map_cons, List.sum_append, List.sum_cons,
      hrejected, List.length_append, List.length_singleton]
    split <;> omega

theorem other (h : x.Fed t start ops) {op : Op α} (hquiet : op.message? = none)
    (hclose : op = .close → x.Done) :
    (x.move payload (.other op)).Fed t start (ops ++ [op]) := by
  have hrun : t.run (ops ++ [op]) =
      ((t.run ops).1 ++ [(x.session.step op).1], (x.session.step op).2) := by
    rw [Session.run_concat, ← h.session]
  have hmessages : (ops ++ [op]).filterMap Op.message? = ops.filterMap Op.message? := by
    rw [List.filterMap_append, List.filterMap_cons, hquiet]
    exact List.append_nil _
  have harrivals : (t.history (ops ++ [op])).arrivals = (t.history ops).arrivals := by
    rw [Session.history_concat, History.arrivals_append]
    cases op with
    | add m => cases hquiet
    | _ => exact List.append_nil _
  constructor
  case session => rw [hrun]; rfl
  case obtained =>
    rw [hrun, List.filterMap_append, ← h.obtained, List.filterMap_cons]
    show x.obtained ++ (x.session.step op).1.bundle?.toList = _
    cases (x.session.step op).1.bundle? <;> rfl
  case opened =>
    intro hclosed
    rcases Session.closed_step hclosed with hbefore | hnow
    · exact h.opened hbefore
    · exact hclose hnow
  case heard =>
    rw [hrun, List.countP_append, h.heard, List.countP_singleton]
    cases op with
    | add m => cases hquiet
    | _ => rfl
  case plans => exact h.plans
  case honest => exact h.honest
  case sent => rw [hmessages]; exact h.sent
  case rejected => rw [hmessages, harrivals]; exact h.rejected

theorem move (h : x.Fed t start ops) {m : Move α}
    (hfew : ∀ a ∈ start, a.plan.pulses.length < UInt64.size)
    (hother : ∀ op, m = .other op → op.message? = none ∧ (op = .close → x.Done)) :
    ∃ ops, (x.move payload m).Fed t start ops := by
  cases m with
  | other op =>
    obtain ⟨hquiet, hclose⟩ := hother op rfl
    exact ⟨_, h.other hquiet hclose⟩
  | send i =>
    unfold Exchange.move
    dsimp only
    cases ha : x.senders[i]? with
    | none => exact ⟨ops, h⟩
    | some a =>
      dsimp only
      cases htodo : a.todo with
      | nil => exact ⟨ops, h⟩
      | cons p rest =>
        have hplan : a.plan ∈ start.map (·.plan) :=
          h.plans ▸ List.mem_map_of_mem (List.mem_of_getElem? ha)
        obtain ⟨b, hb, hsame⟩ := List.mem_map.1 hplan
        exact ⟨_, h.send ha htodo (hsame ▸ hfew b hb)⟩

end Fed

/-- Moves in which only the producers send, and that close the session at the earliest when all is
sent. -/
structure Orderly (x : Exchange α) (moves : List (Move α)) : Prop where
  quiet : ∀ op, .other op ∈ moves → op.message? = none
  close : ∀ before after, moves = before ++ .other .close :: after → (x.run payload before).Done

theorem Orderly.of_append {x : Exchange α} {moves later : List (Move α)}
    (h : x.Orderly payload (moves ++ later)) : x.Orderly payload moves where
  quiet op hop := h.quiet op (List.mem_append_left _ hop)
  close before after hsplit :=
    h.close before (after ++ later) (by rw [hsplit, List.append_assoc, List.cons_append])

/-- After any interleaving the reports agree with the answers, and nothing but what is still ahead
is missing from the messages. -/
theorem fed_run {x : Exchange α} {t : Session α} {start : List Sender}
    (h : x.Fed t start []) (hfew : ∀ a ∈ start, a.plan.pulses.length < UInt64.size)
    {moves : List (Move α)} (hmoves : x.Orderly payload moves) :
    ∃ ops, (x.run payload moves).Fed t start ops := by
  induction moves using List.reverseRecOn with
  | nil => exact ⟨[], h⟩
  | append_singleton moves m ih =>
    obtain ⟨ops, hsofar⟩ := ih (hmoves.of_append)
    rw [run_concat]
    refine hsofar.move hfew fun op hop => ⟨hmoves.quiet op ?_, fun hclose => ?_⟩
    · exact List.mem_append_right _ (hop ▸ .head _)
    · exact hmoves.close moves [] (by rw [hop, hclose])

end Exchange

end PulseJoin.Replay
