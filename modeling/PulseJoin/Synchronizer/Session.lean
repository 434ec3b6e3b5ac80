import PulseJoin.Synchronizer

/-!
# Sessions

A session is a synchronizer with the clock it reads.  `Session.step` performs one operation of a
producer, a consumer or the keeper of the clock, `Session.run` a list of them.
-/

namespace PulseJoin

universe u

structure Session (α : Type u) where
  synchronizer : Synchronizer α
  clock : UInt64 := 0

inductive Op (α : Type u) where
  | add (message : Message α)
  | evictExpired
  | tryNext
  | next
  | receive
  | close
  | setClock (ms : UInt64)
  /-- Moves the clock on, past the end of its range to the beginning. -/
  | advanceClock (ms : UInt64)

inductive Response (α : Type u) where
  | outcome (o : Outcome)
  | resolved (pulses : Nat)
  | bundle (b : Option (Bundle α))
  | receipt (r : Receipt α)
  | done
  | clock (ms : UInt64)

namespace Session

variable {α : Type u}

def create (c : Config) (clock : UInt64) : Except Synchronizer.CreateError (Session α) := do
  return { synchronizer := ← Synchronizer.create c, clock }

def step (t : Session α) : Op α → Response α × Session α
  | .add m =>
    let (o, synchronizer) := t.synchronizer.add t.clock m
    (.outcome o, { t with synchronizer })
  | .evictExpired =>
    let (n, synchronizer) := t.synchronizer.evictExpired t.clock
    (.resolved n, { t with synchronizer })
  | .tryNext =>
    let (b, synchronizer) := t.synchronizer.tryNext t.clock
    (.bundle b, { t with synchronizer })
  | .next =>
    let (b, synchronizer) := t.synchronizer.next t.clock
    (.bundle b, { t with synchronizer })
  | .receive =>
    let (r, synchronizer) := t.synchronizer.receive
    (.receipt r, { t with synchronizer })
  | .close => (.done, { t with synchronizer := t.synchronizer.close })
  | .setClock ms => (.clock ms, { t with clock := ms })
  | .advanceClock ms => (.clock (t.clock + ms), { t with clock := t.clock + ms })

def run (t : Session α) : List (Op α) → List (Response α) × Session α
  | [] => ([], t)
  | op :: ops =>
    let (r, t) := t.step op
    let (rs, t) := t.run ops
    (r :: rs, t)

/-- Takes up to and including the first receipt that is no bundle; `limit` ends the search. -/
def drainUpTo : Nat → Synchronizer α → List (Receipt α) × Synchronizer α
  | 0, s => ([], s)
  | limit + 1, s =>
    match s.receive with
    | (.bundle b, s) =>
      let (rs, s) := drainUpTo limit s
      (.bundle b :: rs, s)
    | (r, s) => ([r], s)

def drain (t : Session α) : List (Receipt α) × Session α :=
  let (rs, synchronizer) := drainUpTo (t.synchronizer.pending + 1) t.synchronizer
  (rs, { t with synchronizer })

def popEach : Nat → Synchronizer α → List (Option (Bundle α)) × Synchronizer α
  | 0, s => ([], s)
  | n + 1, s =>
    let (b, s) := s.pop
    let (bs, s) := popEach n s
    (b :: bs, s)

/--
What `n` consumers obtain that were waiting while other operations ran: nothing from a closed
synchronizer, else the bundles that are ready; a resolution pass runs first if none is.
-/
def serveWaiting (t : Session α) (n : Nat) : List (Option (Bundle α)) × Session α :=
  let s := t.synchronizer
  let s := if s.outlet.queue.isEmpty then (s.evictExpired t.clock).2 else s
  let (bs, synchronizer) := popEach n s
  (bs, { t with synchronizer })

end Session

end PulseJoin
