import PulseJoin.Bundle
import PulseJoin.Config

/-!
# The outlet

Where resolved bundles wait for consumers, first in, first out.  In push mode the queue is bounded
and its content outlives the close; in pull mode it is unbounded and the close empties it.  The
places of a bounded queue are laid out from the start, so there is none with too many of them.
-/

namespace PulseJoin

universe u

structure Outlet (α : Type u) where
  mode : DeliveryMode
  queue : List (Bundle α) := []
  closed : Bool := false

/-- The bytes that a place in a bounded queue takes, for a stamp and a bundle. -/
def placeSize : Nat := 72

/-- Whether the places of a queue fit into half of the address space, which no memory exceeds. -/
def DeliveryMode.fits : DeliveryMode → Bool
  | .push capacity => 2 * (capacity.toNat * placeSize) < UInt64.size
  | .pull => true

inductive Handoff where
  | accepted
  | full
  | closed
  deriving DecidableEq, Repr

inductive Receipt (α : Type u) where
  | bundle (b : Bundle α)
  | empty
  | closed
  /-- There is no push queue. -/
  | absent

namespace Outlet

variable {α : Type u}

def pulls (o : Outlet α) : Bool := o.mode == .pull

def isFull (o : Outlet α) : Bool :=
  match o.mode with
  | .push capacity => capacity.toNat ≤ o.queue.length
  | .pull => false

def handoff (o : Outlet α) : Handoff :=
  if o.closed then .closed else if o.isFull then .full else .accepted

def offer (o : Outlet α) (b : Bundle α) : Outlet α :=
  match o.handoff with
  | .accepted => { o with queue := o.queue ++ [b] }
  | _ => o

def drop (o : Outlet α) : Outlet α := { o with queue := o.queue.tail }

/-- Takes the first bundle for a consumer that pulls; a closed outlet has none. -/
def pop (o : Outlet α) : Option (Bundle α) × Outlet α :=
  if o.closed then (none, o) else (o.queue.head?, o.drop)

def receive (o : Outlet α) : Receipt α × Outlet α :=
  if o.pulls then (.absent, o)
  else match o.queue.head? with
    | some b => (.bundle b, o.drop)
    | none => (if o.closed then .closed else .empty, o)

/-- Refuses all further bundles; what consumers would have pulled is thrown away. -/
def close (o : Outlet α) : Outlet α :=
  { o with closed := true, queue := if o.pulls then [] else o.queue }

end Outlet

end PulseJoin
