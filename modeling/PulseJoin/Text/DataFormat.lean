import PulseJoin.Pulse

/-!
# Data formats

What a data format has to offer so that records can be read from its values.  A record is a table
with named entries or a list of the fields in their order; where a list may go on behind them,
nobody looks at what follows.
-/

namespace PulseJoin.Text

class DataFormat (β : Type) where
  text? : β → Option String
  int? : β → Option Int
  bool? : β → Option Bool
  items? : β → Option (List β)
  entries? : β → Option (List (String × β))
  /-- The entries of a table that are named in a list; the others must be fit to be skipped. -/
  known? : List String → β → Option (List (String × β))
  isNull : β → Bool
  /-- Whether the value may be set aside until it is known what it stands for. -/
  isStorable : β → Bool
  /-- Whether a list that stands for a record may go on behind its fields. -/
  allowsSurplus : Bool

namespace DataFormat

variable {β : Type} [DataFormat β]

def int64? (v : β) : Option Int64 := (int? v).bind PulseId.ofInt?

def uint64? (v : β) : Option UInt64 :=
  (int? v).bind fun n => if 0 ≤ n ∧ n < UInt64.size then some (.ofNat n.toNat) else none

def nullable? {α : Type} (read : β → Option α) (v : β) : Option (Option α) :=
  if isNull v then some none else (read v).map some

omit [DataFormat β] in
/-- The entry of a name; `none` if it occurs more than once. -/
def unique? (entries : List (String × β)) (name : String) : Option (Option β) :=
  match entries.filter (·.1 == name) with
  | [] => some none
  | [(_, v)] => some (some v)
  | _ => none

/-- The fields of a record, as far as they are there; `none` if the value is no such record. -/
def fields? (names : List String) (v : β) : Option (List (Option β)) :=
  match items? v with
  | some items =>
    if names.length < items.length && !allowsSurplus β then none
    else some ((items.take names.length).map some ++
      List.replicate (names.length - items.length) none)
  | none => do names.mapM (unique? (← known? names v))

omit [DataFormat β] in
def optional {α : Type} (standard : α) (read : β → Option α) : Option β → Option α
  | none => some standard
  | some v => read v

end DataFormat

end PulseJoin.Text
