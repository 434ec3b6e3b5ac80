import PulseJoin.Text.Toml

/-!
# The table of a document

Settings and headers build a tree of tables.  A table remembers how it came about, since that says
what may still be added to it: a header defines a table once and only where no setting defined it,
and a dotted key adds only to tables that dotted keys made.
-/

namespace PulseJoin.Text.Toml

inductive Origin where
  /-- By a header of its own. -/
  | header
  /-- On the way to the table of a header. -/
  | implied
  /-- On the way to the last name of a dotted key. -/
  | dotted
  deriving DecidableEq, Repr

inductive Node where
  /-- A value, to which nothing can be added. -/
  | value (v : Value)
  | table (origin : Origin) (entries : List (String × Node))
  | tables (items : List (List (String × Node)))

abbrev Entries := List (String × Node)

mutual

def Node.toValue : Node → Value
  | .value v => v
  | .table _ entries => .table (entriesToValues entries)
  | .tables items => .array (tablesToValues items)

def entriesToValues : List (String × Node) → List (String × Value)
  | [] => []
  | (name, node) :: rest => (name, node.toValue) :: entriesToValues rest

def tablesToValues : List (List (String × Node)) → List Value
  | [] => []
  | entries :: rest => .table (entriesToValues entries) :: tablesToValues rest

end

/-- Rewrites the node of a name, or adds one at the end, if `f` allows it. -/
def revise? (name : String) (f : Option Node → Option Node) : Entries → Option Entries
  | [] => (f none).map fun node => [(name, node)]
  | e :: rest =>
    if e.1 = name then (f (some e.2)).map fun node => (name, node) :: rest
    else (revise? name f rest).map (e :: ·)

def reviseLast? (f : Entries → Option Entries) : List Entries → Option (List Entries)
  | [] => none
  | [entries] => (f entries).map ([·])
  | entries :: rest => (reviseLast? f rest).map (entries :: ·)

def fresh? (v : Value) : Option Node → Option Node
  | none => some (.value v)
  | some _ => none

/--
Stores the value of a key.  On the way dotted keys make the tables that are missing and pass through
tables that no header defined; the last table they come to has to be one of their own.
-/
def set? (name : String) (v : Value) : List String → Entries → Option Entries
  | [] => revise? name (fresh? v)
  | key :: path => revise? key fun
    | none => (set? name v path []).map (.table .dotted)
    | some (.table .dotted entries) => (set? name v path entries).map (.table .dotted)
    | some (.table .implied entries) =>
      if path.isEmpty then none else (set? name v path entries).map (.table .implied)
    | some (.tables items) =>
      if path.isEmpty then none else (reviseLast? (set? name v path) items).map .tables
    | some (.table .header _) | some (.value _) => none

def setAll? (settings : List Setting) (entries : Entries) : Option Entries :=
  settings.foldlM (fun es s => set? s.key.name s.value s.key.path es) entries

/--
Rewrites the node that a header names.  On the way headers make the tables that are missing, pass
through all others and enter the last table of a list.
-/
def reach? (name : String) (f : Option Node → Option Node) : List String → Entries → Option Entries
  | [] => revise? name f
  | key :: path => revise? key fun
    | none => (reach? name f path []).map (.table .implied)
    | some (.table origin entries) => (reach? name f path entries).map (.table origin)
    | some (.tables items) => (reviseLast? (reach? name f path) items).map .tables
    | some (.value _) => none

/-- What the table of a section becomes: a new one, or one that is there without a header yet. -/
def openTable? (settings : List Setting) : Option Node → Option Node
  | none => (setAll? settings []).map (.table .header)
  | some (.table .implied entries) => (setAll? settings entries).map (.table .header)
  | some _ => none

def openItem? (settings : List Setting) : Option Node → Option Node
  | none => (setAll? settings []).map fun entries => .tables [entries]
  | some (.tables items) => (setAll? settings []).map fun entries => .tables (items ++ [entries])
  | some _ => none

def Section.addTo? (s : Section) (entries : Entries) : Option Entries :=
  let openNode := if s.header.repeated then openItem? s.settings else openTable? s.settings
  reach? s.header.key.name openNode s.header.key.path entries

/-- The table a document stands for; there is none if it says two things of one name. -/
def Document.toValue? (d : Document) : Option Value := do
  let top ← setAll? d.settings []
  let all ← d.sections.foldlM (fun es s => s.addTo? es) top
  return .table (entriesToValues all)

def inlineTable? (settings : List Setting) : Option Value := do
  return .table (entriesToValues (← setAll? settings []))

end PulseJoin.Text.Toml
