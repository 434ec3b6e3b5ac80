/-!
# TOML documents

A document is a list of settings, followed by sections that begin with a header.  `Toml.Table` says
which table it stands for.
-/

namespace PulseJoin.Text.Toml

inductive NumberKind where
  /-- A number of at most 128 bits, signed or unsigned. -/
  | integer
  /-- A number with a fraction or an exponent, in the range of doubles. -/
  | real
  deriving DecidableEq, Repr

/-- A number out of the range of its kind, as a part of the text it stands in. -/
structure Excess where
  kind : NumberKind
  written : List Char
  /-- How many characters the text has from the first one of the number on. -/
  left : Nat
  deriving DecidableEq, Repr

inductive Value where
  | text (s : String)
  | integer (n : Int)
  /-- A number with a fraction or an exponent, or a word for one, as it was written. -/
  | real (written : List Char)
  /-- A number that cannot be looked at. -/
  | excess (e : Excess)
  | boolean (b : Bool)
  /-- A date, a time of day or both, as it was written. -/
  | moment (written : List Char)
  | array (items : List Value)
  | table (entries : List (String × Value))

/-- A name behind the names of the tables it stands in. -/
structure Key where
  path : List String
  name : String
  deriving DecidableEq, Repr

structure Setting where
  key : Key
  value : Value

structure Header where
  key : Key
  /-- Whether the section is one of a list of tables. -/
  repeated : Bool
  deriving DecidableEq, Repr

structure Section where
  header : Header
  settings : List Setting

structure Document where
  settings : List Setting
  sections : List Section

def isBare (c : Char) : Bool := c.isAlphanum || c == '_' || c == '-'

end PulseJoin.Text.Toml
