import PulseJoin.Text.Numeral

/-!
# JSON values

A value keeps what a reader of it may have to tell apart: a number is kept as it was written, be it
too large or not, and a string as the glyphs it was written with, some of which are not characters
of a text.
-/

namespace PulseJoin.Text.Json

inductive Glyph where
  | char (c : Char)
  /-- A control character that stands in the string as it is, which a text may not contain. -/
  | bare (c : Char)
  /-- One half of a surrogate pair without the other. -/
  | half (unit : Nat)
  deriving DecidableEq, Repr

inductive Value where
  | null
  | bool (b : Bool)
  /-- A number as it was written. -/
  | number (written : List Char)
  /-- A number that is too large, and how many characters of the text are left where this shows. -/
  | excess (written : List Char) (left : Nat)
  | string (glyphs : List Glyph)
  | array (items : List Value)
  | object (members : List (List Glyph × Value))

def glyphs (text : String) : List Glyph := text.toList.map .char

def Glyph.char? : Glyph → Option Char
  | .char c => some c
  | _ => none

/-- Whether the glyph may stand in a string that nobody looks at. -/
def Glyph.ignorable : Glyph → Bool
  | .bare _ => false
  | _ => true

def text? (gs : List Glyph) : Option String := (gs.mapM Glyph.char?).map String.ofList

theorem text?_glyphs (s : String) : text? (glyphs s) = some s := by
  have : ∀ cs : List Char, (cs.map Glyph.char).mapM Glyph.char? = some cs := by
    intro cs
    induction cs with
    | nil => rfl
    | cons c cs ih => simp [List.mapM_cons, Glyph.char?, ih]
  simp [text?, glyphs, this]

/-- The bytes of a code point below `0x110000`, also of one that is no character. -/
def codePointBytes (n : Nat) : List UInt8 :=
  (if n < 0x80 then [n]
  else if n < 0x800 then [0xC0 + n / 64, 0x80 + n % 64]
  else if n < 0x10000 then [0xE0 + n / 4096, 0x80 + n / 64 % 64, 0x80 + n % 64]
  else [0xF0 + n / 262144, 0x80 + n / 4096 % 64, 0x80 + n / 64 % 64, 0x80 + n % 64]).map .ofNat

/-- The bytes a string stands for where bytes are asked for; anything goes. -/
def Glyph.bytes : Glyph → List UInt8
  | .char c | .bare c => codePointBytes c.toNat
  | .half unit => codePointBytes unit

namespace Value

def text (s : String) : Value := .string (glyphs s)

def int (n : Int) : Value := .number (Numeral.intChars n)

def record (fields : List (String × Value)) : Value :=
  .object (fields.map fun f => (glyphs f.1, f.2))

def text? : Value → Option String
  | .string gs => Json.text? gs
  | _ => none

def bool? : Value → Option Bool
  | .bool b => some b
  | _ => none

/--
The integer of a number that is written as one.  A number with a fraction or an exponent is none,
nor is the negative zero, which integers do not have.
-/
def int? : Value → Option Int
  | .number ('-' :: ds) =>
    match Numeral.digits? ds with
    | some (n + 1) => some (Int.negSucc n)
    | _ => none
  | .number ds => (Numeral.digits? ds).map Int.ofNat
  | _ => none

end Value

mutual

def Value.depth : Value → Nat
  | .array items => depthOfItems items + 1
  | .object members => depthOfMembers members + 1
  | _ => 0

def depthOfItems : List Value → Nat
  | [] => 0
  | v :: vs => max v.depth (depthOfItems vs)

def depthOfMembers : List (List Glyph × Value) → Nat
  | [] => 0
  | (_, v) :: ms => max v.depth (depthOfMembers ms)

end

mutual

/--
Whether a test of strings, also of those that name members, holds inside, where numbers may be too
large or not.
-/
def Value.all (string : List Glyph → Bool) (large : Bool) : Value → Bool
  | .null | .bool _ | .number _ => true
  | .excess .. => large
  | .string gs => string gs
  | .array items => allItems string large items
  | .object members => allMembers string large members

def allItems (string : List Glyph → Bool) (large : Bool) : List Value → Bool
  | [] => true
  | v :: vs => v.all string large && allItems string large vs

def allMembers (string : List Glyph → Bool) (large : Bool) : List (List Glyph × Value) → Bool
  | [] => true
  | (k, v) :: ms => string k && v.all string large && allMembers string large ms

end

/-- Whether the value may stand where nobody looks at it. -/
def Value.ignorable (v : Value) : Bool := v.all (·.all Glyph.ignorable) true

end PulseJoin.Text.Json
