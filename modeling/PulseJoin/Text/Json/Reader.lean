import PulseJoin.Text.Hexadecimal
import PulseJoin.Text.Json
import PulseJoin.Text.Json.Range

/-!
# Reading JSON

`read?` accepts a text that holds one value and blanks around it; `readable` takes any text, as far
as it goes.  Each reading function takes the characters that are left and gives back what it read
and the rest.
-/

namespace PulseJoin.Text.Json

def isBlank (c : Char) : Bool := c == ' ' || c == '\t' || c == '\n' || c == '\r'

def skipBlanks (cs : List Char) : List Char := cs.dropWhile isBlank

/-! ## Strings -/

def escaped? : Char → Option Char
  | '"' => some '"'
  | '\\' => some '\\'
  | '/' => some '/'
  | 'b' => some '\x08'
  | 'f' => some '\x0c'
  | 'n' => some '\n'
  | 'r' => some '\r'
  | 't' => some '\t'
  | _ => none

/-- Whether a number is one half of a surrogate pair. -/
def isHalf (n : Nat) : Bool := 0xD800 ≤ n && n < 0xE000

def codeGlyph (n : Nat) : Glyph := if isHalf n then .half n else .char (Char.ofNat n)

def plainGlyph (c : Char) : Glyph := if c.toNat < 0x20 then .bare c else .char c

/-- Reads glyphs up to the closing quote; the halves of a surrogate pair are still apart. -/
def glyphs? : List Char → Option (List Glyph × List Char)
  | [] => none
  | '"' :: rest => some ([], rest)
  | '\\' :: 'u' :: a :: b :: c :: d :: rest => do
    let n ← Hexadecimal.value? [a, b, c, d]
    let (gs, rest) ← glyphs? rest
    return (codeGlyph n :: gs, rest)
  | '\\' :: e :: rest => do
    let c ← escaped? e
    let (gs, rest) ← glyphs? rest
    return (.char c :: gs, rest)
  | c :: rest => do
    if c = '\\' then none
    let (gs, rest) ← glyphs? rest
    return (plainGlyph c :: gs, rest)

def pairChar (high low : Nat) : Char :=
  Char.ofNat (0x10000 + (high - 0xD800) * 0x400 + (low - 0xDC00))

/-- Joins the halves that stand next to each other, the high one first. -/
def joinHalves : List Glyph → List Glyph
  | .half high :: .half low :: rest =>
    if high < 0xDC00 ∧ 0xDC00 ≤ low then .char (pairChar high low) :: joinHalves rest
    else .half high :: joinHalves (.half low :: rest)
  | g :: rest => g :: joinHalves rest
  | [] => []

def string? (cs : List Char) : Option (List Glyph × List Char) := do
  let (gs, rest) ← glyphs? cs
  return (joinHalves gs, rest)

/-! ## Numbers -/

def spanDigits (cs : List Char) : List Char × List Char :=
  (cs.takeWhile Char.isDigit, cs.dropWhile Char.isDigit)

/-- Reads the digits before the point; a zero stands alone. -/
def whole? : List Char → Option (List Char × List Char)
  | '0' :: rest => some (['0'], rest)
  | cs =>
    match spanDigits cs with
    | ([], _) => none
    | (ds, rest) => some (ds, rest)

def fraction? : List Char → Option (List Char × List Char)
  | '.' :: rest =>
    match spanDigits rest with
    | ([], _) => none
    | (ds, rest) => some ('.' :: ds, rest)
  | cs => some ([], cs)

def spanSign : List Char → List Char × List Char
  | '+' :: rest => (['+'], rest)
  | '-' :: rest => (['-'], rest)
  | cs => ([], cs)

def exponent? : List Char → Option (List Char × List Char)
  | [] => some ([], [])
  | c :: rest =>
    if isMark c then
      match spanDigits (spanSign rest).2 with
      | ([], _) => none
      | (ds, rest') => some (c :: (spanSign rest).1 ++ ds, rest')
    else some ([], c :: rest)

def magnitude? (cs : List Char) : Option (List Char × List Char) := do
  let (whole, cs) ← whole? cs
  let (fraction, cs) ← fraction? cs
  let (exponent, cs) ← exponent? cs
  return (whole ++ fraction ++ exponent, cs)

def written? : List Char → Option (List Char × List Char)
  | '-' :: cs => do
    let (written, rest) ← magnitude? cs
    return ('-' :: written, rest)
  | cs => magnitude? cs

def number? (cs : List Char) : Option (Value × List Char) := do
  let (written, rest) ← written? cs
  return (if isInRange written then .number written
    else .excess written (rest.length + (unreadExponent written).length), rest)

/-! ## Values

A value is read as far as the text goes.  Where it breaks off nothing is left to be read, and what
stands there instead of a value counts as null.
-/

def scalar? : List Char → Option (Value × List Char)
  | 'n' :: 'u' :: 'l' :: 'l' :: rest => some (.null, rest)
  | 't' :: 'r' :: 'u' :: 'e' :: rest => some (.bool true, rest)
  | 'f' :: 'a' :: 'l' :: 's' :: 'e' :: rest => some (.bool false, rest)
  | '"' :: rest => do
    let (gs, rest) ← string? rest
    return (.string gs, rest)
  | cs => number? cs

def expect? (c : Char) (cs : List Char) : Option (List Char) :=
  match skipBlanks cs with
  | d :: rest => if d = c then some rest else none
  | [] => none

def name? (cs : List Char) : Option (List Glyph × List Char) := do
  let (name, cs) ← string? (← expect? '"' cs)
  return (name, ← expect? ':' cs)

mutual

/-- Reads a value behind blanks; each step into a value or past a comma takes fuel. -/
def spanValue : Nat → List Char → Value × Option (List Char)
  | 0, _ => (.null, none)
  | fuel + 1, cs =>
    match skipBlanks cs with
    | '[' :: rest =>
      match expect? ']' rest with
      | some rest => (.array [], some rest)
      | none =>
        let (items, rest?) := spanItems fuel rest
        (.array items, rest?)
    | '\x7b' :: rest =>
      match expect? '\x7d' rest with
      | some rest => (.object [], some rest)
      | none =>
        let (members, rest?) := spanMembers fuel rest
        (.object members, rest?)
    | cs =>
      match scalar? cs with
      | some (v, rest) => (v, some rest)
      | none => (.null, none)

def spanItems : Nat → List Char → List Value × Option (List Char)
  | 0, _ => ([], none)
  | fuel + 1, cs =>
    match spanValue fuel cs with
    | (v, none) => ([v], none)
    | (v, some cs) =>
      match skipBlanks cs with
      | ']' :: rest => ([v], some rest)
      | ',' :: rest =>
        let (vs, rest?) := spanItems fuel rest
        (v :: vs, rest?)
      | _ => ([v], none)

def spanMembers : Nat → List Char → List (List Glyph × Value) × Option (List Char)
  | 0, _ => ([], none)
  | fuel + 1, cs =>
    match name? cs with
    | none => ([], none)
    | some (k, cs) =>
      match spanValue fuel cs with
      | (v, none) => ([(k, v)], none)
      | (v, some cs) =>
        match skipBlanks cs with
        | '\x7d' :: rest => ([(k, v)], some rest)
        | ',' :: rest =>
          let (ms, rest?) := spanMembers fuel rest
          ((k, v) :: ms, rest?)
        | _ => ([(k, v)], none)

end

/-- Reads the value at the front of a text.  None takes more steps than two for each character. -/
def spanText (text : String) : Value × Option (List Char) :=
  spanValue (2 * text.toList.length + 2) text.toList

def read? (text : String) : Option Value :=
  match spanText text with
  | (v, some rest) => if (skipBlanks rest).isEmpty then some v else none
  | (_, none) => none

def readable (text : String) : Value := (spanText text).1

end PulseJoin.Text.Json
