import PulseJoin.Text.Hexadecimal
import PulseJoin.Text.Json

/-!
# Writing JSON

A value is written either on one line, without blanks, or with every member on a line of its own.
-/

namespace PulseJoin.Text.Json

inductive Layout where
  | oneLine
  /-- Items stand on lines of their own, `depth` steps from the margin. -/
  | indented (depth : Nat)
  deriving DecidableEq, Repr

def Layout.newline : Layout → List Char
  | .oneLine => []
  | .indented depth => '\n' :: List.replicate (2 * depth) ' '

def Layout.deeper : Layout → Layout
  | .oneLine => .oneLine
  | .indented depth => .indented (depth + 1)

def Layout.colon : Layout → List Char
  | .oneLine => [':']
  | .indented _ => [':', ' ']

/--
A character inside a string.  A quote, a backslash and the control characters are escaped, the
usual ones by a letter.
-/
def charChars (c : Char) : List Char :=
  if c = '"' ∨ c = '\\' then ['\\', c]
  else if c = '\x08' then ['\\', 'b']
  else if c = '\t' then ['\\', 't']
  else if c = '\n' then ['\\', 'n']
  else if c = '\x0c' then ['\\', 'f']
  else if c = '\r' then ['\\', 'r']
  else if c.toNat < 0x20 then '\\' :: 'u' :: Hexadecimal.chars 4 c.toNat
  else [c]

def Glyph.chars : Glyph → List Char
  | .char c | .bare c => charChars c
  | .half unit => '\\' :: 'u' :: Hexadecimal.chars 4 unit

def stringChars (gs : List Glyph) : List Char := '"' :: gs.flatMap Glyph.chars ++ ['"']

mutual

/-- A value; the layout is that of the line it begins on. -/
def Value.chars (l : Layout) : Value → List Char
  | .null => "null".toList
  | .bool b => (if b then "true" else "false").toList
  | .number cs | .excess cs _ => cs
  | .string gs => stringChars gs
  | .array [] => ['[', ']']
  | .array (v :: vs) => '[' :: l.deeper.newline ++ v.chars l.deeper ++ restOfItems l vs
  | .object [] => ['\x7b', '\x7d']
  | .object ((k, v) :: ms) =>
    '\x7b' :: l.deeper.newline ++ stringChars k ++ l.colon ++ v.chars l.deeper ++ restOfMembers l ms

def restOfItems (l : Layout) : List Value → List Char
  | [] => l.newline ++ [']']
  | v :: vs => ',' :: l.deeper.newline ++ v.chars l.deeper ++ restOfItems l vs

def restOfMembers (l : Layout) : List (List Glyph × Value) → List Char
  | [] => l.newline ++ ['\x7d']
  | (k, v) :: ms =>
    ',' :: l.deeper.newline ++ stringChars k ++ l.colon ++ v.chars l.deeper ++ restOfMembers l ms

end

def Value.compact (v : Value) : String := .ofList (v.chars .oneLine)

def Value.pretty (v : Value) : String := .ofList (v.chars (.indented 0))

end PulseJoin.Text.Json
