import PulseJoin.Text.Hexadecimal
import PulseJoin.Text.Numeral
import PulseJoin.Text.Toml

/-!
# Writing TOML

A string is written in the first of four styles that can hold it without an escape, tabs apart:
double quotes, single quotes, and either of them for many lines.  If none can, it is written in
double quotes with escapes.
-/

namespace PulseJoin.Text.Toml

structure Traits where
  /-- Whether there is a control character other than a tab and a line end. -/
  controls : Bool
  newlines : Bool
  backslashes : Bool
  doubles : Nat
  singles : Nat
  deriving DecidableEq, Repr

/-- The length of the longest run of a character, where `current` of them stand in front. -/
def longestRun (quote : Char) (current : Nat) : List Char → Nat
  | [] => current
  | c :: cs =>
    if c = quote then longestRun quote (current + 1) cs
    else max current (longestRun quote 0 cs)

def isControl (c : Char) : Bool := c < ' ' || c == '\x7f'

def Traits.of (cs : List Char) : Traits where
  controls := cs.any fun c => isControl c && c != '\t' && c != '\n'
  newlines := cs.any (· == '\n')
  backslashes := cs.any (· == '\\')
  doubles := longestRun '"' 0 cs
  singles := longestRun '\'' 0 cs

inductive Style where
  | double | single | doubleLines | singleLines
  deriving DecidableEq, Repr

def Traits.style (t : Traits) : Style :=
  if !t.controls && !t.newlines && !t.backslashes && t.doubles = 0 then .double
  else if !t.controls && !t.newlines && t.singles = 0 then .single
  else if !t.controls && !t.backslashes && t.doubles ≤ 2 then .doubleLines
  else if !t.controls && t.singles ≤ 2 then .singleLines
  else if t.newlines then .doubleLines
  else .double

def Style.quotes : Style → List Char
  | .double => ['"']
  | .single => ['\'']
  | .doubleLines => ['"', '"', '"']
  | .singleLines => ['\'', '\'', '\'']

def charChars (multi : Bool) (c : Char) : List Char :=
  if c = '\x08' then ['\\', 'b']
  else if c = '\t' then ['\\', 't']
  else if c = '\n' then if multi then ['\n'] else ['\\', 'n']
  else if c = '\x0c' then ['\\', 'f']
  else if c = '\r' then ['\\', 'r']
  else if c = '\\' then ['\\', '\\']
  else if isControl c then '\\' :: 'u' :: (Hexadecimal.chars 4 c.toNat).map Char.toUpper
  else [c]

/--
The characters of a string in double quotes.  In a string of many lines two quotes in a row stand as
they are, and the third is escaped; `run` counts those just before.
-/
def escapedChars (multi : Bool) (run : Nat) : List Char → List Char
  | [] => []
  | c :: cs =>
    if c = '"' then
      if multi && run < 2 then c :: escapedChars multi (run + 1) cs
      else '\\' :: c :: escapedChars multi 0 cs
    else charChars multi c ++ escapedChars multi 0 cs

/-- What stands between the quotes; a string of many lines begins on a line of its own. -/
def Style.bodyChars (style : Style) (cs : List Char) : List Char :=
  let firstLine := if cs.any (· == '\n') then ['\n'] else []
  match style with
  | .double => escapedChars false 0 cs
  | .single => cs
  | .doubleLines => firstLine ++ escapedChars true 0 cs
  | .singleLines => firstLine ++ cs

def textChars (s : String) : List Char :=
  let style := (Traits.of s.toList).style
  style.quotes ++ style.bodyChars s.toList ++ style.quotes

def nameChars (name : String) : List Char :=
  if name.toList.all isBare && !name.isEmpty then name.toList else textChars name

def Key.chars (k : Key) : List Char :=
  k.path.flatMap (fun name => nameChars name ++ ['.']) ++ nameChars k.name

mutual

def Value.chars : Value → List Char
  | .text s => textChars s
  | .integer n => Numeral.intChars n
  | .real written | .moment written => written
  | .excess e => e.written
  | .boolean b => (if b then "true" else "false").toList
  | .array items => '[' :: itemsChars items ++ [']']
  | .table entries => '\x7b' :: entriesChars entries ++ ['\x7d']

def itemsChars : List Value → List Char
  | [] => []
  | [v] => v.chars
  | v :: vs => v.chars ++ ',' :: ' ' :: itemsChars vs

def entriesChars : List (String × Value) → List Char
  | [] => []
  | [(name, v)] => ' ' :: nameChars name ++ [' ', '=', ' '] ++ v.chars ++ [' ']
  | (name, v) :: es =>
    ' ' :: nameChars name ++ [' ', '=', ' '] ++ v.chars ++ ',' :: entriesChars es

end

def Setting.chars (s : Setting) : List Char :=
  s.key.chars ++ [' ', '=', ' '] ++ s.value.chars ++ ['\n']

def Header.chars (h : Header) : List Char :=
  if h.repeated then '[' :: '[' :: h.key.chars ++ [']', ']', '\n']
  else '[' :: h.key.chars ++ [']', '\n']

def Section.chars (s : Section) : List Char :=
  '\n' :: s.header.chars ++ s.settings.flatMap Setting.chars

def Document.chars (d : Document) : List Char :=
  d.settings.flatMap Setting.chars ++ d.sections.flatMap Section.chars

end PulseJoin.Text.Toml
