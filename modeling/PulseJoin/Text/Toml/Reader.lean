import PulseJoin.Text.Hexadecimal
import PulseJoin.Text.Toml.Scalar
import PulseJoin.Text.Toml.Table

/-!
# Reading TOML

`Document.read?` reads the settings and sections of a text, `read?` the table they stand for.  Each
reading function takes the characters that are left and gives back what it read and the rest.
-/

namespace PulseJoin.Text.Toml

/-! ## Blanks, lines and comments -/

def isBlank (c : Char) : Bool := c == ' ' || c == '\t'

def skipBlanks (cs : List Char) : List Char := cs.dropWhile isBlank

def isPlain (c : Char) : Bool := c == '\t' || (' ' ≤ c && c != '\x7f')

mutual

def skipGap? : List Char → Option (List Char)
  | [] => some []
  | ' ' :: rest | '\t' :: rest | '\n' :: rest | '\r' :: '\n' :: rest => skipGap? rest
  | '#' :: rest => skipComment? rest
  | cs => some cs

def skipComment? : List Char → Option (List Char)
  | [] => some []
  | '\n' :: rest | '\r' :: '\n' :: rest => skipGap? rest
  | c :: rest => if isPlain c then skipComment? rest else none

end

/-- Leaves out what is left of a line and the gap behind it; only a comment may be left. -/
def endLine? (cs : List Char) : Option (List Char) :=
  match skipBlanks cs with
  | [] => some []
  | '\n' :: rest | '\r' :: '\n' :: rest => skipGap? rest
  | '#' :: rest => skipComment? rest
  | _ => none

/-! ## Strings -/

inductive Piece where
  | plain (c : Char)
  | escaped (c : Char)
  | fold
  deriving DecidableEq, Repr

def escaped? : Char → Option Char
  | 'b' => some '\x08'
  | 't' => some '\t'
  | 'n' => some '\n'
  | 'f' => some '\x0c'
  | 'r' => some '\r'
  | 'e' => some '\x1b'
  | '"' => some '"'
  | '\\' => some '\\'
  | _ => none

def codeChar? (digits : List Char) : Option Char := do
  let n ← Hexadecimal.value? digits
  if n.isValidChar then some (Char.ofNat n) else none

def andThen {α : Type} (a : α) (r : Option (List α × List Char)) : Option (List α × List Char) :=
  r.map fun (as, rest) => (a :: as, rest)

/-- Whether the quotes at the front close a string of many lines, and how many of them it keeps. -/
def closing? (quote : Char) : List Char → Option (Nat × List Char)
  | a :: b :: c :: rest =>
    if a = quote ∧ b = quote ∧ c = quote then
      match rest with
      | d :: e :: rest' =>
        if d = quote then if e = quote then some (2, rest') else some (1, e :: rest')
        else some (0, rest)
      | [d] => if d = quote then some (1, []) else some (0, rest)
      | [] => some (0, [])
    else none
  | _ => none

def pieces? (multi : Bool) : List Char → Option (List Piece × List Char)
  | [] => none
  | '\\' :: 'x' :: a :: b :: rest => do
    andThen (.escaped (← codeChar? [a, b])) (pieces? multi rest)
  | '\\' :: 'u' :: a :: b :: c :: d :: rest => do
    andThen (.escaped (← codeChar? [a, b, c, d])) (pieces? multi rest)
  | '\\' :: 'U' :: a :: b :: c :: d :: e :: f :: g :: h :: rest => do
    andThen (.escaped (← codeChar? [a, b, c, d, e, f, g, h])) (pieces? multi rest)
  | '\\' :: c :: rest =>
    match escaped? c with
    | some c => andThen (.escaped c) (pieces? multi rest)
    | none =>
      if multi && (isBlank c || c == '\n' || c == '\r') then
        if c == '\r' && rest.head? != some '\n' then none
        else andThen .fold (andThen (.plain c) (pieces? multi rest))
      else none
  | '\r' :: '\n' :: rest =>
    if multi then andThen (.plain '\r') (andThen (.plain '\n') (pieces? multi rest)) else none
  | c :: rest =>
    if c = '"' then
      if multi then
        match closing? '"' (c :: rest) with
        | some (kept, rest) => some (List.replicate kept (.plain '"'), rest)
        | none => andThen (.plain c) (pieces? multi rest)
      else some ([], rest)
    else if c = '\\' then none
    else if isPlain c || (multi && c == '\n') then andThen (.plain c) (pieces? multi rest)
    else none

inductive Folding where
  | none
  /-- Behind the backslash, before the end of its line. -/
  | pending
  /-- Behind the end of the line. -/
  | trimming
  deriving DecidableEq, Repr

/-- The text of pieces: a fold leaves out all blanks and line ends up to the next character. -/
def joinLines? : Folding → List Piece → Option (List Char)
  | f, [] => if f = .pending then none else some []
  | f, .plain c :: rest =>
    if isBlank c || c == '\n' || c == '\r' then
      match f with
      | .none => (joinLines? .none rest).map (c :: ·)
      | .pending => joinLines? (if c = '\n' then .trimming else .pending) rest
      | .trimming => joinLines? .trimming rest
    else if f = .pending then none
    else (joinLines? .none rest).map (c :: ·)
  | f, .escaped c :: rest => if f = .pending then none else (joinLines? .none rest).map (c :: ·)
  | f, .fold :: rest => if f = .pending then none else joinLines? .pending rest

def quoted? (multi : Bool) (cs : List Char) : Option (String × List Char) := do
  let (pieces, rest) ← pieces? multi cs
  return (.ofList (← joinLines? .none pieces), rest)

def literalChars? (multi : Bool) : List Char → Option (List Char × List Char)
  | [] => none
  | '\r' :: '\n' :: rest =>
    if multi then andThen '\r' (andThen '\n' (literalChars? multi rest)) else none
  | c :: rest =>
    if c = '\'' then
      if multi then
        match closing? '\'' (c :: rest) with
        | some (kept, rest) => some (List.replicate kept '\'', rest)
        | none => andThen c (literalChars? multi rest)
      else some ([], rest)
    else if isPlain c || (multi && c == '\n') then andThen c (literalChars? multi rest)
    else none

def literal? (multi : Bool) (cs : List Char) : Option (String × List Char) := do
  let (s, rest) ← literalChars? multi cs
  return (.ofList s, rest)

def skipNewline : List Char → List Char
  | '\n' :: rest | '\r' :: '\n' :: rest => rest
  | cs => cs

/-! ## Keys -/

def name? : List Char → Option (String × List Char)
  | '"' :: rest => quoted? false rest
  | '\'' :: rest => literal? false rest
  | cs =>
    match cs.takeWhile isBare with
    | [] => none
    | bare => some (.ofList bare, cs.dropWhile isBare)

/-- Reads names with points between them; each name takes fuel. -/
def names? : Nat → List Char → Option (List String × List Char)
  | 0, _ => none
  | fuel + 1, cs => do
    let (name, cs) ← name? (skipBlanks cs)
    match skipBlanks cs with
    | '.' :: rest => andThen name (names? fuel rest)
    | rest => some ([name], rest)

/-- The greatest number of tables that a key may lead through, and of values inside each other. -/
def depthLimit : Nat := 80

def key? (cs : List Char) : Option (Key × List Char) := do
  let (names, rest) ← names? depthLimit cs
  return (⟨names.dropLast, ← names.getLast?⟩, rest)

/-! ## Values -/

def endsScalar (c : Char) : Bool := c ∈ [' ', '\t', '\n', '\r', ',', ']', '\x7d', '#']

/-- Reads an unquoted value; a blank may stand between a date and a time. -/
def scalar? (cs : List Char) : Option (Value × List Char) := do
  let word := cs.takeWhile (!endsScalar ·)
  let rest := cs.dropWhile (!endsScalar ·)
  match date? word, rest with
  | some [], ' ' :: c :: more =>
    if c.isDigit then
      let time := (c :: more).takeWhile (!endsScalar ·)
      let rest := (c :: more).dropWhile (!endsScalar ·)
      return (← Value.ofScalar? (word ++ ' ' :: time) rest, rest)
    else return (← Value.ofScalar? word rest, rest)
  | _, _ => return (← Value.ofScalar? word rest, rest)

def asText (r : Option (String × List Char)) : Option (Value × List Char) :=
  r.map fun (s, rest) => (.text s, rest)

mutual

/--
Reads a value.  Each step into a value or past a comma takes fuel, and values stand inside each
other at most `depth` times.
-/
def value? : Nat → Nat → List Char → Option (Value × List Char)
  | 0, _, _ => none
  | fuel + 1, depth, cs =>
    match cs, depth with
    | '"' :: '"' :: '"' :: rest, _ => asText (quoted? true (skipNewline rest))
    | '"' :: rest, _ => asText (quoted? false rest)
    | '\'' :: '\'' :: '\'' :: rest, _ => asText (literal? true (skipNewline rest))
    | '\'' :: rest, _ => asText (literal? false rest)
    | '[' :: rest, depth + 1 => do
      let (items, rest) ← items? fuel depth rest
      return (.array items, rest)
    | '\x7b' :: rest, depth + 1 => do
      let (settings, rest) ← inline? fuel depth rest
      return (← inlineTable? settings, rest)
    | cs, _ => scalar? cs

def items? : Nat → Nat → List Char → Option (List Value × List Char)
  | 0, _, _ => none
  | fuel + 1, depth, cs => do
    match ← skipGap? cs with
    | ']' :: rest => some ([], rest)
    | cs => do
      let (v, cs) ← value? fuel depth cs
      match ← skipGap? cs with
      | ',' :: rest => andThen v (items? fuel depth rest)
      | ']' :: rest => some ([v], rest)
      | _ => none

/-- Reads the settings of a table between braces up to its end; lines may end between all parts. -/
def inline? : Nat → Nat → List Char → Option (List Setting × List Char)
  | 0, _, _ => none
  | fuel + 1, depth, cs => do
    match ← skipGap? cs with
    | '\x7d' :: rest => some ([], rest)
    | cs => do
      let (key, cs) ← key? cs
      match ← skipGap? cs with
      | '=' :: rest => do
        let (v, cs) ← value? fuel depth (← skipGap? rest)
        match ← skipGap? cs with
        | ',' :: rest => andThen ⟨key, v⟩ (inline? fuel depth rest)
        | '\x7d' :: rest => some ([⟨key, v⟩], rest)
        | _ => none
      | _ => none

end

/-! ## Documents -/

inductive Statement where
  | setting (s : Setting)
  | header (h : Header)

def setting? (cs : List Char) : Option (Statement × List Char) := do
  let (key, cs) ← key? cs
  match cs with
  | '=' :: rest => do
    let (v, rest) ← value? (2 * rest.length + 2) depthLimit (skipBlanks rest)
    return (.setting ⟨key, v⟩, rest)
  | _ => none

def statement? : List Char → Option (Statement × List Char)
  | '[' :: '[' :: rest => do
    match ← key? rest with
    | (key, ']' :: ']' :: rest) => some (.header ⟨key, true⟩, rest)
    | _ => none
  | '[' :: rest => do
    match ← key? rest with
    | (key, ']' :: rest) => some (.header ⟨key, false⟩, rest)
    | _ => none
  | cs => setting? cs

/-- Reads statements, each on a line of its own, to the end; each takes fuel. -/
def statements? : Nat → List Char → Option (List Statement)
  | _, [] => some []
  | 0, _ => none
  | fuel + 1, cs => do
    let (s, cs) ← statement? cs
    return s :: (← statements? fuel (← endLine? cs))

def Document.ofStatements : List Statement → Document
  | [] => ⟨[], []⟩
  | .setting s :: rest =>
    let d := ofStatements rest
    { d with settings := s :: d.settings }
  | .header h :: rest =>
    let d := ofStatements rest
    ⟨[], ⟨h, d.settings⟩ :: d.sections⟩

def skipMark : List Char → List Char
  | '\ufeff' :: rest => rest
  | cs => cs

def Document.read? (text : String) : Option Document := do
  let cs ← skipGap? (skipMark text.toList)
  return ofStatements (← statements? (cs.length + 1) cs)

def read? (text : String) : Option Value := (Document.read? text).bind Document.toValue?

end PulseJoin.Text.Toml
