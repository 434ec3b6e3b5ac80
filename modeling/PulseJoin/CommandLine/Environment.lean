import PulseJoin.FileTree
import PulseJoin.Text.Alphanumeric

/-!
# Environment files

A file of settings for the environment holds one `name=value` a line.  Values may be quoted, over
several lines if need be, and may refer to other variables.  The settings before the first line that
cannot be read are kept; a variable that is set already is not changed.
-/

namespace PulseJoin.CommandLine.Environment

abbrev Variables := List (String × String)

/--
What stands behind a name and an equals sign.  A variable and its value are one text with an equals
sign between them, so a name may go on into the value; the first text that fits counts.
-/
def value? (vars : Variables) (name : String) : Option String :=
  if name.isEmpty then none
  else vars.findSome? fun (n, v) =>
    ((name ++ "=").toList.isPrefixOf? (n ++ "=" ++ v).toList).map String.ofList

def isBlank (c : Char) : Bool :=
  let n := c.toNat
  (0x09 ≤ n && n ≤ 0x0D) || (0x2000 ≤ n && n ≤ 0x200A) ||
    n ∈ [0x20, 0x85, 0xA0, 0x1680, 0x2028, 0x2029, 0x202F, 0x205F, 0x3000]

/-! ## Lines -/

/-- Where in a line the search for its end stands. -/
inductive Position where
  | plain
  | blank
  | escaped
  | weak
  | weakEscaped
  | strong
  | strongEscaped
  | comment
  deriving DecidableEq, Repr

/-- The position behind a character; blanks matter because only behind one a comment begins. -/
def Position.next (c : Char) : Position → Position
  | .plain | .blank =>
    if c = '\\' then .escaped
    else if c = '"' then .weak
    else if c = '\'' then .strong
    else .plain
  | .escaped => .plain
  | .weak => if c = '\\' then .weakEscaped else if c = '"' then .plain else .weak
  | .weakEscaped => .weak
  | .strong => if c = '\\' then .strongEscaped else if c = '\'' then .plain else .strong
  | .strongEscaped => .strong
  | .comment => .comment

def Position.after (c : Char) (p : Position) : Position :=
  if p = .plain ∧ isBlank c ∧ c ≠ '\n' ∧ c ≠ '\r' then .blank
  else if p = .blank ∧ c = '#' then .comment
  else p.next c

def walk : Position → List Char → List Char × Position
  | p, [] => ([], p)
  | p, c :: cs =>
    match p.after c with
    | .comment => ([], .comment)
    | p =>
      let (before, last) := walk p cs
      (c :: before, last)

def dropLineEnd (cs : List Char) : List Char :=
  match cs.reverse with
  | '\n' :: '\r' :: rest | '\n' :: rest => rest.reverse
  | _ => cs

def physicalLines : List Char → List (List Char)
  | [] => []
  | c :: cs =>
    match c, physicalLines cs with
    | '\n', lines => ['\n'] :: lines
    | c, [] => [[c]]
    | c, line :: lines => (c :: line) :: lines

def isComment (cs : List Char) : Bool := (cs.dropWhile isBlank).head? == some '#'

/--
Joins lines as long as a quote or an escape is open, or blanks stand at the end; `none` stands for a
text that ends there.
-/
def logicalLines : List Char → Position → List (List Char) → List (Option (List Char))
  | _, p, [] => if p = .plain then [] else [none]
  | started, p, line :: lines =>
    if isComment (started ++ line) then some [] :: logicalLines [] .plain lines
    else
      let (before, last) := walk p line
      match last with
      | .plain => some (dropLineEnd (started ++ line)) :: logicalLines [] .plain lines
      | .comment => some (started ++ before) :: logicalLines [] .plain lines
      | last => logicalLines (started ++ line) last lines

/-! ## Values -/

inductive Reference where
  | none
  /-- Behind the dollar sign, with the name so far. -/
  | bare (name : List Char)
  /-- Behind an opening brace, with the name so far. -/
  | braced (name : List Char)
  deriving DecidableEq, Repr

inductive Quoting where
  | none
  | weak
  | strong
  deriving DecidableEq, Repr

structure Reading where
  quoting : Quoting := .none
  escaped : Bool := false
  /-- Whether only blanks and a comment may follow. -/
  ended : Bool := false
  reference : Reference := .none
  output : List Char := []

def unescape? (c : Char) : Option Char :=
  if c ∈ ['\\', '\'', '"', '$', ' '] then some c
  else if c = 'n' then some '\n'
  else none

def valueOf (vars : Variables) (name : List Char) : List Char :=
  ((value? vars (.ofList name)).getD "").toList

namespace Reading

def push (r : Reading) (c : Char) : Reading := { r with output := r.output ++ [c] }

def substitute (vars : Variables) (r : Reading) (name : List Char) : Reading :=
  { r with output := r.output ++ valueOf vars name, reference := .none }

def plain (r : Reading) (c : Char) : Reading :=
  if c = '$' then { r with reference := .bare [] }
  else if r.quoting = .weak then
    if c = '"' then { r with quoting := .none }
    else if c = '\\' then { r with escaped := true }
    else r.push c
  else if c = '\'' then { r with quoting := .strong }
  else if c = '"' then { r with quoting := .weak }
  else if c = '\\' then { r with escaped := true }
  else if c = ' ' ∨ c = '\t' then { r with ended := true }
  else r.push c

def refer (vars : Variables) (r : Reading) (c : Char) : Reading :=
  match r.reference with
  | .none => r.plain c
  | .bare name =>
    if Text.isAlphanumeric c then { r with reference := .bare (name ++ [c]) }
    else if c = '\x7b' ∧ name = [] then { r with reference := .braced [] }
    else
      let r := r.substitute vars name
      if c = '$' then { r with reference := .bare [] } else r.push c
  | .braced name =>
    if c = '\x7d' then r.substitute vars name
    else { r with reference := .braced (name ++ [c]) }

end Reading

def read? (vars : Variables) : Reading → List Char → Option (List Char)
  | r, [] =>
    match r.reference, r.quoting with
    | .none, .none => some r.output
    | .bare name, .none => some (r.substitute vars name).output
    | _, _ => none
  | r, c :: cs =>
    if r.ended then
      if c = ' ' ∨ c = '\t' then read? vars r cs
      else if c = '#' then read? vars r []
      else none
    else if r.escaped then
      (unescape? c).bind fun d => read? vars ({ r with escaped := false }.push d) cs
    else if r.quoting = .strong then
      read? vars (if c = '\'' then { r with quoting := .none } else r.push c) cs
    else read? vars (r.refer vars c) cs

/-! ## Settings -/

def skipBlanks (cs : List Char) : List Char := cs.dropWhile isBlank

def name? (cs : List Char) : Option (String × List Char) :=
  let isRest := fun c : Char => c.isAlphanum || c == '_' || c == '.'
  match cs with
  | c :: _ =>
    if c.isAlpha || c == '_' then
      some (.ofList (cs.takeWhile isRest), skipBlanks (cs.dropWhile isRest))
    else none
  | [] => none

def assigned? : List Char → Option (List Char)
  | '=' :: cs => some (skipBlanks cs)
  | _ => none

/-- The name of a setting and what stands behind its equals sign; `export` may stand before it. -/
def setting? (cs : List Char) : Option (String × List Char) := do
  let (name, rest) ← name? cs
  match assigned? rest with
  | some value => some (name, value)
  | none =>
    if name = "export" then do
      let (name, rest) ← name? rest
      return (name, ← assigned? rest)
    else none

def line? (vars : Variables) (cs : List Char) : Option (Option (String × String)) := do
  match skipBlanks (cs.reverse.dropWhile isBlank).reverse with
  | [] => some none
  | '#' :: _ => some none
  | cs => do
    let (name, value) ← setting? cs
    match value with
    | [] | '#' :: _ => return some (name, "")
    | _ => return some (name, .ofList (← read? vars {} value))

/-- Adds a variable, unless it is set already. -/
def add (vars : Variables) (name value : String) : Variables :=
  if (value? vars name).isSome then vars else vars ++ [(name, value)]

/--
Adds the settings of lines up to the first that cannot be read.  References see all variables that
are set by then, those of the lines before among them.
-/
def addLines (vars : Variables) : List (Option (List Char)) → Variables
  | some cs :: rest =>
    match line? vars cs with
    | some (some (name, value)) => addLines (add vars name value) rest
    | some none => addLines vars rest
    | none => vars
  | _ => vars

def skipMark : List Char → List Char
  | '\ufeff' :: cs => cs
  | cs => cs

/-- The lines of a file up to the first that is no text, each with its line end. -/
def textLines (content : ByteArray) : List (List Char) :=
  let rec go : List UInt8 → List UInt8 → List (List Char)
    | [], line => (decode line.reverse).elim [] fun cs => if cs.isEmpty then [] else [cs]
    | b :: bs, line =>
      if b = 10 then (decode (b :: line).reverse).elim [] fun cs => cs :: go bs []
      else go bs (b :: line)
  go content.toList []
where
  decode (bytes : List UInt8) : Option (List Char) :=
    (String.fromUTF8? ⟨bytes.toArray⟩).map String.toList

def skipFirstMark : List (List Char) → List (List Char)
  | line :: lines => skipMark line :: lines
  | [] => []

def load (env : Variables) (entry : Entry) : Variables :=
  match entry with
  | .file content => addLines env (logicalLines [] .plain (skipFirstMark (textLines content)))
  | _ => env

end PulseJoin.CommandLine.Environment
