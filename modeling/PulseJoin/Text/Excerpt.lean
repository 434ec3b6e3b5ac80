/-!
# Excerpts

An excerpt shows where a part of a text stands: the number of its line, the line itself, and marks
below the part.
-/

namespace PulseJoin.Text

structure Excerpt where
  /-- How many lines stand before its line. -/
  line : Nat
  before : String
  /-- The rest of its line, with the part itself at the front. -/
  rest : String
  length : Nat
  deriving DecidableEq, Repr

namespace Excerpt

/-- The part of `length` characters that begins where `left` characters of a text are left. -/
def ofText (text : String) (left length : Nat) : Excerpt :=
  let cs := text.toList
  let earlier := cs.take (cs.length - left)
  { line := earlier.count '\n'
    before := .ofList (earlier.reverse.takeWhile (· ≠ '\n')).reverse
    rest := .ofList ((cs.drop (cs.length - left)).takeWhile (· ≠ '\n'))
    length }

/-- An excerpt as lines; lines and columns are counted from one. -/
def lines (e : Excerpt) (title : String) : List String :=
  let number := toString (e.line + 1)
  let column := e.before.length + 1
  let margin := "".pushn ' ' (number.length + 1) ++ "|"
  [s!"{title} at line {number}, column {column}",
    margin,
    s!"{number} | {e.before}{e.rest}",
    margin ++ "".pushn ' ' column ++ "".pushn '^' e.length]

end Excerpt

end PulseJoin.Text
