import PulseJoin.Text.Binary64
import PulseJoin.Text.Hexadecimal
import PulseJoin.Text.Numeral
import PulseJoin.Text.Toml

/-!
# Unquoted values

Truth values, numbers, dates and times are written without quotes.  `Value.ofScalar?` reads one from
all of its characters and those that stand behind it.
-/

namespace PulseJoin.Text.Toml

/-! ## Numbers -/

/-- Digits with single underscores between them, without the underscores. -/
def grouped? (isDigit : Char → Bool) : List Char → Option (List Char)
  | [] => none
  | [c] => if isDigit c then some [c] else none
  | c :: '_' :: rest => if isDigit c then (grouped? isDigit rest).map (c :: ·) else none
  | c :: rest => if isDigit c then (grouped? isDigit rest).map (c :: ·) else none

/-- Decimal digits; a zero in front stands alone. -/
def decimal? (cs : List Char) : Option (List Char) := do
  match ← grouped? Char.isDigit cs with
  | '0' :: _ :: _ => none
  | ds => some ds

def smallBase? (base : Nat) (cs : List Char) : Option Nat := do
  let ds ← grouped? (fun c => c.isDigit && Numeral.digitValue c < base) cs
  return ds.foldl (fun v c => base * v + Numeral.digitValue c) 0

def magnitude? : List Char → Option Nat
  | '0' :: 'x' :: cs =>
    (grouped? (fun c => (Hexadecimal.digitValue? c).isSome) cs).bind Hexadecimal.value?
  | '0' :: 'o' :: cs => smallBase? 8 cs
  | '0' :: 'b' :: cs => smallBase? 2 cs
  | cs => (decimal? cs).map Numeral.value

/-- An integer; only decimal ones have a sign. -/
def integer? (cs : List Char) : Option Int :=
  match cs with
  | '+' :: ds => (decimal? ds).map fun ds => (Numeral.value ds : Int)
  | '-' :: ds => (decimal? ds).map fun ds => -(Numeral.value ds : Int)
  | ds => (magnitude? ds).map fun n => (n : Int)

/-- Whether an integer has at most 128 bits, signed or unsigned. -/
def isLong (n : Int) : Bool := -(1 <<< 127 : Nat) ≤ n && n < (1 <<< 128 : Nat)

/-- Takes a sign off the front; true is minus. -/
def spanSign : List Char → Bool × List Char
  | '+' :: cs => (false, cs)
  | '-' :: cs => (true, cs)
  | cs => (false, cs)

def fraction? : List Char → Option (List Char)
  | [] => some []
  | _ :: ds => grouped? Char.isDigit ds

def exponent? : List Char → Option Int
  | [] => some 0
  | _ :: cs => do
    let (negative, ds) := spanSign cs
    let n : Int := Numeral.value (← grouped? Char.isDigit ds)
    return if negative then -n else n

/-- The digits of a number without a sign, and the power of ten they are to be multiplied with. -/
def parts? (cs : List Char) : Option (Nat × Int) := do
  let isMark := fun c : Char => c == 'e' || c == 'E'
  let mantissa := cs.takeWhile (!isMark ·)
  let whole ← decimal? (mantissa.takeWhile (· ≠ '.'))
  let fraction ← fraction? (mantissa.dropWhile (· ≠ '.'))
  let power ← exponent? (cs.dropWhile (!isMark ·))
  return (Numeral.value (whole ++ fraction), power - fraction.length)

/--
Whether a real number, or a word for infinity or for no number, is in the range of doubles; there is
no answer if the characters are none of these.
-/
def realInRange? (cs : List Char) : Option Bool :=
  let magnitude := (spanSign cs).2
  if magnitude = "inf".toList ∨ magnitude = "nan".toList then some true
  else (parts? magnitude).map fun (digits, power) =>
    Binary64.decimalBits digits power < Binary64.infinityBits

/-! ## Dates and times -/

def twoDigits? (a b : Char) : Option Nat :=
  if a.isDigit && b.isDigit then some (Numeral.value [a, b]) else none

def daysInMonth (year month : Nat) : Nat :=
  if month = 2 then if year % 4 = 0 ∧ (year % 100 ≠ 0 ∨ year % 400 = 0) then 29 else 28
  else if month ∈ [4, 6, 9, 11] then 30
  else 31

def date? : List Char → Option (List Char)
  | y₁ :: y₂ :: y₃ :: y₄ :: '-' :: m₁ :: m₂ :: '-' :: d₁ :: d₂ :: rest => do
    let year := 100 * (← twoDigits? y₁ y₂) + (← twoDigits? y₃ y₄)
    let month ← twoDigits? m₁ m₂
    let day ← twoDigits? d₁ d₂
    if 1 ≤ month ∧ month ≤ 12 ∧ 1 ≤ day ∧ day ≤ daysInMonth year month then some rest else none
  | _ => none

def clock? : List Char → Option (List Char)
  | h₁ :: h₂ :: ':' :: m₁ :: m₂ :: rest => do
    if (← twoDigits? h₁ h₂) ≤ 23 ∧ (← twoDigits? m₁ m₂) ≤ 59 then some rest else none
  | _ => none

def subseconds? : List Char → Option (List Char)
  | '.' :: c :: rest => if c.isDigit then some (rest.dropWhile Char.isDigit) else none
  | '.' :: [] => none
  | cs => some cs

/-- Takes a time of day off the front; seconds may be left out, and a minute may have 61 of them. -/
def timeOfDay? (cs : List Char) : Option (List Char) := do
  match ← clock? cs with
  | ':' :: s₁ :: s₂ :: rest => if (← twoDigits? s₁ s₂) ≤ 60 then subseconds? rest else none
  | ':' :: _ => none
  | rest => some rest

def isOffset : List Char → Bool
  | [] => true
  | ['Z'] | ['z'] => true
  | '+' :: cs | '-' :: cs => clock? cs == some []
  | _ => false

def isMoment (cs : List Char) : Bool :=
  match date? cs with
  | some [] => true
  | some (c :: rest) => (c == 'T' || c == 't' || c == ' ') && (timeOfDay? rest).any isOffset
  | none => timeOfDay? cs == some []

/-! ## All of them -/

def Value.ofNumber? (cs behind : List Char) : Option Value :=
  let excess := fun kind => Value.excess ⟨kind, cs, cs.length + behind.length⟩
  match integer? cs with
  | some n => some (if isLong n then .integer n else excess .integer)
  | none => (realInRange? cs).map fun inRange => if inRange then .real cs else excess .real

def Value.ofScalar? (cs behind : List Char) : Option Value :=
  if cs = "true".toList then some (.boolean true)
  else if cs = "false".toList then some (.boolean false)
  else match ofNumber? cs behind with
    | some v => some v
    | none => if isMoment cs then some (.moment cs) else none

end PulseJoin.Text.Toml
