import PulseJoin.Text.Binary64
import PulseJoin.Text.Numeral

/-!
# Reading real numbers

A real number is written as digits with an optional point and an optional power of ten, or as one of
the words for infinity and for no number.  It is read as the nearest double.
-/

namespace PulseJoin.Text.Real

/-- The digits before and after the point; there has to be a digit on one side. -/
def mantissa? (cs : List Char) : Option (Nat × Nat) :=
  let whole := cs.takeWhile (· ≠ '.')
  let fraction := (cs.dropWhile (· ≠ '.')).drop 1
  if (whole ++ fraction).isEmpty || !(whole ++ fraction).all Char.isDigit then none
  else some (Numeral.value (whole ++ fraction), fraction.length)

/-- An unsigned number, as its digits and the power of ten they are to be multiplied with. -/
def decimal? (cs : List Char) : Option (Nat × Int) := do
  let isMark := fun c : Char => c == 'e' || c == 'E'
  let (digits, places) ← mantissa? (cs.takeWhile (!isMark ·))
  let power ← match cs.dropWhile (!isMark ·) with
    | [] => some 0
    | _ :: rest => Numeral.int? (.ofList rest)
  return (digits, power - places)

def unsigned? (negative : Bool) (cs : List Char) : Option Float :=
  let word := String.ofList (cs.map Char.toLower)
  if word = "inf" ∨ word = "infinity" then
    some (Binary64.ofMagnitude negative Binary64.infinityBits)
  else if word = "nan" then some (0 / 0)
  else (decimal? cs).map fun (digits, power) => Binary64.ofDecimal negative digits power

def read? (text : String) : Option Float :=
  match text.toList with
  | '+' :: cs => unsigned? false cs
  | '-' :: cs => unsigned? true cs
  | cs => unsigned? false cs

end PulseJoin.Text.Real
