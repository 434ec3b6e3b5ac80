import PulseJoin.Text.Binary64
import PulseJoin.Text.Numeral

/-!
# Numbers with fixed decimal places

The exact value of a double is rounded to the last place, a tie to the even digit.  The sign is
kept even where only zeros are left of the number.
-/

namespace PulseJoin.Text.Fixed

/-- `n / 10 ^ places` with all its places. -/
def scaledChars (places n : Nat) : List Char :=
  let fraction := Numeral.chars (n % Nat.pow 10 places)
  Numeral.chars (n / Nat.pow 10 places) ++
    if places = 0 then []
    else '.' :: List.replicate (places - fraction.length) '0' ++ fraction

/-- `mantissa * 2 ^ exponent * 10 ^ places`, rounded to a natural number. -/
def scaled (places mantissa : Nat) (exponent : Int) : Nat :=
  let shifted := mantissa * Nat.pow 10 places
  if exponent < 0 then Binary64.roundHalfEven shifted (1 <<< (-exponent).toNat)
  else shifted <<< exponent.toNat

def text (places : Nat) (x : Float) : String :=
  match Binary64.shape x with
  | .nan => "NaN"
  | .infinite negative => if negative then "-inf" else "inf"
  | .finite negative mantissa exponent =>
    .ofList ((if negative then ['-'] else []) ++
      scaledChars places (scaled places mantissa exponent))

end PulseJoin.Text.Fixed
