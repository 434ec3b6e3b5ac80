/-!
# Double-precision numbers as fractions

A finite double is `mantissa * 2 ^ exponent`, up to its sign.  `ofDecimal` goes the other way: it
finds the double nearest to a decimal number in exact arithmetic.
-/

namespace PulseJoin.Text.Binary64

/-- The quotient of two natural numbers, rounded to the nearest; a tie goes to the even one. -/
def roundHalfEven (num den : Nat) : Nat :=
  let q := num / den
  let r := num % den
  if 2 * r < den then q
  else if den < 2 * r then q + 1
  else q + q % 2

/-- The least mantissa of 53 bits.  Its one bit is not stored in a double. -/
def leastNormal : Nat := 1 <<< 52

inductive Shape where
  | nan
  | infinite (negative : Bool)
  | finite (negative : Bool) (mantissa : Nat) (exponent : Int)
  deriving DecidableEq, Repr

def shape (x : Float) : Shape :=
  let bits : Nat := x.toBits.toNat
  let negative := bits >>> 63 == 1
  let biased : Nat := (bits >>> 52) % 2048
  let fraction : Nat := bits % leastNormal
  if biased == 2047 then if fraction == 0 then .infinite negative else .nan
  else if biased == 0 then .finite negative fraction (-1074)
  else .finite negative (leastNormal + fraction) (biased - 1075)

def ofMagnitude (negative : Bool) (bits : Nat) : Float :=
  Float.ofBits (.ofNat (bits + if negative then 1 <<< 63 else 0))

def infinityBits : Nat := 2047 * leastNormal

/-- `num / (den * 2 ^ e)`, rounded down. -/
def quotientAt (num den : Nat) (e : Int) : Nat :=
  if e ≤ 0 then (num <<< (-e).toNat) / den else num / (den <<< e.toNat)

/-- `num / (den * 2 ^ e)`, rounded to the nearest. -/
def roundedAt (num den : Nat) (e : Int) : Nat :=
  if e ≤ 0 then roundHalfEven (num <<< (-e).toNat) den
  else roundHalfEven num (den <<< e.toNat)

/--
The bits of the double nearest to a positive fraction.  The exponent is chosen so that the mantissa
has 53 bits, unless that is below the least exponent; rounding up to 54 bits carries into the
exponent.
-/
def magnitudeBits (num den : Nat) : Nat :=
  let guess : Int := num.log2 - den.log2 - 53
  let exact := if quotientAt num den guess < 2 * leastNormal then guess else guess + 1
  let e := max exact (-1074)
  let m := roundedAt num den e
  let bits :=
    if m < leastNormal then m else (e + 1075).toNat * leastNormal + (m - leastNormal)
  min bits infinityBits

/--
The bits of the double nearest to `digits * 10 ^ exponent`.  Numbers far outside the range are told
by the number of their digits, where two is about ten to the power 0.30103, so that no huge power is
computed.
-/
def decimalBits (digits : Nat) (exponent : Int) : Nat :=
  let magnitude : Int := Nat.log2 digits * 30103 / 100000 + exponent
  if digits = 0 ∨ magnitude < -400 then 0
  else if 400 < magnitude then infinityBits
  else if exponent < 0 then magnitudeBits digits (Nat.pow 10 (-exponent).toNat)
  else magnitudeBits (digits * Nat.pow 10 exponent.toNat) 1

def ofDecimal (negative : Bool) (digits : Nat) (exponent : Int) : Float :=
  ofMagnitude negative (decimalBits digits exponent)

/-- The number that a natural number becomes as a double, were there no end to their range. -/
def nearestNat (n : Nat) : Nat :=
  let shift := n.log2 - 52
  roundHalfEven n (1 <<< shift) <<< shift

end PulseJoin.Text.Binary64
