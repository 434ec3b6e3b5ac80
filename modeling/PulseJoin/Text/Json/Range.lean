import PulseJoin.Text.Binary64
import PulseJoin.Text.Numeral

/-!
# The range of numbers

A number that is kept as a double must not be too large for one.  The double is found by a short
cut: as many digits as fit into 64 bits, rounded, times a rounded power of ten, rounded again.  So
some numbers near the end of the range are refused although a double is close to them, and others
are taken that are beyond it.
-/

namespace PulseJoin.Text.Json

/-- Appends digits to a number as long as it stays below a limit, and gives back those left. -/
def appendDigits (limit n : Nat) : List Char → Nat × List Char
  | [] => (n, [])
  | c :: cs =>
    let next := 10 * n + Numeral.digitValue c
    if next < limit then appendDigits limit next cs else (n, c :: cs)

def isMark (c : Char) : Bool := c == 'e' || c == 'E'

def writtenPower : List Char → Int
  | [] => 0
  | _ :: '-' :: ds => -(Numeral.value ds : Int)
  | _ :: '+' :: ds => Numeral.value ds
  | _ :: ds => Numeral.value ds

/--
The digits of a number that are kept, and the power of ten they are to be multiplied with.  Digits
before the point that are left out still count as places, those behind it do not.
-/
def approximation (written : List Char) : Nat × Int :=
  let mantissa := (written.dropWhile (· == '-')).takeWhile (!isMark ·)
  let fraction := (mantissa.dropWhile (· != '.')).drop 1
  let (digits, wholeLeft) := appendDigits UInt64.size 0 (mantissa.takeWhile (· != '.'))
  let (digits, fractionLeft) := appendDigits UInt64.size digits fraction
  let places : Int := fraction.length - fractionLeft.length
  (digits, writtenPower (written.dropWhile (!isMark ·)) + wholeLeft.length - places)

def isInRange (written : List Char) : Bool :=
  let (digits, power) := approximation written
  digits == 0 || power ≤ 0 ||
    (power ≤ 308 &&
      let product := Binary64.nearestNat digits * Binary64.nearestNat (Nat.pow 10 power.toNat)
      Binary64.magnitudeBits product 1 < Binary64.infinityBits)

/--
The digits of a power of ten that are not even read: those behind the digit that takes it beyond 31
bits.
-/
def unreadExponent (written : List Char) : List Char :=
  let digits := (written.dropWhile (!isMark ·)).dropWhile (!Char.isDigit ·)
  (appendDigits (UInt32.size / 2) 0 digits).2.drop 1

end PulseJoin.Text.Json
