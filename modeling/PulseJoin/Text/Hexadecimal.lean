/-!
# Hexadecimal numerals

Numbers in base sixteen with a fixed number of digits.  `value?_chars` says that a written number
reads back.
-/

namespace PulseJoin.Text.Hexadecimal

def digit (n : Nat) : Char :=
  if n < 10 then Char.ofNat ('0'.toNat + n) else Char.ofNat ('a'.toNat + (n - 10))

def digitValue? (c : Char) : Option Nat :=
  if c.isDigit then some (c.toNat - '0'.toNat)
  else if 'a' ≤ c ∧ c ≤ 'f' then some (c.toNat - 'a'.toNat + 10)
  else if 'A' ≤ c ∧ c ≤ 'F' then some (c.toNat - 'A'.toNat + 10)
  else none

/-- The last `width` digits of a number. -/
def chars : Nat → Nat → List Char
  | 0, _ => []
  | width + 1, n => chars width (n / 16) ++ [digit (n % 16)]

def value? (cs : List Char) : Option Nat :=
  cs.foldlM (fun v c => (digitValue? c).map (16 * v + ·)) 0

theorem digitValue?_digit {n : Nat} (h : n < 16) : digitValue? (digit n) = some n := by
  have : ∀ m : Fin 16, digitValue? (digit m) = some m.val := by decide
  exact this ⟨n, h⟩

theorem digitValue?_toUpper_digit {n : Nat} (h : n < 16) :
    digitValue? (digit n).toUpper = some n := by
  have : ∀ m : Fin 16, digitValue? (digit m).toUpper = some m.val := by decide
  exact this ⟨n, h⟩

theorem value?_chars {width n : Nat} (h : n < Nat.pow 16 width) :
    value? (chars width n) = some n := by
  induction width generalizing n with
  | zero => simp_all [chars, value?]
  | succ width ih =>
    have small : n < Nat.pow 16 width * 16 := h
    have step := ih (n := n / 16) ((Nat.div_lt_iff_lt_mul (by decide)).2 small)
    simp only [value?] at step
    simp [chars, value?, step, digitValue?_digit (Nat.mod_lt n (by decide : 16 > 0))]
    omega

end PulseJoin.Text.Hexadecimal
