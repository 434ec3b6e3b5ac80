/-!
# Decimal numerals

Natural numbers and integers in decimal notation.  `value_chars` says that a written number reads
back, `all_isDigit_chars` that it is written in digits only.
-/

namespace PulseJoin.Text.Numeral

def digit (n : Nat) : Char := Char.ofNat ('0'.toNat + n)

def digitValue (c : Char) : Nat := c.toNat - '0'.toNat

def chars (n : Nat) : List Char :=
  if n < 10 then [digit n] else chars (n / 10) ++ [digit (n % 10)]

def value (digits : List Char) : Nat :=
  digits.foldl (fun v c => 10 * v + digitValue c) 0

def intChars : Int → List Char
  | .ofNat n => chars n
  | .negSucc n => '-' :: chars (n + 1)

theorem digitValue_digit {n : Nat} (h : n < 10) : digitValue (digit n) = n := by
  have : ∀ m : Fin 10, digitValue (digit m) = m := by decide
  exact this ⟨n, h⟩

theorem isDigit_digit {n : Nat} (h : n < 10) : (digit n).isDigit = true := by
  have : ∀ m : Fin 10, (digit m).isDigit = true := by decide
  exact this ⟨n, h⟩

theorem value_append_singleton (ds : List Char) (c : Char) :
    value (ds ++ [c]) = 10 * value ds + digitValue c := by
  simp [value]

theorem value_chars (n : Nat) : value (chars n) = n := by
  induction n using chars.induct with
  | case1 n h => rw [chars, if_pos h]; simp [value, digitValue_digit h]
  | case2 n h ih =>
    rw [chars, if_neg h, value_append_singleton, ih, digitValue_digit (Nat.mod_lt _ (by decide))]
    omega

theorem all_isDigit_chars (n : Nat) : (chars n).all Char.isDigit = true := by
  induction n using chars.induct with
  | case1 n h => rw [chars, if_pos h]; simp [isDigit_digit h]
  | case2 n h ih =>
    rw [chars, if_neg h, List.all_append, ih]
    simp [isDigit_digit (Nat.mod_lt n (by decide : 10 > 0))]

theorem chars_ne_nil (n : Nat) : chars n ≠ [] := by
  rw [chars]; split <;> simp

/-! ## Reading a whole text -/

def digits? (cs : List Char) : Option Nat :=
  if cs.isEmpty || !cs.all Char.isDigit then none else some (value cs)

/-- Reads a natural number; a plus may stand before it. -/
def nat? (text : String) : Option Nat :=
  match text.toList with
  | '+' :: cs => digits? cs
  | cs => digits? cs

/-- Reads an integer; either sign may stand before the digits. -/
def int? (text : String) : Option Int :=
  match text.toList with
  | '+' :: cs => (digits? cs).map Int.ofNat
  | '-' :: cs => (digits? cs).map fun n => -(n : Int)
  | cs => (digits? cs).map Int.ofNat

end PulseJoin.Text.Numeral
