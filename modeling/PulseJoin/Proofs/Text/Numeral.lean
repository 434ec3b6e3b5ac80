import PulseJoin.Text.Numeral

/-!
# Decimal numerals inside a text

How a written number begins and where its digits end.
-/

namespace PulseJoin.Text

/-! ## Spans -/

section Spans

variable {p : Char → Bool} {cs rest : List Char}

theorem takeWhile_append (hcs : ∀ c ∈ cs, p c = true) (hrest : ∀ c ∈ rest.head?, p c = false) :
    (cs ++ rest).takeWhile p = cs := by
  rw [List.takeWhile_append_of_pos hcs]
  cases rest with
  | nil => simp
  | cons c rest => simp [hrest c rfl]

theorem dropWhile_append (hcs : ∀ c ∈ cs, p c = true) (hrest : ∀ c ∈ rest.head?, p c = false) :
    (cs ++ rest).dropWhile p = rest := by
  rw [List.dropWhile_append_of_pos hcs]
  cases rest with
  | nil => rfl
  | cons c rest => simp [hrest c rfl]

end Spans

/-! ## Numerals -/

namespace Numeral

theorem isDigit_of_mem_chars {n : Nat} {c : Char} (h : c ∈ chars n) : c.isDigit = true :=
  List.all_eq_true.1 (all_isDigit_chars n) c h

theorem digits?_chars (n : Nat) : digits? (chars n) = some n := by
  have hne : (chars n).isEmpty = false := by simp [chars_ne_nil]
  simp [digits?, hne, all_isDigit_chars, value_chars]

theorem chars_zero : chars 0 = ['0'] := by
  rw [chars]
  rfl

theorem digit_ne_zero {n : Nat} (hpos : n ≠ 0) (hlt : n < 10) : digit n ≠ '0' := by
  have hall : ∀ m : Fin 10, m.val ≠ 0 → digit m.val ≠ '0' := by decide
  exact hall ⟨n, hlt⟩ hpos

/-- A written number begins with a digit, and only zero with a zero. -/
theorem exists_chars_eq_cons (n : Nat) :
    ∃ c ds, chars n = c :: ds ∧ c.isDigit = true ∧ (n ≠ 0 → c ≠ '0') := by
  induction n using chars.induct with
  | case1 n hlt =>
    rw [chars, if_pos hlt]
    exact ⟨digit n, [], rfl, isDigit_digit hlt, fun hpos => digit_ne_zero hpos hlt⟩
  | case2 n hge ih =>
    obtain ⟨c, ds, hchars, hdigit, hzero⟩ := ih
    rw [chars, if_neg hge, hchars]
    exact ⟨c, _, rfl, hdigit, fun _ => hzero (by omega)⟩

/-- A written integer begins with a minus or a digit. -/
theorem exists_intChars_eq_cons (n : Int) :
    ∃ c ds, intChars n = c :: ds ∧ (c = '-' ∨ c.isDigit = true) := by
  cases n with
  | ofNat n =>
    obtain ⟨c, ds, hchars, hdigit, -⟩ := exists_chars_eq_cons n
    exact ⟨c, ds, hchars, .inr hdigit⟩
  | negSucc n => exact ⟨'-', chars (n + 1), rfl, .inl rfl⟩

theorem ne_of_begins {c d : Char} (hc : c = '-' ∨ c.isDigit = true)
    (hd : d ≠ '-' ∧ d.isDigit = false) : c ≠ d := by
  rintro rfl
  rcases hc with hminus | hdigit
  · exact hd.1 hminus
  · cases hd.2.symm.trans hdigit

theorem isDigit_of_mem_intChars {n : Int} {c : Char} (h : c ∈ intChars n) :
    c = '-' ∨ c.isDigit = true := by
  cases n with
  | ofNat n => exact .inr (isDigit_of_mem_chars h)
  | negSucc n =>
    rcases List.mem_cons.1 h with hminus | hdigit
    · exact .inl hminus
    · exact .inr (isDigit_of_mem_chars hdigit)

/-- Without its sign an integer is the number of its magnitude. -/
theorem dropWhile_minus_intChars (n : Int) :
    (intChars n).dropWhile (· == '-') = chars n.natAbs := by
  have hchars : ∀ n : Nat, (chars n).dropWhile (· == '-') = chars n := by
    intro n
    obtain ⟨c, ds, hchars, hdigit, -⟩ := exists_chars_eq_cons n
    have hminus : c ≠ '-' := by
      rintro rfl
      cases hdigit
    simp [hchars, hminus]
  cases n with
  | ofNat n => exact hchars n
  | negSucc n => exact hchars (n + 1)

end Numeral

end PulseJoin.Text
