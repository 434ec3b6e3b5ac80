import PulseJoin.Proofs.Text.Numeral
import PulseJoin.Proofs.Text.Toml.Strings

/-!
# Values that read back

A value at the end of a line is read as it was written, if it has no others inside
(`value?_chars`).
-/

namespace PulseJoin.Text.Toml

/-- A value without others inside, whose number has at most 64 bits. -/
inductive Value.Plain : Value → Prop
  | text (s : String) : Plain (.text s)
  | integer (n : Int) (h : n.natAbs < UInt64.size) : Plain (.integer n)
  | boolean (b : Bool) : Plain (.boolean b)
  | empty : Plain (.array [])

/-! ## Numbers -/

theorem grouped?_eq {isDigit : Char → Bool} {cs : List Char} (hne : cs ≠ [])
    (h : ∀ c ∈ cs, isDigit c = true ∧ c ≠ '_') : grouped? isDigit cs = some cs := by
  induction cs with
  | nil => exact absurd rfl hne
  | cons c cs ih =>
    obtain ⟨hc, -⟩ := h c (.head _)
    cases cs with
    | nil => simp [grouped?, hc]
    | cons d cs =>
      obtain ⟨-, hd⟩ := h d (.tail _ (.head _))
      have hmore := ih (by simp) fun e he => h e (.tail _ he)
      rw [grouped?.eq_def]
      split
      next heq => cases heq
      next heq => cases heq
      next heq =>
        cases heq
        exact absurd rfl hd
      next heq =>
        cases heq
        rw [if_pos hc, hmore]
        rfl

theorem decimal?_chars (n : Nat) : decimal? (Numeral.chars n) = some (Numeral.chars n) := by
  have hgrouped : grouped? Char.isDigit (Numeral.chars n) = some (Numeral.chars n) := by
    refine grouped?_eq (Numeral.chars_ne_nil n) fun c hc => ?_
    have hdigit := Numeral.isDigit_of_mem_chars hc
    refine ⟨hdigit, ?_⟩
    rintro rfl
    cases hdigit
  by_cases hn : n = 0
  · rw [hn, Numeral.chars_zero]
    rfl
  · obtain ⟨c, ds, hchars, -, hzero⟩ := Numeral.exists_chars_eq_cons n
    rw [decimal?, hgrouped, hchars]
    simp only [Option.bind_eq_bind, Option.bind_some]
    split
    next heq => exact absurd (List.cons.inj heq).1 (hzero hn)
    next => rfl

theorem magnitude?_chars (n : Nat) : magnitude? (Numeral.chars n) = some n := by
  have hread : (decimal? (Numeral.chars n)).map Numeral.value = some n := by
    rw [decimal?_chars, Option.map_some, Numeral.value_chars]
  by_cases hn : n = 0
  · rw [hn, Numeral.chars_zero]
    rfl
  · obtain ⟨c, ds, hchars, -, hzero⟩ := Numeral.exists_chars_eq_cons n
    rw [hchars] at hread ⊢
    unfold magnitude?
    split
    next heq => exact absurd (List.cons.inj heq).1 (hzero hn)
    next heq => exact absurd (List.cons.inj heq).1 (hzero hn)
    next heq => exact absurd (List.cons.inj heq).1 (hzero hn)
    next => exact hread

theorem integer?_intChars (n : Int) : integer? (Numeral.intChars n) = some n := by
  cases n with
  | ofNat n =>
    obtain ⟨c, ds, hchars, hdigit, -⟩ := Numeral.exists_chars_eq_cons n
    have hread := magnitude?_chars n
    show integer? (Numeral.chars n) = _
    rw [hchars] at hread ⊢
    unfold integer?
    split
    next heq =>
      cases heq
      cases hdigit
    next heq =>
      cases heq
      cases hdigit
    next =>
      rw [hread]
      rfl
  | negSucc n =>
    show (decimal? (Numeral.chars (n + 1))).map (fun ds => -(Numeral.value ds : Int)) = _
    rw [decimal?_chars, Option.map_some, Numeral.value_chars]
    rfl

theorem ofScalar?_intChars {n : Int} (h : n.natAbs < UInt64.size) (behind : List Char) :
    Value.ofScalar? (Numeral.intChars n) behind = some (.integer n) := by
  obtain ⟨c, ds, hchars, hsign⟩ := Numeral.exists_intChars_eq_cons n
  have htrue : Numeral.intChars n ≠ "true".toList := by
    rw [hchars]
    intro heq
    exact Numeral.ne_of_begins hsign (by decide) (List.cons.inj heq).1
  have hfalse : Numeral.intChars n ≠ "false".toList := by
    rw [hchars]
    intro heq
    exact Numeral.ne_of_begins hsign (by decide) (List.cons.inj heq).1
  have hlong : isLong n = true := by
    have hlt : n.natAbs < 2 ^ 64 := h
    simp only [isLong, Bool.and_eq_true, decide_eq_true_eq]
    constructor <;> omega
  rw [Value.ofScalar?, if_neg htrue, if_neg hfalse]
  simp [Value.ofNumber?, integer?_intChars, hlong]

/-! ## Values -/

theorem scalar?_line (word : List Char) (hword : word.all (!endsScalar ·) = true)
    (more : List Char) :
    scalar? (word ++ '\n' :: more) =
      (Value.ofScalar? word ('\n' :: more)).map (·, '\n' :: more) := by
  have htake : (word ++ '\n' :: more).takeWhile (!endsScalar ·) = word := by
    refine takeWhile_append (List.all_eq_true.1 hword) fun c hc => ?_
    cases hc
    rfl
  have hdrop : (word ++ '\n' :: more).dropWhile (!endsScalar ·) = '\n' :: more := by
    refine dropWhile_append (List.all_eq_true.1 hword) fun c hc => ?_
    cases hc
    rfl
  rw [scalar?, htake, hdrop]
  dsimp only
  split
  next heq => cases heq
  next => cases Value.ofScalar? word ('\n' :: more) <;> rfl

theorem value?_scalar {c : Char} (cs : List Char)
    (hc : c ≠ '"' ∧ c ≠ '\'' ∧ c ≠ '[' ∧ c ≠ '\x7b') (fuel depth : Nat) :
    value? (fuel + 1) depth (c :: cs) = scalar? (c :: cs) := by
  rw [value?.eq_def]
  dsimp only
  split
  next heq => exact absurd (List.cons.inj heq).1 hc.1
  next heq => exact absurd (List.cons.inj heq).1 hc.1
  next heq => exact absurd (List.cons.inj heq).1 hc.2.1
  next heq => exact absurd (List.cons.inj heq).1 hc.2.1
  next heq => exact absurd (List.cons.inj heq).1 hc.2.2.1
  next heq => exact absurd (List.cons.inj heq).1 hc.2.2.2
  next => rfl

theorem endsScalar_of_begins {c : Char} (h : c = '-' ∨ c.isDigit = true) :
    endsScalar c = false := by
  have hne : ∀ d ∈ [' ', '\t', '\n', '\r', ',', ']', '\x7d', '#'], c ≠ d := by
    simp only [List.mem_cons, List.not_mem_nil, or_false, forall_eq_or_imp, forall_eq]
    refine ⟨?_, ?_, ?_, ?_, ?_, ?_, ?_, ?_⟩ <;> exact Numeral.ne_of_begins h (by decide)
  simp only [endsScalar, decide_eq_false_iff_not]
  intro hmem
  exact hne c hmem rfl

theorem isBlank_of_begins {c : Char} (h : c = '-' ∨ c.isDigit = true) : isBlank c = false := by
  simp [isBlank, Numeral.ne_of_begins h (d := ' ') (by decide),
    Numeral.ne_of_begins h (d := '\t') (by decide)]

theorem Value.Plain.exists_chars_eq_cons {v : Value} (h : v.Plain) :
    ∃ c cs, v.chars = c :: cs ∧ isBlank c = false := by
  cases h with
  | text s =>
    show ∃ c cs, textChars s = c :: cs ∧ isBlank c = false
    unfold textChars
    cases (Traits.of s.toList).style <;> exact ⟨_, _, rfl, rfl⟩
  | integer n hn =>
    obtain ⟨c, ds, hchars, hsign⟩ := Numeral.exists_intChars_eq_cons n
    exact ⟨c, ds, hchars, isBlank_of_begins hsign⟩
  | boolean b => cases b <;> exact ⟨_, _, rfl, rfl⟩
  | empty => exact ⟨_, _, rfl, rfl⟩

/-- A value is read up to the end of its line. -/
theorem Value.Plain.value? {v : Value} (h : v.Plain) (fuel depth : Nat) (more : List Char) :
    value? (fuel + 2) (depth + 1) (v.chars ++ '\n' :: more) = some (v, '\n' :: more) := by
  cases h with
  | text s =>
    refine value?_textChars s (fun c hc => ?_) (fuel + 1) (depth + 1)
    cases hc
    decide
  | integer n hn =>
    obtain ⟨c, ds, hchars, hsign⟩ := Numeral.exists_intChars_eq_cons n
    have hword : (Numeral.intChars n).all (!endsScalar ·) = true := by
      rw [List.all_eq_true]
      intro c hc
      rw [endsScalar_of_begins (Numeral.isDigit_of_mem_intChars hc)]
      rfl
    have hread := scalar?_line _ hword more
    rw [ofScalar?_intChars hn] at hread
    show Toml.value? (fuel + 2) (depth + 1) (Numeral.intChars n ++ '\n' :: more) = _
    rw [hchars, List.cons_append] at hread ⊢
    rw [value?_scalar, hread]
    · rfl
    · refine ⟨?_, ?_, ?_, ?_⟩ <;> exact Numeral.ne_of_begins hsign (by decide)
  | boolean b =>
    cases b
    · have hread := scalar?_line "false".toList (by decide) more
      exact (value?_scalar _ (by decide) (fuel + 1) (depth + 1)).trans hread
    · have hread := scalar?_line "true".toList (by decide) more
      exact (value?_scalar _ (by decide) (fuel + 1) (depth + 1)).trans hread
  | empty => rfl

end PulseJoin.Text.Toml
