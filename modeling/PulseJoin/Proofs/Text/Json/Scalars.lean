import Mathlib.Data.List.TakeWhile
import Mathlib.Tactic.SplitIfs
import PulseJoin.Proofs.Text.Numeral
import PulseJoin.Text.Json.Reader
import PulseJoin.Text.Json.Writer

/-!
# Strings and numbers that read back

A string is read character by character as it was written, whatever its characters are
(`string?_stringChars`).  An integer of at most 64 bits is read to where its digits end
(`number?_intChars`).
-/

namespace PulseJoin.Text.Json

/-! ## Strings -/

/-- Puts a glyph before those that were read. -/
def consGlyph (g : Glyph) (read : List Glyph × List Char) : List Glyph × List Char :=
  (g :: read.1, read.2)

theorem glyphs?_code {n : Nat} (h : n < 0x20) (rest : List Char) :
    glyphs? ('\\' :: 'u' :: Hexadecimal.chars 4 n ++ rest) =
      (glyphs? rest).map (consGlyph (.char (Char.ofNat n))) := by
  have hvalue : Hexadecimal.value? (Hexadecimal.chars 4 n) = some n :=
    Hexadecimal.value?_chars (by show n < 65536; omega)
  have hcode : codeGlyph n = .char (Char.ofNat n) := by
    have hhalf : isHalf n = false := by
      simp [isHalf]
      omega
    simp [codeGlyph, hhalf]
  simp only [Hexadecimal.chars, List.nil_append, List.cons_append] at hvalue ⊢
  simp only [glyphs?, hvalue]
  rw [← hcode]
  cases glyphs? rest <;> rfl

theorem glyphs?_escape {e c : Char} (h : escaped? e = some c) (rest : List Char) :
    glyphs? ('\\' :: e :: rest) = (glyphs? rest).map (consGlyph (.char c)) := by
  have hcode : e ≠ 'u' := by
    rintro rfl
    cases h
  rw [glyphs?.eq_def]
  split
  next heq => cases heq
  next heq => cases heq
  next heq =>
    cases heq
    exact absurd rfl hcode
  next heq =>
    cases heq
    rw [h]
    cases glyphs? rest <;> rfl
  next hescape heq =>
    cases heq
    exact absurd rfl (hescape _ _ rfl)

theorem glyphs?_plain {c : Char} (hquote : c ≠ '"') (hbackslash : c ≠ '\\') (h : ¬ c.toNat < 0x20)
    (rest : List Char) : glyphs? (c :: rest) = (glyphs? rest).map (consGlyph (.char c)) := by
  have hplain : plainGlyph c = .char c := if_neg h
  rw [glyphs?.eq_def]
  split
  next heq => cases heq
  next heq =>
    cases heq
    exact absurd rfl hquote
  next heq =>
    cases heq
    exact absurd rfl hbackslash
  next heq =>
    cases heq
    exact absurd rfl hbackslash
  next heq =>
    cases heq
    rw [if_neg hbackslash, hplain]
    cases glyphs? rest <;> rfl

theorem glyphs?_charChars (c : Char) (rest : List Char) :
    glyphs? (charChars c ++ rest) = (glyphs? rest).map (consGlyph (.char c)) := by
  unfold charChars
  split_ifs with hmark hbackspace htab hline hpage hreturn hcontrol
  · rcases hmark with rfl | rfl <;> exact glyphs?_escape rfl rest
  · exact hbackspace ▸ glyphs?_escape rfl rest
  · exact htab ▸ glyphs?_escape rfl rest
  · exact hline ▸ glyphs?_escape rfl rest
  · exact hpage ▸ glyphs?_escape rfl rest
  · exact hreturn ▸ glyphs?_escape rfl rest
  · rw [glyphs?_code hcontrol, Char.ofNat_toNat]
  · rw [not_or] at hmark
    exact glyphs?_plain hmark.1 hmark.2 hcontrol rest

theorem joinHalves_glyphs (s : String) : joinHalves (glyphs s) = glyphs s := by
  unfold glyphs
  induction s.toList with
  | nil => rfl
  | cons c cs ih => simp [joinHalves, ih]

theorem string?_stringChars (s : String) (rest : List Char) :
    string? ((glyphs s).flatMap Glyph.chars ++ '"' :: rest) = some (glyphs s, rest) := by
  have hglyphs : ∀ cs : List Char, glyphs? ((cs.map Glyph.char).flatMap Glyph.chars ++ '"' :: rest)
      = some (cs.map .char, rest) := by
    intro cs
    induction cs with
    | nil => simp [glyphs?]
    | cons c cs ih =>
      rw [List.map_cons, List.flatMap_cons, List.append_assoc]
      show glyphs? (charChars c ++ _) = _
      rw [glyphs?_charChars, ih]
      rfl
  have hread : glyphs? ((glyphs s).flatMap Glyph.chars ++ '"' :: rest) = some (glyphs s, rest) :=
    hglyphs s.toList
  simp [string?, hread, joinHalves_glyphs]

/-! ## Numbers -/

/-- Whether a number is at its end where some text begins. -/
def EndsNumber (rest : List Char) : Prop :=
  ∀ c ∈ rest.head?, c.isDigit = false ∧ c ≠ '.' ∧ isMark c = false

theorem isMark_of_isDigit {c : Char} (h : c.isDigit = true) : isMark c = false := by
  simp only [isMark, Bool.or_eq_false_iff, beq_eq_false_iff_ne]
  constructor <;> rintro rfl <;> cases h

theorem ne_point_of_isDigit {c : Char} (h : c.isDigit = true) : c ≠ '.' := by
  rintro rfl
  cases h

theorem whole?_chars (n : Nat) {rest : List Char} (hrest : ∀ c ∈ rest.head?, c.isDigit = false) :
    whole? (Numeral.chars n ++ rest) = some (Numeral.chars n, rest) := by
  by_cases hn : n = 0
  · rw [hn, Numeral.chars_zero]
    rfl
  · obtain ⟨c, ds, hchars, -, hzero⟩ := Numeral.exists_chars_eq_cons n
    have hspan : spanDigits (Numeral.chars n ++ rest) = (Numeral.chars n, rest) :=
      Prod.ext (takeWhile_append (fun _ => Numeral.isDigit_of_mem_chars) hrest)
        (dropWhile_append (fun _ => Numeral.isDigit_of_mem_chars) hrest)
    rw [hchars] at hspan ⊢
    rw [List.cons_append] at hspan ⊢
    unfold whole?
    split
    next heq =>
      cases heq
      exact absurd rfl (hzero hn)
    next heq => rw [hspan]

theorem magnitude?_chars (n : Nat) {rest : List Char} (h : EndsNumber rest) :
    magnitude? (Numeral.chars n ++ rest) = some (Numeral.chars n, rest) := by
  have hfraction : fraction? rest = some ([], rest) := by
    cases rest with
    | nil => rfl
    | cons c rest =>
      have hpoint := (h c rfl).2.1
      unfold fraction?
      split
      next heq =>
        cases heq
        exact absurd rfl hpoint
      next => rfl
  have hexponent : exponent? rest = some ([], rest) := by
    cases rest with
    | nil => rfl
    | cons c rest => simp [exponent?, (h c rfl).2.2]
  simp [magnitude?, whole?_chars n fun c hc => (h c hc).1, hfraction, hexponent]

theorem written?_intChars (n : Int) {rest : List Char} (h : EndsNumber rest) :
    written? (Numeral.intChars n ++ rest) = some (Numeral.intChars n, rest) := by
  cases n with
  | ofNat n =>
    have hread := magnitude?_chars n h
    unfold written?
    split
    next heq =>
      obtain ⟨c, ds, hchars, hdigit, -⟩ := Numeral.exists_chars_eq_cons n
      change Numeral.chars n ++ rest = _ at heq
      rw [hchars] at heq
      cases heq
      cases hdigit
    next => exact hread
  | negSucc n =>
    show ((magnitude? (Numeral.chars (n + 1) ++ rest)).bind fun read =>
      some ('-' :: read.1, read.2)) = _
    rw [magnitude?_chars (n + 1) h]
    rfl

theorem appendDigits_eq {limit n : Nat} {ds : List Char}
    (h : ds.foldl (fun v c => 10 * v + Numeral.digitValue c) n < limit) :
    appendDigits limit n ds = (ds.foldl (fun v c => 10 * v + Numeral.digitValue c) n, []) := by
  -- The number only grows, so it stays below the limit at every digit.
  have hle : ∀ (ds : List Char) (n : Nat),
      n ≤ ds.foldl (fun v c => 10 * v + Numeral.digitValue c) n := by
    intro ds
    induction ds with
    | nil => exact fun n => Nat.le_refl n
    | cons c ds ih =>
      intro n
      have hnext := ih (10 * n + Numeral.digitValue c)
      rw [List.foldl_cons]
      omega
  induction ds generalizing n with
  | nil => rfl
  | cons c ds ih =>
    rw [List.foldl_cons] at h ⊢
    have hnext := hle ds (10 * n + Numeral.digitValue c)
    rw [appendDigits, if_pos (by omega), ih h]

theorem isMark_of_mem_intChars {n : Int} {c : Char} (h : c ∈ Numeral.intChars n) :
    isMark c = false := by
  rcases Numeral.isDigit_of_mem_intChars h with rfl | hdigit
  · rfl
  · exact isMark_of_isDigit hdigit

/-- An integer of at most 64 bits is kept with all its digits. -/
theorem approximation_intChars {n : Int} (h : n.natAbs < UInt64.size) :
    approximation (Numeral.intChars n) = (n.natAbs, 0) := by
  have hmantissa : (Numeral.chars n.natAbs).takeWhile (!isMark ·) = Numeral.chars n.natAbs := by
    rw [List.takeWhile_eq_self_iff]
    intro c hc
    simp [isMark_of_isDigit (Numeral.isDigit_of_mem_chars hc)]
  have hwhole : (Numeral.chars n.natAbs).takeWhile (· != '.') = Numeral.chars n.natAbs := by
    rw [List.takeWhile_eq_self_iff]
    intro c hc
    simp [ne_point_of_isDigit (Numeral.isDigit_of_mem_chars hc)]
  have hfraction : (Numeral.chars n.natAbs).dropWhile (· != '.') = [] := by
    rw [List.dropWhile_eq_nil_iff]
    intro c hc
    simp [ne_point_of_isDigit (Numeral.isDigit_of_mem_chars hc)]
  have hpower : (Numeral.intChars n).dropWhile (!isMark ·) = [] := by
    rw [List.dropWhile_eq_nil_iff]
    intro c hc
    simp [isMark_of_mem_intChars hc]
  have hvalue := Numeral.value_chars n.natAbs
  have hdigits : appendDigits UInt64.size 0 (Numeral.chars n.natAbs) = (n.natAbs, []) := by
    rw [appendDigits_eq (by rw [← Numeral.value, hvalue]; exact h), ← Numeral.value, hvalue]
  simp [approximation, Numeral.dropWhile_minus_intChars, hmantissa, hwhole, hfraction, hpower,
    hdigits, appendDigits, writtenPower]

theorem isInRange_intChars {n : Int} (h : n.natAbs < UInt64.size) :
    isInRange (Numeral.intChars n) = true := by
  simp [isInRange, approximation_intChars h]

theorem number?_intChars {n : Int} (hn : n.natAbs < UInt64.size) {rest : List Char}
    (h : EndsNumber rest) : number? (Numeral.intChars n ++ rest) = some (.int n, rest) := by
  simp [number?, written?_intChars n h, isInRange_intChars hn, Value.int]

theorem int?_int (n : Int) : (Value.int n).int? = some n := by
  cases n with
  | ofNat n =>
    obtain ⟨c, ds, hchars, hdigit, -⟩ := Numeral.exists_chars_eq_cons n
    have hread : Numeral.digits? (c :: ds) = some n := hchars ▸ Numeral.digits?_chars n
    show (Value.number (Numeral.chars n)).int? = _
    rw [hchars]
    unfold Value.int?
    split
    next heq =>
      cases heq
      cases hdigit
    next heq =>
      cases heq
      rw [hread]
      rfl
    next heq => exact absurd rfl (heq _)
  | negSucc n =>
    show (Value.number ('-' :: Numeral.chars (n + 1))).int? = _
    simp [Value.int?, Numeral.digits?_chars]

end PulseJoin.Text.Json
