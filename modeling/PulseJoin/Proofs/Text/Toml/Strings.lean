import Mathlib.Tactic.SplitIfs
import PulseJoin.Text.Toml.Reader
import PulseJoin.Text.Toml.Writer

/-!
# Strings that read back

A string is read as it was written in whatever style (`value?_textChars`).  In double quotes each
character is read back by itself; the quotes that stand bare before the closing ones are told from
those by `closing?`, which keeps up to two of them.
-/

namespace PulseJoin.Text

theorem Hexadecimal.value?_map_toUpper_chars {width n : Nat} (h : n < Nat.pow 16 width) :
    value? ((chars width n).map Char.toUpper) = some n := by
  induction width generalizing n with
  | zero =>
    have hzero : n = 0 := by simpa using h
    rw [hzero]
    rfl
  | succ width ih =>
    have hlt : n < Nat.pow 16 width * 16 := h
    have hfront := ih (n := n / 16) ((Nat.div_lt_iff_lt_mul (by decide)).2 hlt)
    have hlast := digitValue?_toUpper_digit (Nat.mod_lt n (by decide : 16 > 0))
    simp only [value?] at hfront
    simp [chars, value?, hfront, hlast]
    omega

namespace Toml

/-! ## Pieces -/

section Pieces

variable {multi : Bool} {c : Char}

/-- Whether a piece stands for a character. -/
def Piece.Spells (p : Piece) (c : Char) : Prop := p = .plain c ∨ p = .escaped c

theorem pieces?_escape {e : Char} (h : escaped? e = some c) (more : List Char) :
    pieces? multi ('\\' :: e :: more) = andThen (.escaped c) (pieces? multi more) := by
  rw [pieces?.eq_def]
  split
  next heq => cases heq
  next heq =>
    cases heq
    cases h
  next heq =>
    cases heq
    cases h
  next heq =>
    cases heq
    cases h
  next heq =>
    cases heq
    rw [h]
  next heq => cases heq
  next hescape _ heq =>
    cases heq
    exact absurd rfl (hescape _ _ rfl)

theorem pieces?_code {n : Nat} (hlt : n < 0x80) (more : List Char) :
    pieces? multi ('\\' :: 'u' :: (Hexadecimal.chars 4 n).map Char.toUpper ++ more) =
      andThen (.escaped (Char.ofNat n)) (pieces? multi more) := by
  have hvalue : Hexadecimal.value? ((Hexadecimal.chars 4 n).map Char.toUpper) = some n :=
    Hexadecimal.value?_map_toUpper_chars (by show n < 65536; omega)
  have hvalid : n.isValidChar := .inl (by omega)
  simp only [Hexadecimal.chars, List.nil_append, List.cons_append, List.map_cons, List.map_nil]
    at hvalue ⊢
  simp [pieces?, codeChar?, hvalue, hvalid]

theorem pieces?_plain (hquote : c ≠ '"') (hbackslash : c ≠ '\\')
    (h : isPlain c = true ∨ multi = true ∧ c = '\n') (more : List Char) :
    pieces? multi (c :: more) = andThen (.plain c) (pieces? multi more) := by
  have hplain : (isPlain c || (multi && c == '\n')) = true := by simpa using h
  have hreturn : c ≠ '\r' := by
    rintro rfl
    cases multi <;> cases hplain
  rw [pieces?.eq_def]
  split
  next heq => cases heq
  next heq =>
    cases heq
    exact absurd rfl hbackslash
  next heq =>
    cases heq
    exact absurd rfl hbackslash
  next heq =>
    cases heq
    exact absurd rfl hbackslash
  next heq =>
    cases heq
    exact absurd rfl hbackslash
  next heq =>
    cases heq
    exact absurd rfl hreturn
  next heq =>
    cases heq
    rw [if_neg hquote, if_neg hbackslash, if_pos hplain]

theorem isPlain_of_not_isControl (h : isControl c = false) : isPlain c = true := by
  simp only [isControl, Bool.or_eq_false_iff, decide_eq_false_iff_not, Char.not_lt] at h
  simp [isPlain, h.1, bne, h.2]

theorem toNat_lt_of_isControl (h : isControl c = true) : c.toNat < 0x80 := by
  simp only [isControl, Bool.or_eq_true, decide_eq_true_eq, beq_iff_eq] at h
  rcases h with hspace | rfl
  · exact Nat.lt_trans (UInt32.lt_iff_toNat_lt.1 hspace) (by decide)
  · decide

/-- Every character but a quote reads back by itself. -/
theorem exists_pieces?_charChars (multi : Bool) (hquote : c ≠ '"') (more : List Char) :
    ∃ p : Piece, p.Spells c ∧
      pieces? multi (charChars multi c ++ more) = andThen p (pieces? multi more) := by
  unfold charChars
  split_ifs with hbackspace htab hline hmulti hpage hreturn hbackslash hcontrol
  · exact ⟨_, .inr rfl, hbackspace ▸ pieces?_escape rfl more⟩
  · exact ⟨_, .inr rfl, htab ▸ pieces?_escape rfl more⟩
  · exact ⟨_, .inl rfl, hline ▸ pieces?_plain (by decide) (by decide) (.inr ⟨hmulti, rfl⟩) more⟩
  · exact ⟨_, .inr rfl, hline ▸ pieces?_escape rfl more⟩
  · exact ⟨_, .inr rfl, hpage ▸ pieces?_escape rfl more⟩
  · exact ⟨_, .inr rfl, hreturn ▸ pieces?_escape rfl more⟩
  · subst hbackslash
    exact ⟨_, .inr rfl, pieces?_escape rfl more⟩
  · have hlt := toNat_lt_of_isControl hcontrol
    refine ⟨.escaped c, .inr rfl, ?_⟩
    rw [pieces?_code hlt, Char.ofNat_toNat]
  · have hplain := isPlain_of_not_isControl (Bool.not_eq_true _ ▸ hcontrol)
    exact ⟨_, .inl rfl, pieces?_plain hquote hbackslash (.inl hplain) more⟩

theorem joinLines?_cons {p : Piece} (h : p.Spells c) (ps : List Piece) :
    joinLines? .none (p :: ps) = (joinLines? .none ps).map (c :: ·) := by
  rcases h with rfl | rfl
  · by_cases hblank : isBlank c || c == '\n' || c == '\r'
    · rw [joinLines?, if_pos hblank]
    · rw [joinLines?, if_neg hblank]
      rfl
  · rfl

/-- Whether a string in double quotes is read as `cs`, so that `rest` is left. -/
def Reads (multi : Bool) (text cs rest : List Char) : Prop :=
  ∃ ps, pieces? multi text = some (ps, rest) ∧ joinLines? .none ps = some cs

theorem Reads.cons {p : Piece} {text more cs rest : List Char} (h : Reads multi more cs rest)
    (hp : p.Spells c) (htext : pieces? multi text = andThen p (pieces? multi more)) :
    Reads multi text (c :: cs) rest := by
  obtain ⟨ps, hpieces, hjoin⟩ := h
  refine ⟨p :: ps, ?_, ?_⟩
  · rw [htext, hpieces]
    rfl
  · rw [joinLines?_cons hp, hjoin]
    rfl

theorem Reads.quoted? {text cs rest : List Char} (h : Reads multi text cs rest) :
    quoted? multi text = some (.ofList cs, rest) := by
  obtain ⟨ps, hpieces, hjoin⟩ := h
  simp [Toml.quoted?, hpieces, hjoin]

end Pieces

/-! ## Closing quotes -/

section Closing

variable {quote : Char} {rest : List Char}

/-- Three quotes close the string, and of more than three it keeps two at most. -/
theorem closing?_three (h : rest.head? ≠ some quote) :
    closing? quote (quote :: quote :: quote :: rest) = some (0, rest) := by
  cases rest with
  | nil => simp [closing?]
  | cons d rest =>
    have hd : d ≠ quote := fun heq => h (congrArg some heq)
    cases rest <;> simp [closing?, hd]

theorem closing?_four (h : rest.head? ≠ some quote) :
    closing? quote (quote :: quote :: quote :: quote :: rest) = some (1, rest) := by
  cases rest with
  | nil => simp [closing?]
  | cons d rest =>
    have hd : d ≠ quote := fun heq => h (congrArg some heq)
    simp [closing?, hd]

theorem closing?_five :
    closing? quote (quote :: quote :: quote :: quote :: quote :: rest) = some (2, rest) := by
  simp [closing?]

theorem closing?_of_second {b : Char} (h : b ≠ quote) (a : Char) :
    closing? quote (a :: b :: rest) = none := by
  cases rest <;> simp [closing?, h]

theorem closing?_of_third {c : Char} (h : c ≠ quote) (a b : Char) :
    closing? quote (a :: b :: c :: rest) = none := by
  simp [closing?, h]

end Closing

/-! ## Double quotes -/

section Double

variable {rest : List Char}

theorem reads_line (cs : List Char) :
    Reads false (escapedChars false 0 cs ++ '"' :: rest) cs rest := by
  induction cs with
  | nil => exact ⟨[], by simp [escapedChars, pieces?], rfl⟩
  | cons c cs ih =>
    by_cases hquote : c = '"'
    · subst hquote
      refine ih.cons (.inr rfl) ?_
      show pieces? false ('\\' :: '"' :: _) = _
      exact pieces?_escape rfl _
    · obtain ⟨p, hp, hread⟩ := exists_pieces?_charChars false hquote
        (escapedChars false 0 cs ++ '"' :: rest)
      refine ih.cons hp ?_
      rw [← hread, escapedChars, if_neg hquote, List.append_assoc]

theorem exists_charChars_eq_cons (multi : Bool) {c : Char} (hquote : c ≠ '"') :
    ∃ d ds, charChars multi c = d :: ds ∧ d ≠ '"' ∧ d ≠ '\r' ∧ (c ≠ '\n' → d ≠ '\n') := by
  unfold charChars
  split_ifs with _ _ hline _ _ hreturn
  all_goals try exact ⟨_, _, rfl, by decide, by decide, fun _ => by decide⟩
  · exact ⟨'\n', [], rfl, by decide, by decide, fun hne => absurd hline hne⟩
  · exact ⟨c, [], rfl, hquote, hreturn, id⟩

theorem exists_escapedChars_eq_cons {run : Nat} {c : Char} (h : c ≠ '"' ∨ ¬ run < 2)
    (cs : List Char) : ∃ d ds, escapedChars true run (c :: cs) = d :: ds ∧ d ≠ '"' := by
  by_cases hquote : c = '"'
  · have hrun : ¬ run < 2 := h.resolve_left (absurd hquote)
    exact ⟨'\\', '"' :: escapedChars true 0 cs, by simp [escapedChars, hquote, hrun], by decide⟩
  · obtain ⟨d, ds, hchars, hd, -⟩ := exists_charChars_eq_cons true hquote
    exact ⟨d, ds ++ escapedChars true 0 cs, by simp [escapedChars, hquote, hchars], hd⟩

theorem reads_quote {more cs : List Char} (hclosing : closing? '"' ('"' :: more) = none)
    (h : Reads true more cs rest) : Reads true ('"' :: more) ('"' :: cs) rest := by
  refine h.cons (.inl rfl) ?_
  rw [pieces?.eq_def]
  simp [hclosing]

theorem reads_closing {text : List Char} {kept : Nat}
    (hclosing : closing? '"' ('"' :: text) = some (kept, rest)) :
    Reads true ('"' :: text) (List.replicate kept '"') rest := by
  refine ⟨List.replicate kept (.plain '"'), ?_, ?_⟩
  · rw [pieces?.eq_def]
    simp [hclosing]
  · clear hclosing
    induction kept with
    | zero => rfl
    | succ kept ih => rw [List.replicate_succ, joinLines?_cons (.inl rfl), ih]; rfl

/-- A bare quote closes the string if nothing but quotes is left of it. -/
theorem closing?_escapedChars (hrest : rest.head? ≠ some '"') {run : Nat} (hrun : run < 2)
    (cs : List Char) :
    let more := escapedChars true (run + 1) cs ++ '"' :: '"' :: '"' :: rest
    closing? '"' ('"' :: more) = none ∨
      ∃ kept, cs = List.replicate kept '"' ∧
        closing? '"' ('"' :: more) = some (kept + 1, rest) := by
  intro more
  have hbare (cs : List Char) :
      escapedChars true 1 ('"' :: cs) = '"' :: escapedChars true 2 cs := by
    simp [escapedChars]
  -- At most two bare quotes stand in a row, so the third character decides at the latest.
  cases cs with
  | nil => exact .inr ⟨0, rfl, closing?_four hrest⟩
  | cons c cs =>
    by_cases hsecond : c ≠ '"' ∨ ¬ run + 1 < 2
    · obtain ⟨d, ds, hchars, hd⟩ := exists_escapedChars_eq_cons hsecond cs
      left
      show closing? '"' ('"' :: (escapedChars true (run + 1) (c :: cs) ++ _)) = none
      rw [hchars]
      exact closing?_of_second hd _
    · obtain ⟨rfl, rfl⟩ : c = '"' ∧ run = 0 := by simpa using hsecond
      cases cs with
      | nil =>
        right
        refine ⟨1, rfl, ?_⟩
        show closing? '"' ('"' :: (escapedChars true 1 ['"'] ++ _)) = _
        rw [hbare]
        exact closing?_five
      | cons c cs =>
        obtain ⟨d, ds, hchars, hd⟩ := exists_escapedChars_eq_cons (c := c)
          (.inr (by decide : ¬ 2 < 2)) cs
        left
        show closing? '"' ('"' :: (escapedChars true 1 ('"' :: c :: cs) ++ _)) = none
        rw [hbare, hchars]
        exact closing?_of_third hd _ _

theorem reads_lines (hrest : rest.head? ≠ some '"') (run : Nat) (cs : List Char) :
    Reads true (escapedChars true run cs ++ '"' :: '"' :: '"' :: rest) cs rest := by
  induction cs generalizing run with
  | nil => exact reads_closing (closing?_three hrest)
  | cons c cs ih =>
    by_cases hquote : c = '"'
    · subst hquote
      by_cases hrun : run < 2
      · have hbare : escapedChars true run ('"' :: cs) = '"' :: escapedChars true (run + 1) cs := by
          simp [escapedChars, hrun]
        rw [hbare, List.cons_append]
        rcases closing?_escapedChars hrest hrun cs with hnone | ⟨kept, hcs, hsome⟩
        · exact reads_quote hnone (ih (run + 1))
        · -- The quotes that are left stand bare before the closing ones and are kept.
          have hread := reads_closing hsome
          rwa [List.replicate_succ, ← hcs] at hread
      · -- A third quote in a row is escaped.
        have htext : escapedChars true run ('"' :: cs) = '\\' :: '"' :: escapedChars true 0 cs := by
          simp [escapedChars, hrun]
        rw [htext]
        exact (ih 0).cons (.inr rfl) (pieces?_escape rfl _)
    · obtain ⟨p, hp, hread⟩ := exists_pieces?_charChars true hquote
        (escapedChars true 0 cs ++ '"' :: '"' :: '"' :: rest)
      refine (ih 0).cons hp ?_
      rw [← hread, escapedChars, if_neg hquote, List.append_assoc]

end Double

/-! ## Single quotes -/

section Single

variable {rest : List Char}

theorem literalChars?_plain {multi : Bool} {c : Char} (hquote : c ≠ '\'')
    (h : isPlain c = true ∨ multi = true ∧ c = '\n') (more : List Char) :
    literalChars? multi (c :: more) = andThen c (literalChars? multi more) := by
  have hplain : (isPlain c || (multi && c == '\n')) = true := by simpa using h
  rw [literalChars?.eq_def]
  split
  next heq => cases heq
  next heq =>
    cases heq
    cases multi <;> cases hplain
  next heq =>
    cases heq
    rw [if_neg hquote, if_pos hplain]

theorem literalChars?_quote {more : List Char} (hclosing : closing? '\'' ('\'' :: more) = none) :
    literalChars? true ('\'' :: more) = andThen '\'' (literalChars? true more) := by
  rw [literalChars?.eq_def]
  simp [hclosing]

theorem literalChars?_closing {text : List Char} {kept : Nat}
    (hclosing : closing? '\'' ('\'' :: text) = some (kept, rest)) :
    literalChars? true ('\'' :: text) = some (List.replicate kept '\'', rest) := by
  rw [literalChars?.eq_def]
  simp [hclosing]

theorem literalChars?_line {cs : List Char} (h : ∀ c ∈ cs, isPlain c = true ∧ c ≠ '\'') :
    literalChars? false (cs ++ '\'' :: rest) = some (cs, rest) := by
  induction cs with
  | nil => simp [literalChars?]
  | cons c cs ih =>
    obtain ⟨hplain, hquote⟩ := h c (.head _)
    rw [List.cons_append, literalChars?_plain hquote (.inl hplain), ih fun d hd => h d (.tail _ hd)]
    rfl

theorem le_longestRun (quote : Char) (current : Nat) (cs : List Char) :
    current ≤ longestRun quote current cs := by
  induction cs generalizing current with
  | nil => exact Nat.le_refl current
  | cons c cs ih =>
    by_cases hquote : c = quote
    · have hnext := ih (current + 1)
      rw [longestRun, if_pos hquote]
      omega
    · rw [longestRun, if_neg hquote]
      exact Nat.le_max_left _ _

theorem closing?_of_longestRun {quote : Char} (hrest : rest.head? ≠ some quote) {run : Nat}
    {cs : List Char} (h : longestRun quote (run + 1) cs ≤ 2) :
    let more := cs ++ quote :: quote :: quote :: rest
    closing? quote (quote :: more) = none ∨
      ∃ kept, cs = List.replicate kept quote ∧
        closing? quote (quote :: more) = some (kept + 1, rest) := by
  intro more
  cases cs with
  | nil => exact .inr ⟨0, rfl, closing?_four hrest⟩
  | cons c cs =>
    by_cases hsecond : c = quote
    · subst hsecond
      cases cs with
      | nil => exact .inr ⟨1, rfl, closing?_five⟩
      | cons d cs =>
        -- Three quotes in a row would be a longer run than there is.
        have hthird : d ≠ c := by
          rintro rfl
          have hle := le_longestRun d (run + 1 + 1 + 1) cs
          simp only [longestRun, if_true] at h
          omega
        exact .inl (closing?_of_third hthird _ _)
    · exact .inl (closing?_of_second hsecond _)

theorem literalChars?_lines (hrest : rest.head? ≠ some '\'') {run : Nat} {cs : List Char}
    (hrun : longestRun '\'' run cs ≤ 2) (h : ∀ c ∈ cs, isPlain c = true ∨ c = '\n') :
    literalChars? true (cs ++ '\'' :: '\'' :: '\'' :: rest) = some (cs, rest) := by
  induction cs generalizing run with
  | nil => exact literalChars?_closing (closing?_three hrest)
  | cons c cs ih =>
    have htail : ∀ d ∈ cs, isPlain d = true ∨ d = '\n' := fun d hd => h d (.tail _ hd)
    by_cases hquote : c = '\''
    · subst hquote
      rw [longestRun, if_pos rfl] at hrun
      rcases closing?_of_longestRun hrest hrun with hnone | ⟨kept, hcs, hsome⟩
      · rw [List.cons_append, literalChars?_quote hnone, ih hrun htail]
        rfl
      · rw [List.cons_append, literalChars?_closing hsome, hcs]
        rfl
    · rw [longestRun, if_neg hquote] at hrun
      have hmore := ih (Nat.le_trans (Nat.le_max_right _ _) hrun) htail
      have hplain : isPlain c = true ∨ true = true ∧ c = '\n' := by simpa using h c (.head _)
      rw [List.cons_append, literalChars?_plain hquote hplain, hmore]
      rfl

end Single

/-! ## All styles -/

section Styles

variable {rest : List Char}

theorem ne_of_longestRun_eq_zero {quote : Char} {cs : List Char} (h : longestRun quote 0 cs = 0) :
    ∀ c ∈ cs, c ≠ quote := by
  induction cs with
  | nil => simp
  | cons d cs ih =>
    by_cases hquote : d = quote
    · have hle := le_longestRun quote 1 cs
      rw [longestRun, if_pos hquote, Nat.zero_add] at h
      omega
    · rw [longestRun, if_neg hquote, Nat.zero_max] at h
      intro c hc
      rcases List.mem_cons.1 hc with rfl | htail
      · exact hquote
      · exact ih h c htail

theorem isPlain_of_controls {cs : List Char} (h : (Traits.of cs).controls = false) :
    ∀ c ∈ cs, isPlain c = true ∨ c = '\n' := by
  intro c hc
  have hc' := List.any_eq_false.1 h c hc
  by_cases hline : c = '\n'
  · exact .inr hline
  by_cases htab : c = '\t'
  · exact .inl (by simp [isPlain, htab])
  · have hcontrol : isControl c = false := by simpa [hline, htab] using hc'
    exact .inl (isPlain_of_not_isControl hcontrol)

/-- The line end in front is left out, and there is one if the string may begin with another. -/
theorem skipNewline_firstLine (cs text : List Char)
    (h : cs.any (· == '\n') = false → ∀ c ∈ text.head?, c ≠ '\n' ∧ c ≠ '\r') :
    skipNewline ((if cs.any (· == '\n') then ['\n'] else []) ++ text) = text := by
  cases hline : cs.any (· == '\n') with
  | true => rfl
  | false =>
    have hhead := h hline
    show skipNewline text = text
    unfold skipNewline
    split
    next => exact absurd rfl (hhead '\n' rfl).1
    next => exact absurd rfl (hhead '\r' rfl).2
    next => rfl

/-- The style of a string holds it. -/
theorem Traits.style_cases (t : Traits) :
    t.style = .double ∨
    t.style = .single ∧ t.controls = false ∧ t.newlines = false ∧ t.singles = 0 ∨
    t.style = .doubleLines ∨
    t.style = .singleLines ∧ t.controls = false ∧ t.singles ≤ 2 := by
  unfold style
  split_ifs with hdouble hsingle hdoubleLines hsingleLines hnewlines
  · exact .inl rfl
  · exact .inr (.inl ⟨rfl, by simpa [and_assoc] using hsingle⟩)
  · exact .inr (.inr (.inl rfl))
  · exact .inr (.inr (.inr ⟨rfl, by simpa using hsingleLines⟩))
  · exact .inr (.inr (.inl rfl))
  · exact .inl rfl

theorem value?_double {text : List Char} (h : ∀ more, text ≠ '"' :: '"' :: more)
    (fuel depth : Nat) : value? (fuel + 1) depth ('"' :: text) = asText (quoted? false text) := by
  rw [value?.eq_def]
  dsimp only
  split
  next heq =>
    cases heq
    exact absurd rfl (h _)
  next heq =>
    cases heq
    rfl
  next heq => cases heq
  next heq => cases heq
  next heq => cases heq
  next heq => cases heq
  next hdouble _ _ _ _ => exact absurd rfl (hdouble _)

theorem value?_single {text : List Char} (h : ∀ more, text ≠ '\'' :: '\'' :: more)
    (fuel depth : Nat) : value? (fuel + 1) depth ('\'' :: text) = asText (literal? false text) := by
  rw [value?.eq_def]
  dsimp only
  split
  next heq => cases heq
  next heq => cases heq
  next heq =>
    cases heq
    exact absurd rfl (h _)
  next heq =>
    cases heq
    rfl
  next heq => cases heq
  next heq => cases heq
  next hsingle _ _ => exact absurd rfl (hsingle _)

theorem line_ne_quotes (cs : List Char) (hrest : ∀ c ∈ rest.head?, c ≠ '"') (more : List Char) :
    escapedChars false 0 cs ++ '"' :: rest ≠ '"' :: '"' :: more := by
  cases cs with
  | nil =>
    intro heq
    cases rest with
    | nil => cases heq
    | cons c rest =>
      cases heq
      exact hrest _ rfl rfl
  | cons c cs =>
    by_cases hquote : c = '"'
    · simp [escapedChars, hquote]
    · obtain ⟨d, ds, hchars, hd, -⟩ := exists_charChars_eq_cons false hquote
      simp [escapedChars, hquote, hchars, hd]

theorem literal_ne_quotes {cs : List Char} (hcs : ∀ c ∈ cs, c ≠ '\'')
    (hrest : ∀ c ∈ rest.head?, c ≠ '\'') (more : List Char) :
    cs ++ '\'' :: rest ≠ '\'' :: '\'' :: more := by
  intro heq
  cases cs with
  | nil =>
    cases rest with
    | nil => cases heq
    | cons c rest =>
      cases heq
      exact hrest _ rfl rfl
  | cons c cs => exact hcs c (.head _) (List.cons.inj heq).1

theorem head?_lines {cs : List Char} (h : cs.any (· == '\n') = false) (more : List Char) :
    ∀ c ∈ (escapedChars true 0 cs ++ '"' :: more).head?, c ≠ '\n' ∧ c ≠ '\r' := by
  cases cs with
  | nil =>
    intro c hc
    cases hc
    decide
  | cons d cs =>
    have hline : d ≠ '\n' := by simpa using List.any_eq_false.1 h d (.head _)
    by_cases hquote : d = '"'
    · have hchars : escapedChars true 0 (d :: cs) = '"' :: escapedChars true 1 cs := by
        simp [escapedChars, hquote]
      intro c hc
      rw [hchars] at hc
      cases hc
      decide
    · obtain ⟨e, es, hchars, -, hreturn, hnext⟩ :=
        exists_charChars_eq_cons true hquote
      intro c hc
      rw [escapedChars, if_neg hquote, hchars] at hc
      cases hc
      exact ⟨hnext hline, hreturn⟩

theorem head?_literal {cs : List Char} (h : cs.any (· == '\n') = false)
    (hcs : ∀ c ∈ cs, isPlain c = true ∨ c = '\n') (more : List Char) :
    ∀ c ∈ (cs ++ '\'' :: more).head?, c ≠ '\n' ∧ c ≠ '\r' := by
  cases cs with
  | nil =>
    intro c hc
    cases hc
    decide
  | cons d cs =>
    have hline : d ≠ '\n' := by simpa using List.any_eq_false.1 h d (.head _)
    intro c hc
    cases hc
    refine ⟨hline, ?_⟩
    rintro rfl
    rcases hcs '\r' (.head _) with hplain | hnewline
    · cases hplain
    · exact hline hnewline

/-- A string is read as it was written if no quote follows. -/
theorem value?_textChars (s : String) (hrest : ∀ c ∈ rest.head?, c ≠ '"' ∧ c ≠ '\'')
    (fuel depth : Nat) : value? (fuel + 1) depth (textChars s ++ rest) = some (.text s, rest) := by
  have hdouble : rest.head? ≠ some '"' := fun h => (hrest '"' h).1 rfl
  have hsingle : rest.head? ≠ some '\'' := fun h => (hrest '\'' h).2 rfl
  rcases (Traits.of s.toList).style_cases with hstyle | ⟨hstyle, hcontrols, hnewlines, hsingles⟩ |
    hstyle | ⟨hstyle, hcontrols, hsingles⟩
  · have htext : textChars s ++ rest = '"' :: (escapedChars false 0 s.toList ++ '"' :: rest) := by
      simp [textChars, hstyle, Style.quotes, Style.bodyChars]
    rw [htext, value?_double (line_ne_quotes _ fun c hc => (hrest c hc).1), (reads_line _).quoted?]
    simp [asText]
  · have htext : textChars s ++ rest = '\'' :: (s.toList ++ '\'' :: rest) := by
      simp [textChars, hstyle, Style.quotes, Style.bodyChars]
    have hquote := ne_of_longestRun_eq_zero hsingles
    have hline : ∀ c ∈ s.toList, isPlain c = true ∧ c ≠ '\'' := by
      intro c hc
      have hnewline : c ≠ '\n' := by simpa using List.any_eq_false.1 hnewlines c hc
      exact ⟨(isPlain_of_controls hcontrols c hc).resolve_right hnewline, hquote c hc⟩
    rw [htext, value?_single (literal_ne_quotes hquote fun c hc => (hrest c hc).2)]
    simp [asText, literal?, literalChars?_line hline]
  · have htext : textChars s ++ rest = '"' :: '"' :: '"' ::
        ((if s.toList.any (· == '\n') then ['\n'] else []) ++
          (escapedChars true 0 s.toList ++ '"' :: '"' :: '"' :: rest)) := by
      simp [textChars, hstyle, Style.quotes, Style.bodyChars]
    have hskip := skipNewline_firstLine s.toList
      (escapedChars true 0 s.toList ++ '"' :: '"' :: '"' :: rest) fun h => head?_lines h _
    rw [htext]
    show asText (quoted? true (skipNewline _)) = _
    rw [hskip, (reads_lines hdouble 0 _).quoted?]
    simp [asText]
  · have htext : textChars s ++ rest = '\'' :: '\'' :: '\'' ::
        ((if s.toList.any (· == '\n') then ['\n'] else []) ++
          (s.toList ++ '\'' :: '\'' :: '\'' :: rest)) := by
      simp [textChars, hstyle, Style.quotes, Style.bodyChars]
    have hskip := skipNewline_firstLine s.toList (s.toList ++ '\'' :: '\'' :: '\'' :: rest)
      fun h => head?_literal h (isPlain_of_controls hcontrols) _
    rw [htext]
    show asText (literal? true (skipNewline _)) = _
    rw [hskip]
    simp [asText, literal?, literalChars?_lines hsingle hsingles (isPlain_of_controls hcontrols)]

end Styles

end Toml

end PulseJoin.Text
