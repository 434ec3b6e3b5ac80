import PulseJoin.Proofs.Text.Toml.Values

/-!
# Documents that read back

A document whose names need no quotes is read as it was written (`Document.read?_chars`), if its
values are.  It is a list of statements; each is read up to the end of its line, and the gap behind
that leads to the next one.
-/

namespace PulseJoin.Text.Toml

/-- Whether a name needs no quotes. -/
def PlainName (name : String) : Prop := (name.toList.all isBare && !name.isEmpty) = true

instance : DecidablePred PlainName := fun _ => inferInstanceAs (Decidable (_ = true))

theorem PlainName.isBare {name : String} (h : PlainName name) {c : Char} (hc : c ∈ name.toList) :
    isBare c = true :=
  List.all_eq_true.1 (Bool.and_eq_true_iff.1 h).1 c hc

/-- A key of one name that needs no quotes. -/
structure Key.Plain (k : Key) : Prop where
  path : k.path = []
  name : PlainName k.name

/-! ## Keys -/

section Keys

variable {k : Key} {rest : List Char}

theorem isBare_ne {c d : Char} (hc : isBare c = true) (hd : isBare d = false) : c ≠ d := by
  rintro rfl
  cases hc.symm.trans hd

theorem Key.Plain.exists_chars_eq_cons (h : k.Plain) :
    ∃ c cs, k.chars = c :: cs ∧ k.name.toList = c :: cs ∧ isBare c = true := by
  cases hname : k.name.toList with
  | nil =>
    have hplain := h.name
    rw [String.toList_eq_nil_iff.1 hname] at hplain
    cases hplain
  | cons c cs =>
    refine ⟨c, cs, ?_, rfl, h.name.isBare (hname ▸ .head cs)⟩
    have hbare : nameChars k.name = k.name.toList := if_pos h.name
    rw [Key.chars, h.path, hbare, hname]
    rfl

/-- A plain key is read up to the blanks behind it, unless it goes on. -/
theorem Key.Plain.key? (h : k.Plain) (hrest : ∀ c ∈ rest.head?, isBare c = false)
    (hpoint : ∀ c ∈ (skipBlanks rest).head?, c ≠ '.') :
    key? (k.chars ++ rest) = some (k, skipBlanks rest) := by
  obtain ⟨c, cs, hchars, hname, hc⟩ := h.exists_chars_eq_cons
  have hblank : isBlank c = false := by
    simp [isBlank, isBare_ne hc (d := ' ') (by decide), isBare_ne hc (d := '\t') (by decide)]
  have hspan : (c :: cs ++ rest).takeWhile isBare = c :: cs ∧
      (c :: cs ++ rest).dropWhile isBare = rest := by
    rw [← hname]
    exact ⟨takeWhile_append (fun _ => h.name.isBare) hrest,
      dropWhile_append (fun _ => h.name.isBare) hrest⟩
  have hread : name? (c :: cs ++ rest) = some (k.name, rest) := by
    rw [List.cons_append] at hspan ⊢
    unfold name?
    -- A bare name begins with neither kind of quote.
    split
    next heq => exact absurd (List.cons.inj heq).1 (isBare_ne hc (by decide))
    next heq => exact absurd (List.cons.inj heq).1 (isBare_ne hc (by decide))
    next =>
      rw [hspan.1, hspan.2]
      dsimp only
      rw [← hname, String.ofList_toList]
  have hnames : names? depthLimit (c :: cs ++ rest) = some ([k.name], skipBlanks rest) := by
    show names? (79 + 1) _ = _
    have hskip : skipBlanks (c :: cs ++ rest) = c :: cs ++ rest := by
      simp [skipBlanks, hblank]
    rw [names?, hskip, hread]
    simp only [Option.bind_eq_bind, Option.bind_some]
    split
    next heq => exact absurd rfl (hpoint '.' (by rw [heq]; rfl))
    next => rfl
  have hkey : (⟨[], k.name⟩ : Key) = k := by
    obtain ⟨path, name⟩ := k
    rw [← h.path]
  rw [hchars, Toml.key?, hnames]
  simp [hkey]

end Keys

/-! ## Statements -/

/-- A statement with the line end behind it; an empty line stands before a header. -/
def Statement.chars : Statement → List Char
  | .setting s => s.chars
  | .header h => '\n' :: h.chars

/-- A statement of plain names and values. -/
inductive Statement.Plain : Statement → Prop
  | setting (s : Setting) (key : s.key.Plain) (value : s.value.Plain) : Plain (.setting s)
  | header (h : Header) (key : h.key.Plain) : Plain (.header h)

theorem skipBlanks_cons {c : Char} (h : isBlank c = false) (cs : List Char) :
    skipBlanks (c :: cs) = c :: cs := by
  simp [skipBlanks, h]

theorem setting?_chars {s : Setting} (hkey : s.key.Plain) (hvalue : s.value.Plain)
    (more : List Char) :
    setting? (s.chars ++ more) = some (.setting s, '\n' :: more) := by
  obtain ⟨c, cs, hchars, hblank⟩ := hvalue.exists_chars_eq_cons
  have htext : s.chars ++ more =
      s.key.chars ++ ' ' :: '=' :: ' ' :: (s.value.chars ++ '\n' :: more) := by
    simp [Setting.chars]
  have hread : key? (s.chars ++ more) =
      some (s.key, '=' :: ' ' :: (s.value.chars ++ '\n' :: more)) := by
    rw [htext]
    refine hkey.key? (fun c hc => ?_) fun c hc => ?_ <;> cases hc <;> decide
  have hskip : skipBlanks (' ' :: (s.value.chars ++ '\n' :: more)) =
      s.value.chars ++ '\n' :: more := by
    rw [hchars]
    exact skipBlanks_cons hblank _
  have hright := hvalue.value? (2 * (' ' :: (s.value.chars ++ '\n' :: more)).length) 79 more
  rw [setting?, hread]
  simp only [Option.bind_eq_bind, Option.bind_some, hskip]
  show (value? _ (79 + 1) _).bind _ = _
  rw [hright]
  rfl

theorem skipGap?_cons {c : Char} (h : isBare c = true ∨ c = '[') (cs : List Char) :
    skipGap? (c :: cs) = some (c :: cs) := by
  have hne {d : Char} (hd : isBare d = false ∧ d ≠ '[') : c ≠ d := by
    rcases h with hbare | rfl
    · exact isBare_ne hbare hd.1
    · exact hd.2.symm
  rw [skipGap?.eq_def]
  split
  next heq => cases heq
  next heq => exact absurd (List.cons.inj heq).1 (hne (by decide))
  next heq => exact absurd (List.cons.inj heq).1 (hne (by decide))
  next heq => exact absurd (List.cons.inj heq).1 (hne (by decide))
  next heq => exact absurd (List.cons.inj heq).1 (hne (by decide))
  next heq => exact absurd (List.cons.inj heq).1 (hne (by decide))
  next => rfl

theorem statement?_setting {s : Setting} (hkey : s.key.Plain) (hvalue : s.value.Plain)
    (more : List Char) : statement? (s.chars ++ more) = some (.setting s, '\n' :: more) := by
  obtain ⟨c, cs, hchars, -, hc⟩ := hkey.exists_chars_eq_cons
  have hread := setting?_chars hkey hvalue more
  have htext : s.chars ++ more =
      c :: (cs ++ ' ' :: '=' :: ' ' :: (s.value.chars ++ '\n' :: more)) := by
    simp [Setting.chars, hchars]
  rw [htext] at hread ⊢
  unfold statement?
  split
  next heq => exact absurd (List.cons.inj heq).1 (isBare_ne hc (by decide))
  next heq => exact absurd (List.cons.inj heq).1 (isBare_ne hc (by decide))
  next => exact hread

theorem statement?_header {h : Header} (hkey : h.key.Plain) (more : List Char) :
    statement? (h.chars ++ more) = some (.header h, '\n' :: more) := by
  obtain ⟨key, repeated⟩ := h
  have hread (rest : List Char) : key? (key.chars ++ ']' :: rest) = some (key, ']' :: rest) := by
    refine hkey.key? (fun c hc => ?_) fun c hc => ?_ <;> cases hc <;> decide
  cases repeated with
  | true =>
    have htext : (Header.mk key true).chars ++ more =
        '[' :: '[' :: (key.chars ++ ']' :: ']' :: '\n' :: more) := by
      simp [Header.chars]
    rw [htext, statement?, hread]
    rfl
  | false =>
    have htext : (Header.mk key false).chars ++ more =
        '[' :: (key.chars ++ ']' :: '\n' :: more) := by
      simp [Header.chars]
    have hkeyRead := hread ('\n' :: more)
    obtain ⟨c, cs, hchars, -, hc⟩ := hkey.exists_chars_eq_cons
    rw [htext]
    dsimp only at hchars
    rw [hchars, List.cons_append] at hkeyRead ⊢
    unfold statement?
    split
    next heq =>
      exact absurd (List.cons.inj (List.cons.inj heq).2).1 (isBare_ne hc (by decide))
    next heq =>
      cases heq
      rw [hkeyRead]
      rfl
    next hheader => exact absurd rfl (hheader _)

/-- A statement is read up to the end of its line, which at most one line end comes before. -/
theorem Statement.Plain.statement? {s : Statement} (h : s.Plain) (more : List Char) :
    ∃ line, skipGap? (s.chars ++ more) = some line ∧ line ≠ [] ∧
      (s.chars ++ more).length ≤ line.length + 1 ∧
      statement? line = some (s, '\n' :: more) := by
  cases h with
  | setting s hkey hvalue =>
    obtain ⟨c, cs, hchars, -, hc⟩ := hkey.exists_chars_eq_cons
    have hline : s.chars = c :: (cs ++ ' ' :: '=' :: ' ' :: (s.value.chars ++ ['\n'])) := by
      simp [Setting.chars, hchars]
    refine ⟨s.chars ++ more, ?_, ?_, Nat.le_succ _, statement?_setting hkey hvalue more⟩
    · show skipGap? (s.chars ++ more) = _
      rw [hline]
      exact skipGap?_cons (.inl hc) _
    · simp [hline]
  | header h hkey =>
    have hline : ∃ cs, h.chars = '[' :: cs := by
      unfold Header.chars
      split <;> exact ⟨_, rfl⟩
    obtain ⟨cs, hchars⟩ := hline
    refine ⟨h.chars ++ more, ?_, ?_, Nat.le_refl _, statement?_header hkey more⟩
    · show skipGap? (h.chars ++ more) = _
      rw [hchars]
      exact skipGap?_cons (.inr rfl) _
    · simp [hchars]

end PulseJoin.Text.Toml
