import PulseJoin.Proofs.Text.Json.Scalars

/-!
# Values that read back

A value that is made of texts and of integers of at most 64 bits reads back as it was written, in
either layout (`read?_pretty`, `read?_compact`).  The induction is on the value; behind each part of
it stands what ends a number.
-/

namespace PulseJoin.Text.Json

/-- A value made of texts and of integers of at most 64 bits. -/
inductive Value.Faithful : Value → Prop
  | null : Faithful .null
  | bool (b : Bool) : Faithful (.bool b)
  | int (n : Int) (h : n.natAbs < UInt64.size) : Faithful (.int n)
  | text (s : String) : Faithful (.text s)
  | array (items : List Value) (h : ∀ v ∈ items, Faithful v) : Faithful (.array items)
  | record (fields : List (String × Value)) (h : ∀ f ∈ fields, Faithful f.2) :
      Faithful (.record fields)

/-! ## Blanks -/

theorem skipBlanks_append {blanks cs : List Char} (h : ∀ c ∈ blanks, isBlank c = true) :
    skipBlanks (blanks ++ cs) = skipBlanks cs :=
  List.dropWhile_append_of_pos h

theorem skipBlanks_cons {c : Char} (h : isBlank c = false) (cs : List Char) :
    skipBlanks (c :: cs) = c :: cs := by
  simp [skipBlanks, h]

theorem isBlank_of_mem_newline {l : Layout} {c : Char} (h : c ∈ l.newline) : isBlank c = true := by
  cases l with
  | oneLine => cases h
  | indented depth =>
    rcases List.mem_cons.1 h with rfl | hspace
    · rfl
    · rw [List.eq_of_mem_replicate hspace]
      rfl

theorem expect?_append {blanks cs : List Char} (h : ∀ c ∈ blanks, isBlank c = true) (c : Char) :
    expect? c (blanks ++ cs) = expect? c cs := by
  unfold expect?
  rw [skipBlanks_append h]

theorem expect?_cons {c : Char} (h : isBlank c = false) (cs : List Char) :
    expect? c (c :: cs) = some cs := by
  simp [expect?, skipBlanks_cons h]

theorem endsNumber_newline_append (l : Layout) {c : Char} (cs : List Char)
    (hc : c.isDigit = false ∧ c ≠ '.' ∧ isMark c = false) : EndsNumber (l.newline ++ c :: cs) := by
  intro d hd
  cases l with
  | oneLine =>
    cases hd
    exact hc
  | indented depth =>
    cases hd
    decide

theorem endsNumber_restOfItems (l : Layout) (vs : List Value) (rest : List Char) :
    EndsNumber (restOfItems l vs ++ rest) := by
  cases vs with
  | nil =>
    rw [restOfItems, List.append_assoc]
    exact endsNumber_newline_append l _ (by decide)
  | cons v vs =>
    rw [restOfItems]
    intro c hc
    cases hc
    decide

theorem endsNumber_restOfMembers (l : Layout) (ms : List (List Glyph × Value)) (rest : List Char) :
    EndsNumber (restOfMembers l ms ++ rest) := by
  cases ms with
  | nil =>
    rw [restOfMembers, List.append_assoc]
    exact endsNumber_newline_append l _ (by decide)
  | cons m ms =>
    rw [restOfMembers]
    intro c hc
    cases hc
    decide

/-! ## Values -/

theorem isBlank_of_begins {c : Char} (h : c = '-' ∨ c.isDigit = true) : isBlank c = false := by
  have hspace := Numeral.ne_of_begins h (d := ' ') (by decide)
  have htab := Numeral.ne_of_begins h (d := '\t') (by decide)
  have hline := Numeral.ne_of_begins h (d := '\n') (by decide)
  have hreturn := Numeral.ne_of_begins h (d := '\r') (by decide)
  simp [isBlank, hspace, htab, hline, hreturn]

/-- A written value begins neither with a blank nor with the end of an array. -/
theorem Value.Faithful.exists_chars_eq_cons {v : Value} (h : v.Faithful) (l : Layout) :
    ∃ c cs, v.chars l = c :: cs ∧ isBlank c = false ∧ c ≠ ']' := by
  cases h with
  | null => exact ⟨'n', _, rfl, rfl, by decide⟩
  | bool b =>
    cases b
    · exact ⟨'f', _, rfl, rfl, by decide⟩
    · exact ⟨'t', _, rfl, rfl, by decide⟩
  | int n hn =>
    obtain ⟨c, ds, hchars, hsign⟩ := Numeral.exists_intChars_eq_cons n
    exact ⟨c, ds, hchars, isBlank_of_begins hsign, Numeral.ne_of_begins hsign (by decide)⟩
  | text s => exact ⟨'"', _, rfl, rfl, by decide⟩
  | array items hitems =>
    cases items with
    | nil => exact ⟨'[', _, rfl, rfl, by decide⟩
    | cons v vs => exact ⟨'[', _, rfl, rfl, by decide⟩
  | record fields hfields =>
    cases fields with
    | nil => exact ⟨'\x7b', _, rfl, rfl, by decide⟩
    | cons f fs => exact ⟨'\x7b', _, rfl, rfl, by decide⟩

theorem scalar?_int {n : Int} (hn : n.natAbs < UInt64.size) {rest : List Char}
    (h : EndsNumber rest) : scalar? (Numeral.intChars n ++ rest) = some (.int n, rest) := by
  have hread := number?_intChars hn h
  obtain ⟨c, ds, hchars, hsign⟩ := Numeral.exists_intChars_eq_cons n
  rw [hchars, List.cons_append] at hread ⊢
  unfold scalar?
  split
  all_goals try exact hread
  all_goals
    next heq =>
      exact absurd (List.cons.inj heq).1 (Numeral.ne_of_begins hsign (by decide))

/-- Whether a value reads back from behind blanks and before anything that ends a number.  Two units
of fuel are enough for each character: one for the value and one for its place among others. -/
def Value.ReadsBack (l : Layout) (v : Value) : Prop :=
  ∀ fuel blanks rest, 2 * (v.chars l).length ≤ fuel → (∀ c ∈ blanks, isBlank c = true) →
    EndsNumber rest → spanValue fuel (blanks ++ (v.chars l ++ rest)) = (v, some rest)

variable {l : Layout} {v : Value} {rest : List Char}

theorem readsBack_of_scalar {c : Char} {cs : List Char} (hchars : v.chars l = c :: cs)
    (hc : isBlank c = false ∧ c ≠ '[' ∧ c ≠ '\x7b')
    (hread : ∀ rest, EndsNumber rest → scalar? (v.chars l ++ rest) = some (v, rest)) :
    v.ReadsBack l := by
  intro fuel blanks rest hfuel hblanks hrest
  have hscalar := hread rest hrest
  rw [hchars] at hfuel hscalar ⊢
  rw [List.length_cons] at hfuel
  obtain ⟨fuel, rfl⟩ := Nat.exists_eq_add_one.2 (by omega : 0 < fuel)
  rw [List.cons_append] at hscalar ⊢
  rw [spanValue, skipBlanks_append hblanks, skipBlanks_cons hc.1]
  split
  next heq => exact absurd (List.cons.inj heq).1 hc.2.1
  next heq => exact absurd (List.cons.inj heq).1 hc.2.2
  next => rw [hscalar]

/-- Items read back if each of them does. -/
theorem spanItems_chars (rest : List Char) {v : Value} {vs : List Value}
    (hitems : ∀ w ∈ v :: vs, w.ReadsBack l.deeper) {fuel : Nat}
    (hfuel : 2 * ((v.chars l.deeper).length + (restOfItems l vs).length) ≤ fuel) :
    spanItems fuel (l.deeper.newline ++ (v.chars l.deeper ++ (restOfItems l vs ++ rest))) =
      (v :: vs, some rest) := by
  induction vs generalizing v fuel with
  | nil =>
    have hend : (restOfItems l []).length = l.newline.length + 1 := by simp [restOfItems]
    obtain ⟨fuel, rfl⟩ := Nat.exists_eq_add_one.2 (by omega : 0 < fuel)
    rw [spanItems, hitems v (.head _) fuel _ _ (by omega) (fun _ => isBlank_of_mem_newline)
      (endsNumber_restOfItems l [] rest)]
    simp only [restOfItems, List.append_assoc]
    rw [skipBlanks_append fun _ => isBlank_of_mem_newline]
    rfl
  | cons w ws ih =>
    have hstep : (restOfItems l (w :: ws)).length = l.deeper.newline.length +
        ((w.chars l.deeper).length + (restOfItems l ws).length) + 1 := by
      simp [restOfItems]
    obtain ⟨fuel, rfl⟩ := Nat.exists_eq_add_one.2 (by omega : 0 < fuel)
    -- The value ends where the comma stands, and the other items are read from there.
    rw [spanItems, hitems v (.head _) fuel _ _ (by omega) (fun _ => isBlank_of_mem_newline)
      (endsNumber_restOfItems l (w :: ws) rest)]
    have hmore := @ih w (fun u hu => hitems u (.tail _ hu)) fuel (by omega)
    simp only [restOfItems, List.cons_append, List.append_assoc]
    rw [skipBlanks_cons rfl]
    simp only [hmore]

theorem name?_stringChars {blanks : List Char} (hblanks : ∀ c ∈ blanks, isBlank c = true)
    (name : String) :
    name? (blanks ++ (stringChars (glyphs name) ++ ':' :: rest)) = some (glyphs name, rest) := by
  have hstring := string?_stringChars name (':' :: rest)
  have hquote : expect? '"' (blanks ++ (stringChars (glyphs name) ++ ':' :: rest)) =
      some ((glyphs name).flatMap Glyph.chars ++ '"' :: ':' :: rest) := by
    rw [expect?_append hblanks, stringChars, List.cons_append, List.cons_append,
      expect?_cons rfl, List.append_assoc]
    rfl
  simp [name?, hquote, hstring, expect?_cons (c := ':') rfl]

/-- What stands between a name and its value is a colon and blanks. -/
theorem Layout.exists_colon_eq_cons (l : Layout) :
    ∃ blanks, l.colon = ':' :: blanks ∧ ∀ c ∈ blanks, isBlank c = true := by
  cases l with
  | oneLine => exact ⟨[], rfl, by simp⟩
  | indented depth => exact ⟨[' '], rfl, List.forall_mem_singleton.2 rfl⟩

/-- Members read back if the value of each does. -/
theorem spanMembers_chars (rest : List Char) {k : String} {v : Value} {fs : List (String × Value)}
    (hfields : ∀ f ∈ (k, v) :: fs, f.2.ReadsBack l.deeper) {fuel : Nat}
    (hfuel : 2 * ((v.chars l.deeper).length +
      (restOfMembers l (fs.map fun f => (glyphs f.1, f.2))).length) ≤ fuel) :
    spanMembers fuel (l.deeper.newline ++ (stringChars (glyphs k) ++ (l.colon ++
        (v.chars l.deeper ++ (restOfMembers l (fs.map fun f => (glyphs f.1, f.2)) ++ rest))))) =
      (((k, v) :: fs).map fun f => (glyphs f.1, f.2), some rest) := by
  obtain ⟨blanks, hcolon, hblanks⟩ := l.exists_colon_eq_cons
  have hv : v.ReadsBack l.deeper := hfields (k, v) (.head _)
  -- Each member takes one unit of fuel, and is written in more than one character.
  induction fs generalizing k v fuel with
  | nil =>
    have hend : (restOfMembers l []).length = l.newline.length + 1 := by simp [restOfMembers]
    rw [List.map_nil] at hfuel
    obtain ⟨fuel, rfl⟩ := Nat.exists_eq_add_one.2 (by omega : 0 < fuel)
    rw [spanMembers, hcolon, List.cons_append, name?_stringChars fun _ => isBlank_of_mem_newline]
    simp only []
    rw [hv fuel _ _ (by omega) hblanks (endsNumber_restOfMembers l _ rest)]
    simp only [List.map_nil, restOfMembers, List.append_assoc]
    rw [skipBlanks_append fun _ => isBlank_of_mem_newline]
    rfl
  | cons f fs ih =>
    have hstep : (restOfMembers l ((f :: fs).map fun f => (glyphs f.1, f.2))).length =
        l.deeper.newline.length + (stringChars (glyphs f.1)).length + l.colon.length +
        ((f.2.chars l.deeper).length +
          (restOfMembers l (fs.map fun f => (glyphs f.1, f.2))).length) + 1 := by
      simp [restOfMembers]
      omega
    obtain ⟨fuel, rfl⟩ := Nat.exists_eq_add_one.2 (by omega : 0 < fuel)
    have hmore := @ih f.1 f.2 (fun u hu => hfields u (.tail _ hu)) fuel (by omega)
      (hfields f (.tail _ (.head _)))
    rw [spanMembers, hcolon, List.cons_append, name?_stringChars fun _ => isBlank_of_mem_newline]
    simp only []
    rw [hv fuel _ _ (by omega) hblanks (endsNumber_restOfMembers l _ rest)]
    simp only [List.map_cons, restOfMembers, List.cons_append, List.append_assoc] at hmore ⊢
    rw [skipBlanks_cons rfl]
    simp only [hmore]

theorem readsBack_array {items : List Value} (hitems : ∀ v ∈ items, v.Faithful)
    (hread : ∀ v ∈ items, v.ReadsBack l.deeper) : (Value.array items).ReadsBack l := by
  intro fuel blanks rest hfuel hblanks hrest
  cases items with
  | nil =>
    have hlength : ((Value.array []).chars l).length = 2 := by simp [Value.chars]
    obtain ⟨fuel, rfl⟩ := Nat.exists_eq_add_one.2 (by omega : 0 < fuel)
    rw [spanValue, skipBlanks_append hblanks]
    rfl
  | cons v vs =>
    obtain ⟨c, cs, hchars, hblank, hend⟩ := (hitems v (.head _)).exists_chars_eq_cons l.deeper
    have hlength : ((Value.array (v :: vs)).chars l).length = l.deeper.newline.length +
        ((v.chars l.deeper).length + (restOfItems l vs).length) + 1 := by
      simp [Value.chars]
    obtain ⟨fuel, rfl⟩ := Nat.exists_eq_add_one.2 (by omega : 0 < fuel)
    -- No value begins with the closing bracket, so the array is not taken for an empty one.
    have hopen : expect? ']' (l.deeper.newline ++ (v.chars l.deeper ++
        (restOfItems l vs ++ rest))) = none := by
      rw [expect?_append fun _ => isBlank_of_mem_newline, hchars]
      simp [expect?, skipBlanks_cons hblank, hend]
    have hshort : 2 * ((v.chars l.deeper).length + (restOfItems l vs).length) ≤ fuel := by omega
    have hspan := spanItems_chars rest hread hshort
    simp only [Value.chars, List.cons_append, List.append_assoc]
    rw [spanValue, skipBlanks_append hblanks, skipBlanks_cons rfl]
    simp only [hopen, hspan]

theorem readsBack_record {fields : List (String × Value)}
    (hread : ∀ f ∈ fields, f.2.ReadsBack l.deeper) : (Value.record fields).ReadsBack l := by
  intro fuel blanks rest hfuel hblanks hrest
  cases fields with
  | nil =>
    have hlength : ((Value.record []).chars l).length = 2 := by simp [Value.record, Value.chars]
    obtain ⟨fuel, rfl⟩ := Nat.exists_eq_add_one.2 (by omega : 0 < fuel)
    rw [spanValue, skipBlanks_append hblanks]
    rfl
  | cons f fs =>
    have hlength : ((Value.record (f :: fs)).chars l).length = l.deeper.newline.length +
        (stringChars (glyphs f.1)).length + l.colon.length + ((f.2.chars l.deeper).length +
        (restOfMembers l (fs.map fun f => (glyphs f.1, f.2))).length) + 1 := by
      simp [Value.record, Value.chars]
      omega
    obtain ⟨fuel, rfl⟩ := Nat.exists_eq_add_one.2 (by omega : 0 < fuel)
    have hopen : expect? '\x7d' (l.deeper.newline ++ (stringChars (glyphs f.1) ++ (l.colon ++
        (f.2.chars l.deeper ++ (restOfMembers l (fs.map fun f => (glyphs f.1, f.2)) ++ rest)))))
        = none := by
      rw [expect?_append fun _ => isBlank_of_mem_newline]
      rfl
    have hshort : 2 * ((f.2.chars l.deeper).length +
        (restOfMembers l (fs.map fun f => (glyphs f.1, f.2))).length) ≤ fuel := by omega
    have hspan := spanMembers_chars rest (k := f.1) (v := f.2) hread hshort
    simp only [Value.record, List.map_cons, Value.chars, List.cons_append, List.append_assoc]
      at hspan ⊢
    rw [spanValue, skipBlanks_append hblanks, skipBlanks_cons rfl]
    simp only [hopen, hspan]

theorem Value.Faithful.readsBack {v : Value} (h : v.Faithful) (l : Layout) : v.ReadsBack l := by
  induction h generalizing l with
  | null => exact readsBack_of_scalar rfl (by decide) fun rest _ => rfl
  | bool b =>
    cases b
    · exact readsBack_of_scalar rfl (by decide) fun rest _ => rfl
    · exact readsBack_of_scalar rfl (by decide) fun rest _ => rfl
  | int n hn =>
    obtain ⟨c, ds, hchars, hsign⟩ := Numeral.exists_intChars_eq_cons n
    refine readsBack_of_scalar hchars ⟨isBlank_of_begins hsign, ?_, ?_⟩ fun rest => scalar?_int hn
    · exact Numeral.ne_of_begins hsign (by decide)
    · exact Numeral.ne_of_begins hsign (by decide)
  | text s =>
    refine readsBack_of_scalar rfl (by decide) fun rest _ => ?_
    have hstring := string?_stringChars s rest
    show scalar? (stringChars (glyphs s) ++ rest) = _
    simp [stringChars, scalar?, hstring, Value.text]
  | array items hitems ih => exact readsBack_array hitems fun v hv => ih v hv l.deeper
  | record fields hfields ih => exact readsBack_record fun f hf => ih f hf l.deeper

/-! ## Texts -/

theorem read?_ofList_chars {v : Value} (h : v.Faithful) (l : Layout) :
    read? (.ofList (v.chars l)) = some v := by
  have hread := h.readsBack l (2 * (v.chars l).length + 2) [] [] (by omega) (by simp)
    (by simp [EndsNumber])
  simp only [List.nil_append, List.append_nil] at hread
  simp [read?, spanText, hread, skipBlanks]

theorem read?_pretty {v : Value} (h : v.Faithful) : read? v.pretty = some v :=
  read?_ofList_chars h _

theorem read?_compact {v : Value} (h : v.Faithful) : read? v.compact = some v :=
  read?_ofList_chars h _

end PulseJoin.Text.Json
