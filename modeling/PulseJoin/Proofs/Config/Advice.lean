import Mathlib
import PulseJoin.Config.Advice
import PulseJoin.Config.Fault
import PulseJoin.Proofs.Text.Numeral

/-!
# Warnings about capacities

A remark in words stands for no other remark (`Config.Advice.text_injective`), so what is said about
capacities is what is found about them (`Config.capacity_warnings_exact`): a buffer limit below the
longest period, a queue below the buffer limit, and a buffer limit that is below the longest period
only in its signed reading.
-/

namespace PulseJoin

/-! ## Words -/

namespace Text.Numeral

theorem isDigit_of_mem_repr {n : Int} {c : Char} (h : c ∈ n.repr.toList) :
    c = '-' ∨ c.isDigit = true := by
  have hdigit {n : Nat} (h : c ∈ n.repr.toList) : c.isDigit = true := by
    rw [Nat.toList_repr] at h
    exact Nat.isDigit_of_mem_toDigits (by decide) (by decide) h
  rw [Int.repr_eq_if] at h
  split at h
  · exact .inr (hdigit h)
  · rw [String.toList_append, List.mem_append] at h
    rcases h with hminus | htail
    · exact .inl (List.mem_singleton.1 hminus)
    · exact .inr (hdigit htail)

theorem repr_append_inj {m n : Int} {s t : String} (hs : s.toList.head? = some ')')
    (ht : t.toList.head? = some ')') (h : m.repr ++ s = n.repr ++ t) : m = n ∧ s = t := by
  have hnumber {n : Int} : ∀ c ∈ n.repr.toList, (c == '-' || c.isDigit) = true := by
    intro c hc
    rcases isDigit_of_mem_repr hc with rfl | hdigit
    · rfl
    · rw [hdigit, Bool.or_true]
  have hbracket {s : String} (hs : s.toList.head? = some ')') :
      ∀ c ∈ s.toList.head?, (c == '-' || c.isDigit) = false := by
    intro c hc
    rw [hs] at hc
    cases hc
    rfl
  have hlist : m.repr.toList ++ s.toList = n.repr.toList ++ t.toList := by
    rw [← String.toList_append, h, String.toList_append]
  have hrepr : m.repr.toList = n.repr.toList := by
    rw [← takeWhile_append hnumber (hbracket hs), hlist, takeWhile_append hnumber (hbracket ht)]
  have hmn : m = n := Int.repr_injective (String.toList_inj.1 hrepr)
  subst hmn
  exact ⟨rfl, (String.append_right_inj _).1 h⟩

theorem repr_pair_inj {lead between tail : String} {m n m' n' : Int}
    (hbetween : between.toList.head? = some ')') (htail : tail.toList.head? = some ')')
    (h : lead ++ m.repr ++ between ++ ("(" ++ n.repr ++ tail) =
      lead ++ m'.repr ++ between ++ ("(" ++ n'.repr ++ tail)) : m = m' ∧ n = n' := by
  have hhead (s : String) : (between ++ s).toList.head? = some ')' := by
    rw [String.toList_append, List.head?_append, hbetween]
    rfl
  simp only [String.append_assoc, String.append_right_inj] at h
  obtain ⟨hm, hrest⟩ := repr_append_inj (hhead _) (hhead _) h
  simp only [String.append_right_inj] at hrest
  exact ⟨hm, (repr_append_inj htail htail hrest).1⟩

end Text.Numeral

namespace Config

namespace Advice

theorem text_shortBuffer (maxBuffered : UInt64) (longest : Int64) :
    (shortBuffer maxBuffered longest).text =
      "max_buffered_pulses (" ++ Int.repr maxBuffered.toNat ++
        ") is smaller than the longest channel period " ++
      ("(" ++ longest.toInt.repr ++
        ") - pulses of that channel may be evicted before it publishes") :=
  rfl

theorem text_shortQueue (capacity maxBuffered : UInt64) :
    (shortQueue capacity maxBuffered).text =
      "delivery.queue_capacity (" ++ Int.repr capacity.toNat ++
        ") is smaller than max_buffered_pulses " ++
      ("(" ++ Int.repr maxBuffered.toNat ++ ") - a slow consumer will lose bundles") :=
  rfl

/-- The fifth character of a remark in words.  No two kinds of remarks share it. -/
def mark : Advice → Char
  | .noAgeLimit => 'p'
  | .startupDiscards => '_'
  | .shortBuffer .. => 'b'
  | .shortQueue .. => 'v'

theorem getElem?_text (a : Advice) : a.text.toList[4]? = some a.mark := by
  cases a with
  | noAgeLimit => rfl
  | startupDiscards => rfl
  | shortBuffer maxBuffered longest =>
    simp only [text_shortBuffer, String.append_assoc, String.toList_append]
    rfl
  | shortQueue capacity maxBuffered =>
    simp only [text_shortQueue, String.append_assoc, String.toList_append]
    rfl

/-- A remark in words stands for no other remark. -/
theorem text_injective : Function.Injective text := by
  intro a b h
  have hmark : a.mark = b.mark := by
    rw [← Option.some_inj, ← getElem?_text, h, getElem?_text]
  -- Remarks of one kind differ in their numbers only.
  cases a with
  | noAgeLimit => cases b <;> simp [mark] at hmark ⊢
  | startupDiscards => cases b <;> simp [mark] at hmark ⊢
  | shortBuffer maxBuffered longest =>
    cases b with
    | shortBuffer maxBuffered' longest' =>
      rw [text_shortBuffer, text_shortBuffer] at h
      obtain ⟨hlimit, hlongest⟩ := Text.Numeral.repr_pair_inj (by simp) (by simp) h
      rw [UInt64.toNat_inj.1 (Int.ofNat.inj hlimit), Int64.toInt_inj.1 hlongest]
    | _ => simp [mark] at hmark
  | shortQueue capacity maxBuffered =>
    cases b with
    | shortQueue capacity' maxBuffered' =>
      rw [text_shortQueue, text_shortQueue] at h
      obtain ⟨hcapacity, hlimit⟩ := Text.Numeral.repr_pair_inj (by simp) (by simp) h
      rw [UInt64.toNat_inj.1 (Int.ofNat.inj hcapacity), UInt64.toNat_inj.1 (Int.ofNat.inj hlimit)]
    | _ => simp [mark] at hmark

end Advice

variable {c : Config}

theorem text_mem_warnings_iff {a : Advice} : a.text ∈ c.warnings ↔ a ∈ c.advice :=
  List.mem_map_of_injective Advice.text_injective

/-! ## Numbers -/

def IsLongestPeriod (c : Config) (period : Int64) : Prop :=
  (∃ s ∈ c.channels, s.period = period) ∧ ∀ s ∈ c.channels, s.period.toInt ≤ period.toInt

instance (c : Config) (period : Int64) : Decidable (c.IsLongestPeriod period) :=
  inferInstanceAs (Decidable (_ ∧ _))

instance : Std.LawfulOrderMax Int64 := by
  have hmax (m n : Int64) : max m n = if m ≤ n then n else m := rfl
  apply Std.LawfulOrderMax.of_max_le_iff
  · intro m n limit
    rw [hmax]
    simp only [Int64.le_iff_toInt_le]
    split <;> omega
  · intro m n
    rw [hmax]
    split
    · exact .inr rfl
    · exact .inl rfl

theorem isLongestPeriod_iff (h : c.channels ≠ []) {period : Int64} :
    c.IsLongestPeriod period ↔ period = c.longestPeriod := by
  have hgreatest : c.IsLongestPeriod period ↔ (c.channels.map (·.period)).max? = some period := by
    rw [List.max?_eq_some_iff, List.mem_map, List.forall_mem_map]
    simp only [IsLongestPeriod, Int64.le_iff_toInt_le]
  obtain ⟨longest, hlongest⟩ : ∃ longest, (c.channels.map (·.period)).max? = some longest := by
    rw [← Option.isSome_iff_exists, List.isSome_max?_iff, ne_eq, List.map_eq_nil_iff]
    exact h
  rw [hgreatest, longestPeriod, hlongest, Option.getD_some, Option.some_inj]
  exact eq_comm

/-- The signed reading of a limit is the limit itself, or `2 ^ 64` less if it is beyond the signed
numbers. -/
theorem toInt64_lt_iff (limit : UInt64) (period : Int64) :
    limit.toInt64 < period ↔ (limit.toNat : Int) < period.toInt ∨
      2 ^ 63 ≤ limit.toNat ∧ (limit.toNat : Int) - 2 ^ 64 < period.toInt := by
  have hread : limit.toInt64.toInt =
      if 2 * limit.toNat < 2 ^ 64 then (limit.toNat : Int) else limit.toNat - (2 ^ 64 : Nat) :=
    BitVec.toInt_eq_toNat_cond limit.toBitVec
  have hperiod : period.toInt < 2 ^ 63 := period.toInt_lt
  rw [Int64.lt_iff_toInt_lt, hread]
  split <;> omega

/-! ## Remarks -/

theorem shortBuffer_mem_advice_iff {maxBuffered : UInt64} {longest : Int64} :
    .shortBuffer maxBuffered longest ∈ c.advice ↔ maxBuffered = c.maxBuffered ∧
      longest = c.longestPeriod ∧ c.maxBuffered.toInt64 < c.longestPeriod := by
  have hadvice : .shortBuffer maxBuffered longest ∈ c.advice ↔
      c.maxBuffered.toInt64 < c.longestPeriod ∧ maxBuffered = c.maxBuffered ∧
        longest = c.longestPeriod := by
    unfold advice
    cases c.delivery <;> simp
  rw [hadvice, and_comm, and_assoc]

theorem shortQueue_mem_advice_iff {capacity maxBuffered : UInt64} :
    .shortQueue capacity maxBuffered ∈ c.advice ↔ maxBuffered = c.maxBuffered ∧
      c.delivery = .push capacity ∧ capacity < c.maxBuffered := by
  unfold advice
  cases c.delivery with
  | pull => simp
  | push queue =>
    constructor
    · intro hmem
      obtain ⟨hless, rfl, hlimit⟩ : queue < c.maxBuffered ∧ capacity = queue ∧
          maxBuffered = c.maxBuffered := by simpa using hmem
      exact ⟨hlimit, rfl, hless⟩
    · rintro ⟨rfl, hpush, hless⟩
      cases hpush
      exact List.mem_append_right _ (by simp [hless])

/-- The warnings about capacities, in words and with the numbers they name.  The buffer limit is
called smaller than the longest period exactly if it is, or if it is beyond the signed numbers and
the period is greater than its signed reading.  The capacity of the queue is called smaller than the
buffer limit exactly if bundles are pushed and it is. -/
theorem capacity_warnings_exact (h : c.channels ≠ []) :
    ∃ longest, c.IsLongestPeriod longest ∧
      (∀ limit period, (Advice.shortBuffer limit period).text ∈ c.warnings ↔
        limit = c.maxBuffered ∧ period = longest ∧
          ((c.maxBuffered.toNat : Int) < longest.toInt ∨
            2 ^ 63 ≤ c.maxBuffered.toNat ∧
              (c.maxBuffered.toNat : Int) - 2 ^ 64 < longest.toInt)) ∧
      ∀ capacity limit, (Advice.shortQueue capacity limit).text ∈ c.warnings ↔
        limit = c.maxBuffered ∧ c.delivery = .push capacity ∧
          capacity.toNat < c.maxBuffered.toNat := by
  refine ⟨c.longestPeriod, (isLongestPeriod_iff h).2 rfl, ?_, ?_⟩
  · intro limit period
    rw [text_mem_warnings_iff, shortBuffer_mem_advice_iff, toInt64_lt_iff]
  · intro capacity limit
    rw [text_mem_warnings_iff, shortQueue_mem_advice_iff, UInt64.lt_iff_toNat_lt]

/-- A limit one below the greatest period there can be is called smaller, with no other period; as
great a limit is not, and no queue is called small where bundles are pulled. -/
theorem capacity_warnings_exact_greatest_period :
    let channels : List Schedule := [⟨"a", 1, 0⟩, ⟨"b", 9223372036854775807, 0⟩, ⟨"c", -5, 0⟩]
    let short : Config := {
      channels, maxBuffered := 9223372036854775806, delivery := .push 9223372036854775805 }
    let roomy : Config := { channels, maxBuffered := 9223372036854775807, delivery := .pull }
    (short.channels ≠ [] ∧
      (Advice.shortBuffer 9223372036854775806 9223372036854775807).text ∈ short.warnings ∧
      (Advice.shortBuffer 9223372036854775806 1).text ∉ short.warnings ∧
      (Advice.shortQueue 9223372036854775805 9223372036854775806).text ∈ short.warnings) ∧
    roomy.channels ≠ [] ∧
      (∀ limit period, (Advice.shortBuffer limit period).text ∉ roomy.warnings) ∧
      ∀ capacity limit, (Advice.shortQueue capacity limit).text ∉ roomy.warnings := by
  intro channels short roomy
  have hshort : short.channels ≠ [] := List.cons_ne_nil _ _
  have hroomy : roomy.channels ≠ [] := List.cons_ne_nil _ _
  obtain ⟨longest, hlongest, hbuffer, hqueue⟩ := capacity_warnings_exact hshort
  obtain ⟨longest', hlongest', hbuffer', hqueue'⟩ := capacity_warnings_exact hroomy
  have hgreatest : longest = 9223372036854775807 := (isLongestPeriod_iff hshort).1 hlongest
  have hgreatest' : longest' = 9223372036854775807 := (isLongestPeriod_iff hroomy).1 hlongest'
  subst hgreatest hgreatest'
  refine ⟨⟨hshort, (hbuffer _ _).2 ⟨rfl, rfl, .inl (by decide)⟩, fun hone => ?_,
    (hqueue _ _).2 ⟨rfl, rfl, by decide⟩⟩, hroomy, fun limit period hlimit => ?_,
    fun capacity limit hcapacity => ?_⟩
  · exact absurd ((hbuffer _ _).1 hone).2.1 (by decide)
  · exact absurd ((hbuffer' _ _).1 hlimit).2.2 (by decide)
  · exact absurd ((hqueue' _ _).1 hcapacity).2.1 nofun

/-- A limit beyond the signed numbers is called smaller than a period of one. -/
theorem roomy_buffer_called_short :
    let c : Config := { channels := [⟨"A", 1, 0⟩], maxBuffered := 9223372036854775808 }
    c.fault? = none ∧ c.IsLongestPeriod 1 ∧ ¬ (c.maxBuffered.toNat : Int) < (1 : Int64).toInt ∧
      (Advice.shortBuffer c.maxBuffered 1).text ∈ c.warnings := by
  intro c
  refine ⟨by decide, by decide, by decide, ?_⟩
  exact text_mem_warnings_iff.2 (shortBuffer_mem_advice_iff.2 ⟨rfl, rfl, by decide⟩)

end Config

end PulseJoin
