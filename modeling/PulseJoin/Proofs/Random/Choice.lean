import PulseJoin.Random.Choice

/-!
# What random choices keep

A random order is an order of the same items, whatever the stream (`shuffle_perm`), and random
orders of blocks leave every item in its block (`shuffleBlocks_keeps`).  Every number from zero to
one is a probability.
-/

namespace PulseJoin.Random

variable {α : Type}

/-! ## Orders -/

theorem swapIfInBounds_perm (xs : Array α) (i j : Nat) :
    (xs.swapIfInBounds i j).toList.Perm xs.toList := by
  unfold Array.swapIfInBounds
  split
  · split
    · exact (Array.swap_perm _ _).toList
    · exact .refl _
  · exact .refl _

theorem swapEach_perm (p : Picker) (xs : Array α) : (swapEach p xs).1.toList.Perm xs.toList := by
  unfold swapEach
  refine List.foldlRecOn (motive := fun (q : Array α × Picker) => q.1.toList.Perm xs.toList)
    _ _ (.refl _) ?_
  intro q hq i _
  exact (swapIfInBounds_perm q.1 i _).trans hq

theorem Stream.shuffle_perm (s : Stream) (xs : List α) : (s.shuffle xs).1.Perm xs := by
  unfold shuffle
  split
  · exact .refl _
  · exact .refl _
  · exact swapEach_perm { stream := s } xs.toArray

/-- The two lists have the same items in each block of `window` places. -/
def SameBlocks (window : Nat) (xs ys : List α) : Prop :=
  ∀ j, ((xs.drop (j * window)).take window).Perm ((ys.drop (j * window)).take window)

theorem SameBlocks.refl (window : Nat) (xs : List α) : SameBlocks window xs xs := fun _ => .refl _

theorem SameBlocks.append {window : Nat} {block xs ys : List α}
    (hblock : block.Perm (ys.take window)) (hperm : xs.Perm (ys.drop window))
    (h : SameBlocks window xs (ys.drop window)) : SameBlocks window (block ++ xs) ys := by
  have hlength := hblock.length_eq
  have hrest := hperm.length_eq
  rw [List.length_take] at hlength
  rw [List.length_drop] at hrest
  -- Only the last block may be shorter.
  have hfull : xs = [] ∨ block.length = window := by
    by_cases hroom : window ≤ ys.length
    · right
      omega
    · left
      exact List.length_eq_zero_iff.1 (by omega)
  intro j
  cases j with
  | zero =>
    have htake : (block ++ xs).take window = block := by
      rw [List.take_append, List.take_of_length_le (by omega)]
      rcases hfull with rfl | hfull
      · rw [List.take_nil, List.append_nil]
      · rw [hfull, Nat.sub_self, List.take_zero, List.append_nil]
    rw [Nat.zero_mul, List.drop_zero, List.drop_zero, htake]
    exact hblock
  | succ j =>
    have hdrop : (block ++ xs).drop window = xs := by
      rw [List.drop_append, List.drop_of_length_le (by omega), List.nil_append]
      rcases hfull with rfl | hfull
      · rw [List.drop_nil]
      · rw [hfull, Nat.sub_self, List.drop_zero]
    rw [Nat.succ_mul, Nat.add_comm, ← List.drop_drop, ← List.drop_drop, hdrop]
    exact h j

theorem Stream.exists_shuffleBlocksAfter (s : Stream) (window : Nat) (done : Array α)
    (xs : List α) :
    ∃ ys, (s.shuffleBlocksAfter window done xs).1.toList = done.toList ++ ys ∧ ys.Perm xs ∧
      SameBlocks window ys xs := by
  induction s, done, xs using Stream.shuffleBlocksAfter.induct window with
  | case1 s done => exact ⟨[], by rw [shuffleBlocksAfter, List.append_nil], .refl _, .refl _ _⟩
  | case2 s done x xs hwindow =>
    refine ⟨x :: xs, ?_, .refl _, .refl _ _⟩
    rw [shuffleBlocksAfter, dif_pos hwindow]
    simp
  | case3 s done x xs hwindow block s' hblock ih =>
    -- The block is an order of the first items, and what follows is one of the others.
    have hfirst : block.Perm ((x :: xs).take window) := by
      have hshuffle := s.shuffle_perm ((x :: xs).take window)
      rwa [hblock] at hshuffle
    obtain ⟨ys, hys, hperm, hblocks⟩ := ih
    refine ⟨block ++ ys, ?_, ?_, hblocks.append hfirst hperm⟩
    · rw [shuffleBlocksAfter, dif_neg hwindow, hblock]
      simp [hys]
    · exact (hfirst.append hperm).trans (.of_eq (List.take_append_drop window (x :: xs)))

/-- Random orders of blocks are an order of the whole list, and no item leaves its block. -/
theorem Stream.shuffleBlocks_keeps (s : Stream) (window : Nat) (xs : List α) :
    (s.shuffleBlocks window xs).1.Perm xs ∧ SameBlocks window (s.shuffleBlocks window xs).1 xs := by
  obtain ⟨ys, hys, hperm, hblocks⟩ := s.exists_shuffleBlocksAfter window #[] xs
  rw [List.nil_append] at hys
  have hshuffled : (s.shuffleBlocks window xs).1 = ys := hys
  rw [hshuffled]
  exact ⟨hperm, hblocks⟩

/-! ## Chances -/

theorem beq_or_lt_of_le {x y : Float} (h : x ≤ y) : (x == y) = true ∨ x < y := by
  have hle : (x.toModel.unpack.compare y.toModel.unpack).any (·.isLE) = true :=
    of_decide_eq_true (p := x.toModel ≤ y.toModel) h
  cases hcompare : x.toModel.unpack.compare y.toModel.unpack with
  | none =>
    rw [hcompare] at hle
    cases hle
  | some order =>
    rw [hcompare] at hle
    cases order with
    | lt =>
      have hlt : x.toModel < y.toModel :=
        beq_iff_eq.2 hcompare
      exact .inr (decide_eq_true hlt)
    | eq =>
      have heq : (x.toModel.unpack.compare y.toModel.unpack == some .eq) = true :=
        beq_iff_eq.2 hcompare
      exact .inl heq
    | gt => cases hle

theorem Chance.exists_ofFloat? {p : Float} (h : p ≤ 1) : ∃ chance, ofFloat? p = some chance := by
  unfold ofFloat?
  by_cases hzero : p ≤ 0
  · exact ⟨.never, if_pos hzero⟩
  rw [if_neg hzero]
  rcases beq_or_lt_of_le h with hone | hlt
  · exact ⟨.always, if_pos hone⟩
  · by_cases hone : p == 1
    · exact ⟨.always, if_pos hone⟩
    · exact ⟨_, by rw [if_neg hone, if_pos hlt]⟩

end PulseJoin.Random
