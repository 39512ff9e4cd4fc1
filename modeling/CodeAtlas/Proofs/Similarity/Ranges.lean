import CodeAtlas.Proofs.Similarity.LongestBlock
import CodeAtlas.Text.Units

set_option autoImplicit false

/-! # Ranges and the parts they show

The work list goes through ranges of two texts. What they show are parts of the texts, and the common blocks of two
ranges are those of the parts, put where the parts stand (`commonIn_shift_iff`). So a block is the earliest of the
longest common blocks of two ranges exactly if it is that of the parts, counted from where they start
(`earliestLongestIn_shift_iff`). There is one, since the scan finds it, and it is empty exactly if the ranges have no
unit in common (`longestBlock_isEarliestLongest`). -/

namespace CodeAtlas.Similarity

variable {a b : List UInt16} {aLo aHi bLo bHi i j : Nat} {k k' : Block}

/-- The common block of two texts that no other one exceeds, and of those the one that starts first. -/
structure EarliestLongest (a b : List UInt16) (k : Block) : Prop where
  common : Common a b k
  longest : ∀ k', Common a b k' → k'.size ≤ k.size
  earliest : ∀ k', Common a b k' → k'.size = k.size → k.StartsBy k'

theorem EarliestLongest.unique (h : EarliestLongest a b k) (h' : EarliestLongest a b k') : k = k' :=
  have hsize : k.size = k'.size := Nat.le_antisymm (h'.longest k h.common) (h.longest k' h'.common)
  (h.earliest k' h'.common hsize.symm).antisymm (h'.earliest k h.common hsize) hsize

/-! ## Parts of a text -/

theorem length_extract {lo hi : Nat} (h : hi ≤ a.length) : (a.extract lo hi).length = hi - lo := by
  rw [List.extract, List.length_take, List.length_drop]
  omega

/-- A block of a range covers what it covers in the whole text. -/
theorem take_drop_extract {lo hi n size : Nat} (h : lo + n + size ≤ hi) :
    ((a.extract lo hi).drop n).take size = (a.drop (lo + n)).take size := by
  rw [List.extract, List.drop_take, List.drop_drop, List.take_take, Nat.min_eq_left (by omega)]

/-- What precedes a place in a range is a range. -/
theorem take_extract {lo hi n : Nat} (h : lo + n ≤ hi) : (a.extract lo hi).take n = a.extract lo (lo + n) := by
  rw [List.extract, List.extract, List.take_take, Nat.min_eq_left (by omega), Nat.add_sub_cancel_left]

/-- What follows a place in a range is a range. -/
theorem drop_extract (lo hi n : Nat) : (a.extract lo hi).drop n = a.extract (lo + n) hi := by
  rw [List.extract, List.extract, List.drop_take, List.drop_drop, Nat.sub_sub]

/-! ## Common blocks of ranges -/

/-- A block counted from other places of the two texts. -/
def Block.shift (k : Block) (i j : Nat) : Block := ⟨i + k.left, j + k.right, k.size⟩

@[simp] theorem Block.left_shift (k : Block) (i j : Nat) : (k.shift i j).left = i + k.left := rfl

@[simp] theorem Block.right_shift (k : Block) (i j : Nat) : (k.shift i j).right = j + k.right := rfl

@[simp] theorem Block.size_shift (k : Block) (i j : Nat) : (k.shift i j).size = k.size := rfl

theorem Block.startsBy_shift : (k.shift i j).StartsBy (k'.shift i j) ↔ k.StartsBy k' := by
  simp [Block.StartsBy]

/-- The common blocks of two ranges are those of the parts, put where the parts stand. -/
theorem commonIn_shift_iff (ha : aHi ≤ a.length) (hb : bHi ≤ b.length) (ha' : aLo ≤ aHi) (hb' : bLo ≤ bHi) :
    CommonIn a b aLo aHi bLo bHi (k.shift aLo bLo) ↔ Common (a.extract aLo aHi) (b.extract bLo bHi) k := by
  have hlengtha := @length_extract a aLo aHi ha
  have hlengthb := @length_extract b bLo bHi hb
  constructor
  · intro h
    have hleft : aLo + k.left + k.size ≤ aHi := h.left_end_le
    have hright : bLo + k.right + k.size ≤ bHi := h.right_end_le
    exact ⟨by omega, by omega, by rw [take_drop_extract hleft, take_drop_extract hright]; exact h.units_eq⟩
  · intro h
    have hleft := h.left_le
    have hright := h.right_le
    have hunits := h.units_eq
    rw [take_drop_extract (by omega), take_drop_extract (by omega)] at hunits
    refine ⟨⟨?_, ?_, hunits⟩, Nat.le_add_right _ _, ?_, Nat.le_add_right _ _, ?_⟩ <;>
      simp only [Block.left_shift, Block.right_shift, Block.size_shift] <;> omega

/-- Every block that lies in the ranges is a block of the parts, put where the parts stand. -/
theorem CommonIn.exists_shift (h : CommonIn a b aLo aHi bLo bHi k) : ∃ k' : Block, k = k'.shift aLo bLo := by
  refine ⟨⟨k.left - aLo, k.right - bLo, k.size⟩, ?_⟩
  rw [Block.shift, Nat.add_sub_cancel' h.left_ge, Nat.add_sub_cancel' h.right_ge]

theorem earliestLongestIn_shift_iff (ha : aHi ≤ a.length) (hb : bHi ≤ b.length) (ha' : aLo ≤ aHi) (hb' : bLo ≤ bHi) :
    EarliestLongestIn a b aLo aHi bLo bHi (k.shift aLo bLo) ↔
      EarliestLongest (a.extract aLo aHi) (b.extract bLo bHi) k := by
  constructor
  · intro h
    refine ⟨(commonIn_shift_iff ha hb ha' hb').1 h.common, fun k' hk' => ?_, fun k' hk' hsize => ?_⟩
    · exact h.longest (k'.shift aLo bLo) ((commonIn_shift_iff ha hb ha' hb').2 hk')
    · exact Block.startsBy_shift.1 (h.earliest _ ((commonIn_shift_iff ha hb ha' hb').2 hk') hsize)
  · intro h
    refine ⟨(commonIn_shift_iff ha hb ha' hb').2 h.common, fun k' hk' => ?_, fun k' hk' hsize => ?_⟩
    · obtain ⟨k', rfl⟩ := hk'.exists_shift
      exact h.longest k' ((commonIn_shift_iff ha hb ha' hb').1 hk')
    · obtain ⟨k', rfl⟩ := hk'.exists_shift
      exact Block.startsBy_shift.2 (h.earliest k' ((commonIn_shift_iff ha hb ha' hb').1 hk') hsize)

/-- The block that the scan finds in two ranges is one of the parts, counted from where they start. -/
theorem exists_longestBlock_eq_shift (ha : aLo ≤ aHi) (ha' : aHi ≤ a.length) (hb : bLo ≤ bHi) (hb' : bHi ≤ b.length) :
    ∃ k, longestBlock a b aLo aHi bLo bHi = k.shift aLo bLo ∧
      EarliestLongest (a.extract aLo aHi) (b.extract bLo bHi) k := by
  have hblock := earliestLongestIn_longestBlock ha ha' hb hb'
  obtain ⟨k, hk⟩ := hblock.common.exists_shift
  exact ⟨k, hk, (earliestLongestIn_shift_iff ha' hb' ha hb).1 (hk ▸ hblock)⟩

theorem EarliestLongest.size_eq_zero_iff (h : EarliestLongest a b k) : k.size = 0 ↔ ∀ x ∈ a, x ∉ b := by
  constructor
  · intro hsize x hxa hxb
    obtain ⟨i, hi, hxi⟩ := List.getElem_of_mem hxa
    obtain ⟨j, hj, hxj⟩ := List.getElem_of_mem hxb
    have hunit : Common a b ⟨i, j, 1⟩ :=
      ⟨hi, hj, by rw [List.drop_eq_getElem_cons hi, List.drop_eq_getElem_cons hj, hxi, hxj]; rfl⟩
    exact absurd (h.longest _ hunit) (by simp [hsize])
  · intro hapart
    refine Nat.eq_zero_of_not_pos fun hsize => ?_
    have hleft := h.common.left_le
    have hlength : ((a.drop k.left).take k.size).length = k.size := by
      rw [List.length_take, List.length_drop]
      omega
    obtain ⟨x, hx⟩ := List.exists_mem_of_length_pos (by omega : 0 < ((a.drop k.left).take k.size).length)
    refine hapart x (List.mem_of_mem_drop (List.mem_of_mem_take hx)) ?_
    rw [h.common.units_eq] at hx
    exact List.mem_of_mem_drop (List.mem_of_mem_take hx)

/-- **In two ranges the block that is found is the earliest of their longest common blocks.** It lies in the ranges and
    covers the same units in both texts, no common block of the ranges is longer, and of those of its size none starts
    earlier in the first text, or at the same place there and earlier in the second. It is empty exactly if the ranges
    have no unit in common. -/
theorem longestBlock_isEarliestLongest (ha : aLo ≤ aHi) (ha' : aHi ≤ a.length) (hb : bLo ≤ bHi) (hb' : bHi ≤ b.length) :
    EarliestLongestIn a b aLo aHi bLo bHi (longestBlock a b aLo aHi bLo bHi) ∧
      ((longestBlock a b aLo aHi bLo bHi).size = 0 ↔ ∀ x ∈ a.extract aLo aHi, x ∉ b.extract bLo bHi) := by
  obtain ⟨k, hk, hparts⟩ := exists_longestBlock_eq_shift ha ha' hb hb'
  refine ⟨earliestLongestIn_longestBlock ha ha' hb hb', ?_⟩
  rw [hk]
  exact hparts.size_eq_zero_iff

/-- Of `kitten` the part `itte` and of `sitting` the part `tting` have `tt` in common, which stands third in both. -/
theorem longestBlock_kitten_sitting :
    ((1 ≤ 5 ∧ 5 ≤ (Text.units "kitten").length) ∧ 2 ≤ 7 ∧ 7 ≤ (Text.units "sitting").length) ∧
      longestBlock (Text.units "kitten") (Text.units "sitting") 1 5 2 7 = ⟨2, 2, 2⟩ ∧
      EarliestLongestIn (Text.units "kitten") (Text.units "sitting") 1 5 2 7 ⟨2, 2, 2⟩ := by
  have hfound : longestBlock (Text.units "kitten") (Text.units "sitting") 1 5 2 7 = ⟨2, 2, 2⟩ := by decide +kernel
  refine ⟨⟨⟨by decide, by decide⟩, by decide, by decide⟩, hfound, ?_⟩
  have hblock := @longestBlock_isEarliestLongest (Text.units "kitten") (Text.units "sitting") 1 5 2 7
    (by decide) (by decide) (by decide) (by decide)
  exact hfound ▸ hblock.1

end CodeAtlas.Similarity
