import CodeAtlas.Proofs.ExactScore
import CodeAtlas.Proofs.Similarity.Ranges
import Mathlib.Algebra.Order.Field.Rat
import Mathlib.Tactic.Linarith
import Mathlib.Tactic.NormNum

set_option autoImplicit false

/-! # What common blocks cover

Two texts have in common what the earliest of their longest common blocks covers and, recursively, what is covered to
its left and to its right (`Covered`). That is one sequence of units, and it is a part of both texts in which units may
be left out. The work list takes up the ranges around a block one by one and ends (`EndsIn`); what it adds up is the
length of the sequence, since every range adds what is covered in the parts that it shows (`Covered.adds`).

So the similarity of two texts is a share of their units: nothing exactly if no unit is in both, and everything exactly
if they are the same text (`matched_eq_length_covered`). -/

namespace CodeAtlas.Similarity

variable {a b s t : List UInt16} {k : Block}

/-! ## Covered units -/

/-- The units of two texts that common blocks cover, from left to right. Texts without a common unit have none; others
    those of the earliest of their longest common blocks, after what is covered to its left and before what is covered
    to its right. -/
inductive Covered : List UInt16 → List UInt16 → List UInt16 → Prop
  | apart {a b : List UInt16} (h : ∀ x ∈ a, x ∉ b) : Covered a b []
  | around {a b l r : List UInt16} {k : Block} (hk : EarliestLongest a b k) (hpos : 0 < k.size)
      (hl : Covered (a.take k.left) (b.take k.right) l)
      (hr : Covered (a.drop (k.left + k.size)) (b.drop (k.right + k.size)) r) :
      Covered a b (l ++ ((a.drop k.left).take k.size ++ r))

/-- A text is put together from what precedes a block, what the block covers and what follows it. -/
theorem append_parts (a : List UInt16) (i n : Nat) : a.take i ++ ((a.drop i).take n ++ a.drop (i + n)) = a := by
  rw [← List.drop_drop, List.take_append_drop, List.take_append_drop]

theorem exists_earliestLongest (a b : List UInt16) : ∃ k, EarliestLongest a b k := by
  obtain ⟨k, -, hk⟩ := exists_longestBlock_eq_shift (Nat.zero_le _) (Nat.le_refl a.length) (Nat.zero_le _)
    (Nat.le_refl b.length)
  exact ⟨k, by simpa [List.extract] using hk⟩

theorem exists_covered (a b : List UInt16) : ∃ s, Covered a b s := by
  obtain ⟨k, hk⟩ := exists_earliestLongest a b
  have hleft := hk.common.left_le
  by_cases hsize : k.size = 0
  · exact ⟨[], .apart (hk.size_eq_zero_iff.1 hsize)⟩
  · obtain ⟨l, hl⟩ := exists_covered (a.take k.left) (b.take k.right)
    obtain ⟨r, hr⟩ := exists_covered (a.drop (k.left + k.size)) (b.drop (k.right + k.size))
    exact ⟨_, .around hk (Nat.pos_of_ne_zero hsize) hl hr⟩
termination_by a.length
decreasing_by
  · rw [List.length_take]
    omega
  · rw [List.length_drop]
    omega

namespace Covered

theorem unique (h : Covered a b s) : ∀ {t : List UInt16}, Covered a b t → t = s := by
  induction h with
  | apart hapart =>
      intro t h'
      cases h' with
      | apart => rfl
      | around hk hpos => exact absurd (hk.size_eq_zero_iff.2 hapart) hpos.ne'
  | around hk hpos _ _ ihl ihr =>
      intro t h'
      cases h' with
      | apart hapart => exact absurd (hk.size_eq_zero_iff.2 hapart) hpos.ne'
      | around hk' _ hl' hr' =>
          obtain rfl := hk.unique hk'
          rw [ihl hl', ihr hr']

theorem sublist_left (h : Covered a b s) : s.Sublist a := by
  induction h with
  | apart => exact List.nil_sublist _
  | @around a b l r k _ _ _ _ ihl ihr =>
      have hsub := ihl.append ((List.Sublist.refl ((a.drop k.left).take k.size)).append ihr)
      rwa [append_parts] at hsub

theorem sublist_right (h : Covered a b s) : s.Sublist b := by
  induction h with
  | apart => exact List.nil_sublist _
  | @around a b l r k hk _ _ _ ihl ihr =>
      have hsub := ihl.append ((List.Sublist.refl ((b.drop k.right).take k.size)).append ihr)
      rwa [append_parts, ← hk.common.units_eq] at hsub

theorem eq_nil_iff (h : Covered a b s) : s = [] ↔ ∀ x ∈ a, x ∉ b := by
  cases h with
  | apart hapart => exact iff_of_true rfl hapart
  | @around _ _ l r k hk hpos _ _ =>
      refine iff_of_false (fun hnil => ?_) fun hapart => hpos.ne' (hk.size_eq_zero_iff.2 hapart)
      have hleft := hk.common.left_le
      have hlength := congrArg List.length hnil
      rw [List.length_append, List.length_append, List.length_take, List.length_drop, List.length_nil] at hlength
      omega

theorem length_le (h : Covered a b s) : s.length ≤ a.length ∧ s.length ≤ b.length :=
  ⟨h.sublist_left.length_le, h.sublist_right.length_le⟩

/-- A text is covered by itself. -/
theorem self (a : List UInt16) : Covered a a a := by
  cases a with
  | nil => exact .apart (by simp)
  | cons x xs =>
      have hk : EarliestLongest (x :: xs) (x :: xs) ⟨0, 0, (x :: xs).length⟩ :=
        ⟨⟨by simp, by simp, rfl⟩, fun k hk => Nat.le_of_add_left_le hk.left_le, fun k _ _ => by
          unfold Block.StartsBy
          dsimp only
          omega⟩
      simpa using Covered.around hk (Nat.succ_pos _) (l := []) (r := []) (.apart (by simp)) (.apart (by simp))

end Covered

/-! ## The work list -/

namespace Window

/-- Does a window lie in two texts? -/
structure Fits (a b : List UInt16) (w : Window) : Prop where
  left_le : w.aLo ≤ w.aHi
  left_end_le : w.aHi ≤ a.length
  right_le : w.bLo ≤ w.bHi
  right_end_le : w.bHi ≤ b.length

/-- The parts of two texts that a window shows. -/
def parts (a b : List UInt16) (w : Window) : List UInt16 × List UInt16 :=
  (a.extract w.aLo w.aHi, b.extract w.bLo w.bHi)

/-- The block that is found in a window. -/
def block (a b : List UInt16) (w : Window) : Block := longestBlock a b w.aLo w.aHi w.bLo w.bHi

end Window

/-- Working through windows of two texts, after so much was added up, takes so many turns and ends with a result. -/
inductive EndsIn (a b : List UInt16) : Nat → Nat → List Window → Nat → Prop
  | done {total : Nat} : EndsIn a b 0 total [] total
  | unmatched {n total result : Nat} {w : Window} {rest : List Window} (hsize : (w.block a b).size = 0)
      (h : EndsIn a b n total rest result) : EndsIn a b (n + 1) total (w :: rest) result
  | matched {n total result : Nat} {w : Window} {rest : List Window} (hsize : (w.block a b).size ≠ 0)
      (h : EndsIn a b n (total + (w.block a b).size)
        (w.rightOf (w.block a b) ++ w.leftOf (w.block a b) ++ rest) result) :
      EndsIn a b (n + 1) total (w :: rest) result

theorem matchedFrom_eq_of_endsIn {n total result fuel : Nat} {queue : List Window}
    (h : EndsIn a b n total queue result) (hn : n ≤ fuel) : matchedFrom a b fuel total queue = result := by
  induction h generalizing fuel with
  | done => cases fuel <;> rfl
  | unmatched hsize _ ih =>
      obtain ⟨fuel, rfl⟩ : ∃ m, fuel = m + 1 := ⟨fuel - 1, by omega⟩
      exact (if_pos hsize).trans (ih (by omega))
  | matched hsize _ ih =>
      obtain ⟨fuel, rfl⟩ : ∃ m, fuel = m + 1 := ⟨fuel - 1, by omega⟩
      exact (if_neg hsize).trans (ih (by omega))

/-- Some windows take so many turns and add so much, whatever comes after them. -/
def Adds (a b : List UInt16) (turns : Nat) (windows : List Window) (amount : Nat) : Prop :=
  ∀ (n total result : Nat) (rest : List Window),
    EndsIn a b n (total + amount) rest result → EndsIn a b (turns + n) total (windows ++ rest) result

namespace Adds

variable {m n turns turns' : Nat} {w : Window} {windows windows' : List Window}

theorem nil : Adds a b 0 [] 0 := fun n total result rest hrest => by rwa [Nat.zero_add]

theorem append (h : Adds a b turns windows m) (h' : Adds a b turns' windows' n) :
    Adds a b (turns + turns') (windows ++ windows') (m + n) := fun _ total result rest hrest => by
  rw [← Nat.add_assoc] at hrest
  rw [Nat.add_assoc, List.append_assoc]
  exact h _ _ _ _ (h' _ _ _ _ hrest)

theorem unmatched (hsize : (w.block a b).size = 0) : Adds a b 1 [w] 0 := fun _ total result rest hrest => by
  rw [Nat.add_comm]
  exact .unmatched hsize hrest

theorem matched (hsize : (w.block a b).size ≠ 0)
    (h : Adds a b turns (w.rightOf (w.block a b) ++ w.leftOf (w.block a b)) m) :
    Adds a b (turns + 1) [w] ((w.block a b).size + m) := fun _ total result rest hrest => by
  rw [← Nat.add_assoc] at hrest
  rw [Nat.add_right_comm]
  exact .matched hsize (h _ _ _ _ hrest)

/-- A window that is taken up only if both texts have something need not be if nothing is covered else. -/
theorem ite {p : Prop} [Decidable p] (h : ∃ turns ≤ 2 * m + 1, Adds a b turns [w] m) (hm : ¬ p → m = 0) :
    ∃ turns ≤ 2 * m + 1, Adds a b turns (if p then [w] else []) m := by
  split
  · exact h
  · next hp =>
      rw [hm hp]
      exact ⟨0, Nat.zero_le _, .nil⟩

end Adds

/-- A window of two texts takes at most two turns for every unit that is covered in what it shows and one more, and
    adds the covered units up. -/
theorem Covered.adds {x y : List UInt16} (h : Covered x y s) :
    ∀ {w : Window}, w.Fits a b → w.parts a b = (x, y) → ∃ turns ≤ 2 * s.length + 1, Adds a b turns [w] s.length := by
  induction h with
  | @apart x y hapart =>
      rintro w ⟨ha, ha', hb, hb'⟩ hparts
      obtain ⟨rfl, rfl⟩ := Prod.mk.inj hparts
      obtain ⟨k, hk, hlongest⟩ := exists_longestBlock_eq_shift ha ha' hb hb'
      refine ⟨1, by simp, .unmatched ?_⟩
      rw [Window.block, hk]
      exact hlongest.size_eq_zero_iff.2 hapart
  | @around x y l r k hk hpos hl hr ihl ihr =>
      rintro w ⟨ha, ha', hb, hb'⟩ hparts
      obtain ⟨rfl, rfl⟩ := Prod.mk.inj hparts
      -- the block of the window is the block of its parts, counted from where the window starts
      have hblock : w.block a b = k.shift w.aLo w.bLo :=
        (earliestLongestIn_longestBlock ha ha' hb hb').unique ((earliestLongestIn_shift_iff ha' hb' ha hb).2 hk)
      have hleft := hk.common.left_le
      have hright := hk.common.right_le
      have hlengthl := hl.length_le
      have hlengthr := hr.length_le
      simp only [List.length_take, List.length_drop, length_extract ha', length_extract hb']
        at hleft hright hlengthl hlengthr
      obtain ⟨turnsl, hturnsl, haddsl⟩ := Adds.ite (p := w.aLo < w.aLo + k.left ∧ w.bLo < w.bLo + k.right)
        (@ihl ⟨w.aLo, w.aLo + k.left, w.bLo, w.bLo + k.right⟩
          ⟨by dsimp only; omega, by dsimp only; omega, by dsimp only; omega, by dsimp only; omega⟩
          (by rw [Window.parts, take_extract (by omega), take_extract (by omega)]))
        fun hempty => by omega
      obtain ⟨turnsr, hturnsr, haddsr⟩ := Adds.ite
        (p := w.aLo + k.left + k.size < w.aHi ∧ w.bLo + k.right + k.size < w.bHi)
        (@ihr ⟨w.aLo + k.left + k.size, w.aHi, w.bLo + k.right + k.size, w.bHi⟩
          ⟨by dsimp only; omega, by dsimp only; omega, by dsimp only; omega, by dsimp only; omega⟩
          (by rw [Window.parts, drop_extract, drop_extract, Nat.add_assoc, Nat.add_assoc]))
        fun hempty => by omega
      have hadds : Adds a b (turnsr + turnsl + 1) [w] ((w.block a b).size + (r.length + l.length)) := by
        refine Adds.matched (by rw [hblock]; exact hpos.ne') ?_
        rw [hblock]
        exact haddsr.append haddsl
      have hlength : (l ++ (((a.extract w.aLo w.aHi).drop k.left).take k.size ++ r)).length
          = (w.block a b).size + (r.length + l.length) := by
        rw [hblock, Block.size_shift, List.length_append, List.length_append, List.length_take, List.length_drop,
          length_extract ha']
        omega
      rw [hlength]
      have hsize : (w.block a b).size = k.size := by rw [hblock, Block.size_shift]
      exact ⟨_, by omega, hadds⟩

theorem matched_spec (h : Covered a b s) :
    (∃ turns ≤ a.length + b.length + 1, EndsIn a b turns 0 [⟨0, a.length, 0, b.length⟩] s.length) ∧
      matched a b = s.length := by
  obtain ⟨turns, hturns, hadds⟩ := h.adds (w := ⟨0, a.length, 0, b.length⟩)
    ⟨Nat.zero_le _, Nat.le_refl _, Nat.zero_le _, Nat.le_refl _⟩ (by simp [Window.parts, List.extract])
  have hlength := h.length_le
  have hloop : EndsIn a b turns 0 [⟨0, a.length, 0, b.length⟩] s.length :=
    hadds 0 0 _ [] (by rw [Nat.zero_add]; exact .done)
  exact ⟨⟨turns, by omega, hloop⟩, matchedFrom_eq_of_endsIn hloop (by omega)⟩

/-! ## Similarity -/

theorem matched_le (a b : List UInt16) : matched a b ≤ a.length ∧ matched a b ≤ b.length := by
  obtain ⟨s, hs⟩ := exists_covered a b
  rw [(matched_spec hs).2]
  exact hs.length_le

theorem matched_eq_zero_iff (a b : List UInt16) : matched a b = 0 ↔ ∀ x ∈ a, x ∉ b := by
  obtain ⟨s, hs⟩ := exists_covered a b
  rw [(matched_spec hs).2, List.length_eq_zero_iff, hs.eq_nil_iff]

/-- Only a text itself covers a text all over. -/
theorem two_mul_matched_eq_iff (a b : List UInt16) : 2 * matched a b = a.length + b.length ↔ a = b := by
  obtain ⟨s, hs⟩ := exists_covered a b
  rw [(matched_spec hs).2]
  constructor
  · intro htwice
    have hlength := hs.length_le
    rw [← hs.sublist_left.eq_of_length (by omega), ← hs.sublist_right.eq_of_length (by omega)]
  · rintro rfl
    rw [(Covered.self a).unique hs]
    omega

theorem ratio_exact (a b : List UInt16) : (ratio a b : ℚ) =
    if a.length + b.length = 0 then 1 else ((2 * matched a b : ℕ) : ℚ) / ((a.length + b.length : ℕ) : ℚ) := rfl

theorem ratio_nonneg (a b : List UInt16) : 0 ≤ (ratio a b : ℚ) := by
  rw [ratio_exact]
  split
  · exact zero_le_one
  · exact div_nonneg (Nat.cast_nonneg _) (Nat.cast_nonneg _)

theorem ratio_le_one (a b : List UInt16) : (ratio a b : ℚ) ≤ 1 := by
  have hle := matched_le a b
  rw [ratio_exact]
  split
  · exact le_rfl
  · exact div_le_one_of_le₀ (Nat.cast_le.2 (by omega)) (Nat.cast_nonneg _)

theorem ratio_eq_zero_iff (a b : List UInt16) :
    (ratio a b : ℚ) = 0 ↔ (∀ x ∈ a, x ∉ b) ∧ ¬ (a = [] ∧ b = []) := by
  rw [ratio_exact, ← matched_eq_zero_iff]
  split
  · next hempty =>
      rw [Nat.add_eq_zero_iff, List.length_eq_zero_iff, List.length_eq_zero_iff] at hempty
      simp [hempty]
  · next hsome =>
      have hne : ¬ (a = [] ∧ b = []) := fun hempty => hsome (by rw [hempty.1, hempty.2]; rfl)
      rw [div_eq_zero_iff, Nat.cast_eq_zero, Nat.cast_eq_zero, or_iff_left hsome, and_iff_left hne]
      omega

theorem ratio_eq_one_iff (a b : List UInt16) : (ratio a b : ℚ) = 1 ↔ a = b := by
  rw [ratio_exact]
  split
  · next hempty =>
      rw [Nat.add_eq_zero_iff, List.length_eq_zero_iff, List.length_eq_zero_iff] at hempty
      rw [hempty.1, hempty.2]
      simp
  · next hsome =>
      rw [div_eq_one_iff_eq (Nat.cast_ne_zero.2 hsome), Nat.cast_inj, two_mul_matched_eq_iff]

/-- **The count of matching units is the length of what common blocks cover.** The work list ends, and what it adds up
    is the length of the one sequence of units that the earliest of the longest common blocks covers together with
    what is covered to its left and to its right. The sequence is a part of both texts, so the similarity of two texts
    lies between 0 and 1. It is 0 exactly if they have no unit in common and are not both empty, and 1 exactly if they
    are the same. -/
theorem matched_eq_length_covered (a b : List UInt16) :
    (∃ s, (∀ t, Covered a b t ↔ t = s) ∧
      (∃ turns ≤ a.length + b.length + 1, EndsIn a b turns 0 [⟨0, a.length, 0, b.length⟩] s.length) ∧
      matched a b = s.length ∧ s.Sublist a ∧ s.Sublist b) ∧
    matched a b ≤ min a.length b.length ∧
    0 ≤ (ratio a b : ℚ) ∧ (ratio a b : ℚ) ≤ 1 ∧
    ((ratio a b : ℚ) = 0 ↔ (∀ x ∈ a, x ∉ b) ∧ ¬ (a = [] ∧ b = [])) ∧
    ((ratio a b : ℚ) = 1 ↔ a = b) := by
  obtain ⟨s, hs⟩ := exists_covered a b
  obtain ⟨hends, hmatched⟩ := matched_spec hs
  obtain ⟨hleft, hright⟩ := matched_le a b
  exact ⟨⟨s, fun t => ⟨hs.unique, fun ht => ht ▸ hs⟩, hends, hmatched, hs.sublist_left, hs.sublist_right⟩,
    le_min hleft hright, ratio_nonneg a b, ratio_le_one a b, ratio_eq_zero_iff a b, ratio_eq_one_iff a b⟩

-- of `kitten` and `sitting` the blocks `itt` and `n` are covered
example : (ratio (Text.units "kitten") (Text.units "sitting") : ℚ) = 8 / 13 := by decide +kernel

end CodeAtlas.Similarity
