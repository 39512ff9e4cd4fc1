import CodeAtlas.Proofs.Order
import CodeAtlas.Score
import Mathlib

set_option autoImplicit false

/-! # Ranking

A ranking puts the best score first, and scored ids of one score into the order of their ids. Doubles other than NaN
are totally ordered, with the two zeros at one place, and `Number.orderKey` says where each of them stands. So a
ranking of such scores forgets the order in which the ids came (`Scored.rank_eq_of_perm`). A NaN among the scores
would be neither above nor below any other, and the result would depend on how the sorting goes about it. -/

namespace CodeAtlas

/-! ## The order of doubles -/

namespace Number

open Float.Model (UnpackedFloat Format)
open Float.Model.UnpackedFloat

/-- Where an unpacked double stands: by its sign and whether it is finite, then by exponent and mantissa. -/
def orderKey : UnpackedFloat → ℤ ×ₗ ℤ ×ₗ ℤ
  | .infinity .negative => toLex (-2, toLex (0, 0))
  | .finite .negative m e _ => toLex (-1, toLex (-e, -(m : ℤ)))
  | .zero _ => toLex (0, toLex (0, 0))
  | .finite .positive m e _ => toLex (1, toLex (e, (m : ℤ)))
  | .infinity .positive => toLex (2, toLex (0, 0))
  | .notANumber => toLex (0, toLex (0, 0))

theorem compare_digits_eq_lt (e e' : ℤ) (m m' : ℕ) :
    (compare e e').then (compare m m') = .lt ↔ e < e' ∨ e = e' ∧ m < m' := by
  rw [Ordering.then_eq_lt, Int.compare_eq_lt, Int.compare_eq_eq, Nat.compare_eq_lt]

theorem compare_digits_eq_gt (e e' : ℤ) (m m' : ℕ) :
    (compare e e').then (compare m m') = .gt ↔ e' < e ∨ e = e' ∧ m' < m := by
  rw [Ordering.then_eq_gt, Int.compare_eq_gt, Int.compare_eq_eq, Nat.compare_eq_gt]

/-- One unpacked double is below another if neither is NaN and it stands below it. -/
theorem unpacked_lt_iff (a b : UnpackedFloat) :
    a.lt b = true ↔ a.isNaN = false ∧ b.isNaN = false ∧ orderKey a < orderKey b := by
  have hsign : compare Sign.negative Sign.positive = .lt := rfl
  rw [UnpackedFloat.lt]
  rcases a with ⟨_ | _⟩ | _ | _ | ⟨_ | _, m, e, hm⟩ <;> rcases b with ⟨_ | _⟩ | _ | _ | ⟨_ | _, m', e', hm'⟩ <;>
    simp [UnpackedFloat.compare, UnpackedFloat.isNaN, orderKey, Prod.Lex.toLex_lt_toLex, compare_digits_eq_lt,
      compare_digits_eq_gt, hsign]

/-- Where a double stands. -/
def floatKey (a : Float) : ℤ ×ₗ ℤ ×ₗ ℤ := orderKey a.toModel.unpack

theorem less_iff_unpack_lt (a b : Float) :
    Scoring.less a b = true ↔ a.toModel.unpack.lt b.toModel.unpack = true := by
  change decide (a < b) = true ↔ _
  rw [decide_eq_true_iff]
  change a.lt b = true ↔ _
  rw [Float.lt, decide_eq_true_iff]
  exact Iff.rfl

theorem less_iff (a b : Float) :
    Scoring.less a b = true ↔ a.isNaN = false ∧ b.isNaN = false ∧ floatKey a < floatKey b := by
  rw [less_iff_unpack_lt, unpacked_lt_iff]
  exact Iff.rfl

/-! ## What is no NaN -/

/-- Only NaN is packed as NaN. -/
theorem isNaN_unpack_pack {format : Format} {a : UnpackedFloat} (h : a.isNaN = false) :
    (unpack format (pack format a)).isNaN = false := by
  have hbits : unpackExponent (pack format a) ≠ -1#_ ∨ unpackMantissa (pack format a) = 0#_ := by
    fun_cases pack with
    | case1 => simp [UnpackedFloat.isNaN] at h
    | case2 s => exact .inr (by simp [packedInfinity])
    | case3 s => exact .inr (by simp [packedZero])
    | case4 s m e hm biased hlarge => exact .inr (by simp [packedInfinity])
    | case5 s m e hm digits biased hsmall hnormal =>
        refine .inl ?_
        suffices biased % 2 ^ format.exponentBits ≠ 2 ^ format.exponentBits - 1 by
          simp [BitVec.neg_one_eq_allOnes, ← BitVec.toNat_inj, this]
        rw [Nat.mod_eq_of_lt (by omega)]
        omega
    | case6 s m e hm digits biased hsmall hsubnormal =>
        refine .inl ?_
        have hwidth := Nat.one_lt_two_pow (Nat.pos_iff_ne_zero.1 format.he)
        simp [BitVec.neg_one_eq_allOnes, ← BitVec.toNat_inj]
        omega
  fun_cases unpack with
  | case1 => rfl
  | case2 mantissa exponent hexponent hmantissa =>
      exact absurd (hbits.resolve_left (not_not_intro hexponent)) hmantissa
  | case3 => rfl
  | case4 => rfl
  | case5 => rfl

/-- A product with a positive finite number is NaN only if the other factor is. -/
theorem isNaN_mul {a b : Float} (ha : a.isNaN = false) (hfinite : b.toModel.unpack.isFinite = true)
    (hpos : (UnpackedFloat.zero .positive).lt b.toModel.unpack = true) : (a * b).isNaN = false := by
  have hmul : (mul .binary64 a.toModel.unpack b.toModel.unpack).isNaN = false := by
    have ha : a.toModel.unpack.isNaN = false := ha
    generalize a.toModel.unpack = x at *
    generalize b.toModel.unpack = y at *
    rcases y with s | _ | s | ⟨s, m, e, hm⟩
    · simp [UnpackedFloat.isFinite] at hfinite
    · simp [UnpackedFloat.isFinite] at hfinite
    · simp [UnpackedFloat.lt, UnpackedFloat.compare] at hpos
    · rcases x with s' | _ | s' | ⟨s', m', e', hm'⟩
      · rfl
      · simp [UnpackedFloat.isNaN] at ha
      · rfl
      · simp only [mul, roundWithAccuracy]
        split <;> rfl
  exact isNaN_unpack_pack hmul

end Number

/-! ## Rankings -/

namespace Scored

open Number

/-- The order of a ranking, by where the scores stand. -/
def standsBefore (a b : Scored Float) : Bool :=
  floatKey b.score < floatKey a.score || floatKey a.score = floatKey b.score && Text.atMost a.id b.id

theorem standsBefore_iff (a b : Scored Float) : standsBefore a b = true ↔
    floatKey b.score < floatKey a.score ∨ floatKey a.score = floatKey b.score ∧ Text.atMost a.id b.id = true := by
  simp [standsBefore]

theorem standsBefore_trans (a b c : Scored Float) (hab : standsBefore a b = true) (hbc : standsBefore b c = true) :
    standsBefore a c = true := by
  rw [standsBefore_iff] at hab hbc ⊢
  exact key_then_id_trans (κ := (ℤ ×ₗ ℤ ×ₗ ℤ)ᵒᵈ) hab hbc

theorem standsBefore_total (a b : Scored Float) : (standsBefore a b || standsBefore b a) = true := by
  rw [Bool.or_eq_true, standsBefore_iff, standsBefore_iff]
  exact key_then_id_total (κ := (ℤ ×ₗ ℤ ×ₗ ℤ)ᵒᵈ) (floatKey a.score) (floatKey b.score) a.id b.id

theorem id_eq_of_standsBefore {a b : Scored Float} (hab : standsBefore a b = true) (hba : standsBefore b a = true) :
    a.id = b.id := by
  rw [standsBefore_iff] at hab hba
  exact key_then_id_antisymm (κ := (ℤ ×ₗ ℤ ×ₗ ℤ)ᵒᵈ) hab hba

/-- Numbers are ranked by where they stand. -/
theorem ranksBefore_eq {a b : Scored Float} (ha : a.score.isNaN = false) (hb : b.score.isNaN = false) :
    ranksBefore a b = standsBefore a b := by
  have hless : ∀ x y : Float, x.isNaN = false → y.isNaN = false →
      Scoring.less x y = decide (floatKey x < floatKey y) := fun x y hx hy => by
    rw [Bool.eq_iff_iff, less_iff, decide_eq_true_iff]
    exact ⟨fun h => h.2.2, fun h => ⟨hx, hy, h⟩⟩
  rw [ranksBefore, hless _ _ hb ha, hless _ _ ha hb, Bool.eq_iff_iff, standsBefore_iff]
  rcases lt_trichotomy (floatKey a.score) (floatKey b.score) with hlt | heq | hlt
  · simp [hlt, hlt.not_gt, hlt.ne]
  · simp [heq]
  · simp [hlt]

theorem rank_eq_mergeSort {l : List (Scored Float)} (hnumbers : ∀ s ∈ l, s.score.isNaN = false) :
    rank l = l.mergeSort standsBefore := by
  have hsort := List.map_mergeSort (f := fun s => s) (r := ranksBefore) (s := standsBefore) (l := l)
    fun a ha b hb => ranksBefore_eq (hnumbers a ha) (hnumbers b hb)
  simpa [rank] using hsort

/-- **A ranking of numbers forgets the order in which the ids came.** -/
theorem rank_eq_of_perm {l l' : List (Scored Float)} (hnumbers : ∀ s ∈ l, s.score.isNaN = false)
    (hnodup : (l.map Scored.id).Nodup) (hperm : l.Perm l') : rank l = rank l' := by
  rw [rank_eq_mergeSort hnumbers, rank_eq_mergeSort fun s hs => hnumbers s (hperm.mem_iff.2 hs)]
  refine mergeSort_eq_of_perm standsBefore_trans standsBefore_total (fun a ha b hb hab hba => ?_) hperm
  exact List.inj_on_of_nodup_map hnodup ha hb (id_eq_of_standsBefore hab hba)

end Scored

end CodeAtlas
