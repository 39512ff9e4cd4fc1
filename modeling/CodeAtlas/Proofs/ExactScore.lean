import CodeAtlas.Proofs.Order
import CodeAtlas.Score
import Mathlib.Algebra.Order.Ring.Rat

set_option autoImplicit false

/-! # Exact scores

Every finite double is a fraction, and sums, products and quotients of fractions are fractions again. Over them scores
are computed without rounding, by the same definitions. A ranking of exact scores is what it should be
(`Scored.isRanking_rank`): no id comes twice, and every entry stands before those of a lower score and, among those of
its own, before the later ids. -/

namespace CodeAtlas

/-- Scores without rounding. -/
instance : Scoring ℚ where
  ofRat r := r
  less a b := a < b

namespace Scoring

@[simp] theorem ofRat_exact (r : ℚ) : (ofRat r : ℚ) = r := rfl

@[simp] theorem ofNat_exact (n : ℕ) : (ofNat n : ℚ) = n := rfl

@[simp] theorem less_exact (a b : ℚ) : less a b = decide (a < b) := rfl

@[simp] theorem larger_exact (a b : ℚ) : larger a b = max a b := by
  rw [larger, less_exact]
  rcases lt_or_ge a b with h | h
  · simp [h, h.le]
  · simp [h]

@[simp] theorem smaller_exact (a b : ℚ) : smaller a b = min a b := by
  rw [smaller, less_exact]
  rcases lt_or_ge b a with h | h
  · simp [h, h.le]
  · simp [h]

end Scoring

namespace Scored

/-- A list of scored ids, none of them twice, with the higher scores first and the ids of one score in order. -/
structure IsRanking (l : List (Scored ℚ)) : Prop where
  nodup : (l.map Scored.id).Nodup
  sorted : l.Pairwise fun a b => b.score < a.score ∨ a.score = b.score ∧ Text.before a.id b.id = true

/-- The first part of a ranking is a ranking. -/
theorem IsRanking.take {l : List (Scored ℚ)} (h : IsRanking l) (n : ℕ) : IsRanking (l.take n) :=
  ⟨h.nodup.sublist ((List.take_sublist n l).map _), h.sorted.sublist (List.take_sublist n l)⟩

theorem ranksBefore_iff (a b : Scored ℚ) : ranksBefore a b = true ↔
    b.score < a.score ∨ a.score = b.score ∧ Text.atMost a.id b.id = true := by
  simp only [ranksBefore, Scoring.less_exact, decide_eq_true_eq]
  rcases lt_trichotomy a.score b.score with hlt | heq | hlt
  · simp [hlt, hlt.not_gt, hlt.ne]
  · simp [heq]
  · simp [hlt]

theorem rank_perm (l : List (Scored ℚ)) : (rank l).Perm l := List.mergeSort_perm l _

/-- **Ranking scored ids gives a ranking of them.** -/
theorem isRanking_rank {l : List (Scored ℚ)} (hids : (l.map Scored.id).Nodup) : IsRanking (rank l) := by
  refine ⟨((rank_perm l).map _).nodup_iff.2 hids, ?_⟩
  exact @pairwise_mergeSort_key_then_id ℚᵒᵈ _ _ (fun s => OrderDual.toDual s.score) _ _ ranksBefore_iff _ hids

end Scored

end CodeAtlas
