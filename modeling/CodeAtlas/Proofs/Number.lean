import CodeAtlas.Number.Shortest
import Mathlib.Tactic.SplitIfs

set_option autoImplicit false

/-! # Texts of numbers

What later proofs use of the text of a number: whole numbers below `2^53` are written digit by digit, so that their
texts tell them apart, and no number is written with a colon. -/

namespace CodeAtlas.Number

/-! ## Whole numbers -/

theorem text?_natCast {n : Nat} (h : n < Binary.limit) : text? n = some n.repr := by
  have hwhole : (n : Rat).den = 1 ∧ (n : Rat).num.natAbs < Binary.limit := ⟨Rat.den_natCast n, by simpa using h⟩
  rw [text?, if_pos hwhole, Rat.num_natCast]
  rfl

theorem text_natCast {n : Nat} (h : n < Binary.limit) : text n = n.repr := by
  rw [text, text?_natCast h, Option.getD_some]

theorem repr_inj {m n : Nat} (h : m.repr = n.repr) : m = n := by
  have hdigits := congrArg (fun s : String => Nat.ofDigitChars 10 s.toList 0) h
  simpa using hdigits

/-- Whole numbers below `2^53` are told apart by their texts. -/
theorem text_natCast_inj {m n : Nat} (hm : m < Binary.limit) (hn : n < Binary.limit) :
    text m = text n ↔ m = n := by
  rw [text_natCast hm, text_natCast hn]
  exact ⟨repr_inj, congrArg _⟩

/-! ## Characters -/

theorem colon_notMem_toDigits (n : Nat) : ':' ∉ Nat.toDigits 10 n := by
  intro h
  exact absurd (Nat.isDigit_of_mem_toDigits (by decide) (by decide) h) (by decide)

theorem colon_notMem_render (n : Positional) (d : Decimal) : ':' ∉ (n.render d).toList := by
  have htake (k : Nat) : ':' ∉ (Nat.toDigits 10 d.digits).take k :=
    fun h => colon_notMem_toDigits d.digits (List.mem_of_mem_take h)
  have hdrop (k : Nat) : ':' ∉ (Nat.toDigits 10 d.digits).drop k :=
    fun h => colon_notMem_toDigits d.digits (List.mem_of_mem_drop h)
  have htail : ':' ∉ (Nat.toDigits 10 d.digits).tail := List.drop_one ▸ hdrop 1
  unfold Positional.render
  simp only []
  split_ifs <;> simp [htake, hdrop, htail, colon_notMem_toDigits]

theorem colon_notMem_text (r : Rat) : ':' ∉ (text r).toList := by
  have htext : ∀ t ∈ text? r, ':' ∉ t.toList := by
    intro t ht
    unfold text? at ht
    split at ht
    · -- a whole number
      obtain rfl := Option.some.inj ht
      rw [Int.toString_eq_repr]
      unfold Int.repr
      split <;> simp [colon_notMem_toDigits]
    · simp only [] at ht
      split at ht
      · exact absurd ht (by simp)
      · obtain rfl := Option.some.inj ht
        split <;> simp [colon_notMem_render]
  unfold text
  cases h : text? r with
  | some t => exact htext t h
  | none => simp only [Option.getD_none]; split <;> decide

end CodeAtlas.Number
