import CodeAtlas.Proofs.Number.Arithmetic
import CodeAtlas.Proofs.Ranking

set_option autoImplicit false

/-! # Doubles above zero

Where a result can be too large for a double, or too small for a normal one, its exponent is no longer bounded, but its
sign still is known. A sum of doubles that are not below zero is none, nor is a product or a quotient with a positive
number; rounding leaves the sign as it is, and an overflow gives the positive infinity. A positive number with something
not below zero added to it stays above zero: it has digits to keep, so the sum is not rounded to zero. -/

namespace CodeAtlas.Number

open Float.Model (UnpackedFloat Format totalExponent)
open Float.Model.UnpackedFloat

/-- What is not below zero: a zero of either sign, a positive number, or the positive infinity. -/
inductive NotBelowZero : UnpackedFloat → Prop
  | zero (s : Sign) : NotBelowZero (.zero s)
  | finite (m : ℕ) (e : ℤ) (h : 0 < m) : NotBelowZero (.finite .positive m e h)
  | infinity : NotBelowZero (.infinity .positive)

/-- What is above zero: a positive number or the positive infinity. -/
inductive AboveZero : UnpackedFloat → Prop
  | finite (m : ℕ) (e : ℤ) (h : 0 < m) : AboveZero (.finite .positive m e h)
  | infinity : AboveZero (.infinity .positive)

theorem aboveZero_unpacked {b : Binary} (h : 0 < b.m) : AboveZero (unpacked .positive b) := by
  rw [unpacked, dif_pos h]
  exact .finite ..

theorem notBelowZero_unpacked (b : Binary) : NotBelowZero (unpacked .positive b) := by
  rw [unpacked]
  split_ifs
  exacts [.finite .., .zero _]

/-! ## Rounding -/

/-- Shifted by the digits it has beyond 53, a positive number stays positive. -/
theorem shifted_pos {m : ℕ} (hm : 0 < m) : 0 < m / 2 ^ (m.log2 - 52) ∧ m / 2 ^ (m.log2 - 52) < 2 ^ 53 := by
  by_cases hwide : 2 ^ 52 ≤ m
  · have hbounds := shifted_bounds hwide
    exact ⟨Nat.lt_of_lt_of_le (by decide) hbounds.1, hbounds.2⟩
  · have hlog : m.log2 < 52 := (Nat.log2_lt hm.ne').2 (by omega)
    rw [Nat.sub_eq_zero_of_le hlog.le, Nat.pow_zero, Nat.div_one]
    omega

/-- From the least exponent on, a number is shifted by the digits it has beyond 53. -/
theorem shiftToTargetExponent_of_least {m : ℕ} {e : ℤ} (a : Accuracy) (he : -1074 ≤ e) :
    (shiftToTargetExponent .binary64 m e a).1.mantissa = m / 2 ^ (m.log2 - 52) ∧
      -1074 ≤ (shiftToTargetExponent .binary64 m e a).2 := by
  have hshift : (max (e + m.log2 - 52) (-1074) - e).toNat = m.log2 - 52 := by omega
  unfold shiftToTargetExponent shiftToExponent
  simp only [targetExponent_eq, hshift, mantissa_shiftRight, mantissa_ofMantissaAndAccuracy]
  exact ⟨trivial, by omega⟩

/-- Digits that are not all zero and fit into a double, in units that are no smaller than the least. -/
structure Binary.Digits (b : Binary) : Prop where
  pos : 0 < b.m
  m_lt : b.m < 2 ^ 53
  least : -1074 ≤ b.q

/-- A positive number of units that are no smaller than the least is not rounded to zero. -/
theorem roundWithAccuracy_digits (s : Sign) {m : ℕ} {e : ℤ} (a : Accuracy) (hm : 0 < m) (he : -1074 ≤ e) :
    ∃ b, Binary.Digits b ∧ roundWithAccuracy .binary64 s m e a = unpacked s b := by
  obtain ⟨hdigits, hexponent⟩ := shiftToTargetExponent_of_least (m := m) a he
  obtain ⟨em, he₁⟩ : ∃ em, em = shiftToTargetExponent .binary64 m e a := ⟨_, rfl⟩
  have hrounded : 0 < em.1.roundedMantissa := by
    have hkept := (shifted_pos hm).1
    rw [← hdigits, ← he₁] at hkept
    exact hkept.trans_le (roundedMantissa_bounds em.1).1
  rw [← he₁] at hexponent
  obtain ⟨hdigits', hexponent'⟩ := shiftToTargetExponent_of_least (m := em.1.roundedMantissa) .exact hexponent
  obtain ⟨hpos, hlt⟩ := shifted_pos hrounded
  refine ⟨⟨_, _⟩, ⟨hpos, hlt, hexponent'⟩, ?_⟩
  unfold roundWithAccuracy unpacked
  simp only [← he₁, hdigits']
  rw [dif_neg hpos.ne', dif_pos hpos]

theorem round_digits (s : Sign) {m : ℕ} {e : ℤ} (hm : 0 < m) (he : -1074 ≤ e) :
    ∃ b, Binary.Digits b ∧ UnpackedFloat.round .binary64 s m e = unpacked s b := by
  unfold UnpackedFloat.round decreaseExponent
  refine roundWithAccuracy_digits s .exact ?_ ?_
  · rw [Nat.shiftLeft_eq]
    positivity
  · rw [targetExponent_eq]
    omega

theorem notBelowZero_roundWithAccuracy (m : ℕ) (e : ℤ) (a : Accuracy) :
    NotBelowZero (roundWithAccuracy .binary64 .positive m e a) := by
  unfold roundWithAccuracy
  simp only []
  split_ifs
  exacts [.zero _, .finite ..]

theorem notBelowZero_normalize (m : ℕ) (e : ℤ) :
    NotBelowZero (UnpackedFloat.normalize .binary64 m e .positive) := by
  unfold UnpackedFloat.normalize
  split
  · next hlt => exact absurd (Int.compare_eq_lt.1 hlt) (by omega)
  · exact .zero _
  · exact notBelowZero_roundWithAccuracy ..

/-! ## Packing -/

theorem unpack_packedInfinity (s : Sign) : unpack .binary64 (packedInfinity .binary64 s) = .infinity s := by
  cases s <;> rfl

theorem unpack_packedZero (s : Sign) : unpack .binary64 (packedZero .binary64 s) = .zero s := by
  cases s <;> rfl

/-- A positive number is packed with its sign, and not as a zero if its digits are those of a double. -/
theorem unpack_pack_finite {m : ℕ} {e : ℤ} (h : 0 < m) :
    unpack .binary64 (pack .binary64 (.finite .positive m e h)) = .infinity .positive ∨
      ∃ b : Binary, unpack .binary64 (pack .binary64 (.finite .positive m e h)) = unpacked .positive b ∧
        (m < 2 ^ 53 → -1074 ≤ e → 0 < b.m) := by
  obtain ⟨biased, hbiased⟩ : ∃ k, k = (e + (Format.binary64.exponentBias : ℤ) +
    (Format.binary64.mantissaBitsWithoutImplicit : ℤ)).toNat := ⟨_, rfl⟩
  have hbias : biased = (e + 1075).toNat := by rw [hbiased, add_assoc]; rfl
  have hbits : Format.binary64.mantissaBits = 53 := rfl
  rw [pack]
  simp only [← hbiased, hbits]
  split_ifs with hlarge hnormal
  · exact .inl (unpack_packedInfinity _)
  · have hsmall : ¬ 2 ^ 11 ≤ biased + 1 := hlarge
    have hfield : (BitVec.ofNat 11 biased).toNat = biased := by
      rw [BitVec.toNat_ofNat]
      omega
    refine .inr ⟨_, unpack_packComponents _ _ ?_, fun _ hleast => ?_⟩
    · omega
    · rw [hfield, ofFields, if_neg (by omega)]
      exact Nat.lt_of_lt_of_le (by decide) (Nat.le_add_left _ _)
  · refine .inr ⟨_, unpack_packComponents _ _ (by decide), fun hlt _ => ?_⟩
    -- without the leading digit no digit is dropped
    have hlog : m.log2 < 53 := (Nat.log2_lt h.ne').2 hlt
    have hfew : m < 2 ^ 52 := (Nat.log2_lt h.ne').1 (by omega)
    change 0 < (BitVec.ofNat 52 m).toNat
    rw [BitVec.toNat_ofNat]
    omega

theorem NotBelowZero.unpack_pack {u : UnpackedFloat} (h : NotBelowZero u) :
    NotBelowZero (unpack .binary64 (pack .binary64 u)) := by
  cases h with
  | zero s =>
      rw [pack, unpack_packedZero]
      exact .zero s
  | finite m e h =>
      rcases unpack_pack_finite h (e := e) with hpack | ⟨b, hpack, -⟩ <;> rw [hpack]
      exacts [.infinity, notBelowZero_unpacked b]
  | infinity =>
      rw [pack, unpack_packedInfinity]
      exact .infinity

theorem Binary.Digits.aboveZero_unpack_pack {b : Binary} (h : b.Digits) :
    AboveZero (unpack .binary64 (pack .binary64 (unpacked .positive b))) := by
  rw [unpacked, dif_pos h.pos]
  rcases unpack_pack_finite h.pos (e := b.q) with hpack | ⟨c, hpack, hpos⟩ <;> rw [hpack]
  exacts [.infinity, aboveZero_unpacked (hpos h.m_lt h.least)]

/-! ## Operations on magnitudes -/

section Unpacked

variable {u v : UnpackedFloat} {b : Binary}

theorem NotBelowZero.add (hu : NotBelowZero u) (hv : NotBelowZero v) :
    NotBelowZero (UnpackedFloat.add .binary64 u v) := by
  cases hu with
  | zero s =>
      cases hv with
      | zero s' =>
          rw [UnpackedFloat.add]
          split_ifs <;> exact .zero _
      | finite m e h => exact .finite ..
      | infinity => exact .infinity
  | finite m e h =>
      cases hv with
      | zero s => exact .finite ..
      | finite m' e' h' =>
          rw [UnpackedFloat.add]
          simp only [decreaseExponent, Sign.apply, ← Nat.cast_add]
          exact notBelowZero_normalize ..
      | infinity => exact .infinity
  | infinity =>
      cases hv
      all_goals exact .infinity

theorem NotBelowZero.mul_digits (hu : NotBelowZero u) (hb : b.Digits) :
    NotBelowZero (UnpackedFloat.mul .binary64 u (unpacked .positive b)) := by
  rw [unpacked, dif_pos hb.pos]
  cases hu
  exacts [.zero _, notBelowZero_roundWithAccuracy .., .infinity]

theorem NotBelowZero.digits_mul (hb : b.Digits) (hv : NotBelowZero v) :
    NotBelowZero (UnpackedFloat.mul .binary64 (unpacked .positive b) v) := by
  rw [unpacked, dif_pos hb.pos]
  cases hv
  exacts [.zero _, notBelowZero_roundWithAccuracy .., .infinity]

theorem NotBelowZero.div_digits (hu : NotBelowZero u) (hb : b.Digits) :
    NotBelowZero (UnpackedFloat.div .binary64 u (unpacked .positive b)) := by
  rw [unpacked, dif_pos hb.pos]
  cases hu
  exacts [.zero _, notBelowZero_roundWithAccuracy .., .infinity]

/-- What is left of a number when no larger one is taken away is not below zero. -/
theorem notBelowZero_sub {b c : Binary} (hle : c.value ≤ b.value) :
    NotBelowZero (UnpackedFloat.sub .binary64 (unpacked .positive b) (unpacked .positive c)) := by
  have haligned := aligned_le hle
  unfold unpacked
  split_ifs with hb hc hc
  · rw [UnpackedFloat.sub]
    simp only [decreaseExponent, Sign.apply, ← Nat.cast_sub haligned]
    exact notBelowZero_normalize ..
  · exact .finite ..
  · have hcpos : 0 < c.value := mul_pos (by exact_mod_cast hc) (zpow_pos two_pos _)
    have hbzero : b.value = 0 := by rw [Binary.value, Nat.eq_zero_of_not_pos hb, Nat.cast_zero, zero_mul]
    exact absurd (hle.trans_eq hbzero) (not_le.2 hcpos)
  · exact .zero _

/-- A sum of two positive numbers is not rounded to zero. -/
theorem add_digits {b c : Binary} (hb : b.Digits) (hc : c.Digits) :
    ∃ d, Binary.Digits d ∧
      UnpackedFloat.add .binary64 (unpacked .positive b) (unpacked .positive c) = unpacked .positive d := by
  obtain ⟨M, hM⟩ : ∃ M, M = b.m <<< (b.q - min b.q c.q).toNat + c.m <<< (c.q - min b.q c.q).toNat := ⟨_, rfl⟩
  have hpos : 0 < M := by
    rw [hM, Nat.shiftLeft_eq]
    exact Nat.add_pos_left (Nat.mul_pos hb.pos (by positivity)) _
  obtain ⟨d, hd, hround⟩ := round_digits .positive hpos (le_min hb.least hc.least)
  refine ⟨d, hd, ?_⟩
  rw [unpacked, unpacked, dif_pos hb.pos, dif_pos hc.pos, UnpackedFloat.add]
  simp only [decreaseExponent, Sign.apply, ← Nat.cast_add, ← hM]
  rw [UnpackedFloat.normalize, show compare (M : ℤ) 0 = .gt from compare_gt_iff_gt.2 (by omega)]
  exact hround

end Unpacked

/-! ## Operations on doubles -/

/-- A double that is not below zero. -/
def NonNegative (x : Float) : Prop := NotBelowZero x.toModel.unpack

/-- A double above zero. -/
def Above (x : Float) : Prop := AboveZero x.toModel.unpack

theorem exists_digits {x : Float} (h : Positive x) :
    ∃ b, Binary.Digits b ∧ x.toModel.unpack = unpacked .positive b := by
  obtain ⟨r, hr, hpos⟩ := h
  obtain ⟨s, b, ⟨hlt, hleast, -⟩, -, hx, rfl⟩ := exists_unpacked hr
  have hvalue : 0 ≤ b.value := mul_nonneg (Nat.cast_nonneg _) (zpow_pos two_pos _).le
  cases s with
  | negative => exact absurd hpos (by simpa [signed] using hvalue)
  | positive =>
      have hm : b.m ≠ 0 := fun hm => by simp [signed, Binary.value, hm] at hpos
      exact ⟨b, ⟨Nat.pos_of_ne_zero hm, hlt, hleast⟩, hx⟩

/-- What is not below zero is a zero, a positive number or the positive infinity. -/
theorem NonNegative.cases {x : Float} (h : NonNegative x) :
    (∃ s, x.toModel.unpack = .zero s) ∨ Positive x ∨ x.toModel.unpack = .infinity .positive := by
  have hvalue := ofFloat?_eq x
  unfold NonNegative at h
  generalize x.toModel.unpack = u at h hvalue
  cases h with
  | zero s => exact .inl ⟨s, rfl⟩
  | finite m e hm =>
      have hpos : (0 : ℚ) < m * 2 ^ e := mul_pos (by exact_mod_cast hm) (zpow_pos two_pos _)
      exact .inr (.inl ⟨_, hvalue, hpos⟩)
  | infinity => exact .inr (.inr rfl)

theorem above_of_positive {x : Float} (h : Positive x) : Above x := by
  obtain ⟨b, hb, hx⟩ := exists_digits h
  rw [Above, hx]
  exact aboveZero_unpacked hb.pos

theorem less_zero_of_above {x : Float} (h : Above x) : Scoring.less (Scoring.ofNat 0) x = true := by
  have hzero : (toFloat (0 : ℕ)).toModel.unpack = .zero .positive := unpack_toFloat_natCast 0 (by decide)
  unfold Above at h
  refine (less_iff_unpack_lt (toFloat (0 : ℕ)) x).2 ?_
  rw [hzero]
  generalize x.toModel.unpack = u at h
  cases h <;> rfl

section Doubles

variable {x y : Float}

theorem NonNegative.add (hx : NonNegative x) (hy : NonNegative y) : NonNegative (x + y) :=
  (NotBelowZero.add hx hy).unpack_pack

theorem NonNegative.mul_positive (hx : NonNegative x) (hy : Positive y) : NonNegative (x * y) := by
  obtain ⟨b, hb, hyb⟩ := exists_digits hy
  have hproduct := (NotBelowZero.mul_digits hx hb).unpack_pack
  rwa [← hyb] at hproduct

theorem NonNegative.positive_mul (hx : Positive x) (hy : NonNegative y) : NonNegative (x * y) := by
  obtain ⟨b, hb, hxb⟩ := exists_digits hx
  have hproduct := (NotBelowZero.digits_mul hb hy).unpack_pack
  rwa [← hxb] at hproduct

theorem NonNegative.div_positive (hx : NonNegative x) (hy : Positive y) : NonNegative (x / y) := by
  obtain ⟨b, hb, hyb⟩ := exists_digits hy
  have hquotient := (NotBelowZero.div_digits hx hb).unpack_pack
  rwa [← hyb] at hquotient

/-- A positive number stays above zero when something not below zero is added to it. -/
theorem NonNegative.above_add (hx : Positive x) (hy : NonNegative y) : Above (x + y) := by
  obtain ⟨b, hb, hxb⟩ := exists_digits hx
  change AboveZero (unpack .binary64 (pack .binary64 (UnpackedFloat.add .binary64 _ _)))
  rcases hy.cases with ⟨s, hys⟩ | hy | hyinf
  · have hzero : UnpackedFloat.add .binary64 (unpacked .positive b) (.zero s) = unpacked .positive b := by
      rw [unpacked, dif_pos hb.pos]
      rfl
    rw [hxb, hys, hzero]
    exact hb.aboveZero_unpack_pack
  · obtain ⟨c, hc, hyc⟩ := exists_digits hy
    obtain ⟨d, hd, hsum⟩ := add_digits hb hc
    rw [hxb, hyc, hsum]
    exact hd.aboveZero_unpack_pack
  · have hinfinity :
        UnpackedFloat.add .binary64 (unpacked .positive b) (.infinity .positive) = .infinity .positive := by
      rw [unpacked, dif_pos hb.pos]
      rfl
    rw [hxb, hyinf, hinfinity, pack, unpack_packedInfinity]
    exact .infinity

theorem nonNegative_sub {b c : Binary} (hx : x.toModel.unpack = unpacked .positive b)
    (hy : y.toModel.unpack = unpacked .positive c) (hle : c.value ≤ b.value) : NonNegative (x - y) := by
  have hdiff := (notBelowZero_sub hle).unpack_pack
  rwa [← hx, ← hy] at hdiff

end Doubles

/-! ## Shares -/

/-- A share is rounded to at most one. -/
theorem value_ofQuotient_le_one {r : ℚ} (hr : 0 ≤ r ∧ r ≤ 1) :
    (Binary.ofQuotient r.num.natAbs r.den).overflows = false ∧ (Binary.ofQuotient r.num.natAbs r.den).value ≤ 1 := by
  rcases hr.1.eq_or_lt with rfl | hpos
  · decide +kernel
  rcases hr.2.eq_or_lt with rfl | hlt
  · decide +kernel
  have hnum : 0 < r.num.natAbs := Int.natAbs_pos.2 (Rat.num_pos.2 hpos).ne'
  have hexponent := Binary.hasExponent_exponentFor hnum r.den_pos
  have hdigits := (Binary.inUnits_bounds r.den_pos hexponent).1
  have hwidth : (Binary.fullWidth : ℚ) * 2 ^ (-52 : ℤ) = 1 := by norm_num [Binary.fullWidth]
  obtain ⟨q, hq⟩ : ∃ q, q = Binary.exponentFor r.num.natAbs r.den := ⟨_, rfl⟩
  have hsmall : q ≤ -53 := by
    by_contra hlarge
    have hmin : Binary.minExponent = -1074 := rfl
    have hlower := hexponent.lower.resolve_left (by omega)
    have hpow : (2 : ℚ) ^ (-52 : ℤ) ≤ 2 ^ q := zpow_le_zpow_right₀ one_le_two (by omega)
    have hmul : (Binary.fullWidth : ℚ) * 2 ^ (-52 : ℤ) ≤ Binary.fullWidth * 2 ^ q := by gcongr
    rw [Binary.natAbs_div_den hpos, ← hq] at hlower
    linarith
  have hone : (Binary.limit : ℚ) * 2 ^ q ≤ 1 := by
    rw [Binary.limit_mul_zpow, ← hwidth]
    have hpow : (2 : ℚ) ^ (q + 1) ≤ 2 ^ (-52 : ℤ) := zpow_le_zpow_right₀ one_le_two (by omega)
    gcongr
  rw [← hq] at hdigits
  unfold Binary.ofQuotient
  rw [if_neg hnum.ne']
  simp only [← hq, Binary.overflows, decide_eq_false_iff_not]
  split_ifs with hcarry
  · exact ⟨by simp only []; omega, (Binary.limit_mul_zpow q).symm.trans_le hone⟩
  · refine ⟨by simp only []; omega, ?_⟩
    calc (Binary.inUnits r.num.natAbs r.den q : ℚ) * 2 ^ q ≤ Binary.limit * 2 ^ q := by gcongr
      _ ≤ 1 := hone

/-- A share and what it leaves of one are not below zero. -/
theorem nonNegative_share {r : ℚ} (hr : 0 ≤ r ∧ r ≤ 1) :
    NonNegative (toFloat r) ∧ NonNegative (toFloat (1 : ℕ) - toFloat r) := by
  obtain ⟨hfinite, hle⟩ := value_ofQuotient_le_one hr
  have hshare := unpack_toFloat hfinite
  rw [if_neg (not_lt.2 (Rat.num_nonneg.2 hr.1))] at hshare
  refine ⟨?_, nonNegative_sub (unpack_toFloat_natCast 1 (by decide)) hshare ?_⟩
  · rw [NonNegative, hshare]
    exact notBelowZero_unpacked _
  · rwa [value_ofQuotient_natCast one_pos (by decide), Nat.cast_one]

end CodeAtlas.Number
