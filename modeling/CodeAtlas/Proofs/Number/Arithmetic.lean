import CodeAtlas.Proofs.Number.Doubles

set_option autoImplicit false

/-! # Sums, differences and quotients of doubles

How large the result of an operation can be, which is what keeps a computation on counts finite and positive. The
exponents of the operands bound that of the result, and rounding moves it by at most one. -/

namespace CodeAtlas.Number

open Float.Model (UnpackedFloat Format totalExponent)
open Float.Model.UnpackedFloat

/-! ## Rounding to a double -/

theorem mantissa_shiftRight (em : ExtendedMantissa) (k : ℕ) : (em >>> k).mantissa = em.mantissa / 2 ^ k := by
  induction k with
  | zero => exact (Nat.div_one _).symm
  | succ k ih =>
      change (em >>> k).mantissa / 2 = _
      rw [ih, Nat.div_div_eq_div_mul, ← Nat.pow_succ]

theorem mantissa_ofMantissaAndAccuracy (m : ℕ) (a : Accuracy) :
    (ExtendedMantissa.ofMantissaAndAccuracy m a).mantissa = m := by
  unfold ExtendedMantissa.ofMantissaAndAccuracy
  split <;> rfl

theorem roundedMantissa_bounds (em : ExtendedMantissa) :
    em.mantissa ≤ em.roundedMantissa ∧ em.roundedMantissa ≤ em.mantissa + 1 := by
  unfold ExtendedMantissa.roundedMantissa Accuracy.roundToNearestEven
  split <;> omega

/-- Shifted by the digits it has beyond 53, a number keeps 53. -/
theorem shifted_bounds {m : ℕ} (hm : 2 ^ 52 ≤ m) : 2 ^ 52 ≤ m / 2 ^ (m.log2 - 52) ∧ m / 2 ^ (m.log2 - 52) < 2 ^ 53 := by
  have hne : m ≠ 0 := by omega
  have hlog : 52 ≤ m.log2 := (Nat.le_log2 hne).2 hm
  constructor
  · rw [Nat.le_div_iff_mul_le (by positivity), ← Nat.pow_add, Nat.add_sub_cancel' hlog]
    exact Nat.log2_self_le hne
  · rw [Nat.div_lt_iff_lt_mul (by positivity), ← Nat.pow_add, show 53 + (m.log2 - 52) = m.log2 + 1 by omega]
    exact Nat.lt_log2_self

/-- The exponent that a magnitude is rounded at. -/
theorem targetExponent_eq (m : ℕ) (e : ℤ) :
    Format.targetExponent .binary64 (totalExponent m e) = max (e + m.log2 - 52) (-1074) := by
  have hbits : (Format.binary64.mantissaBits : ℤ) = 53 := rfl
  have hmin : Format.binary64.minExponent = -1074 := rfl
  rw [Format.targetExponent, totalExponent, hbits, hmin]
  omega

theorem shiftToTargetExponent_eq {m : ℕ} {e : ℤ} (a : Accuracy) (hm : 2 ^ 52 ≤ m) (he : -1074 ≤ e) :
    (shiftToTargetExponent .binary64 m e a).1.mantissa = m / 2 ^ (m.log2 - 52) ∧
      (shiftToTargetExponent .binary64 m e a).2 = e + m.log2 - 52 := by
  have hlog : 52 ≤ m.log2 := (Nat.le_log2 (by omega)).2 hm
  have htarget : Format.targetExponent .binary64 (totalExponent m e) = e + m.log2 - 52 := by
    rw [targetExponent_eq]
    omega
  have hshift : (e + m.log2 - 52 - e).toNat = m.log2 - 52 := by omega
  unfold shiftToTargetExponent shiftToExponent
  simp only [htarget, hshift, mantissa_shiftRight, mantissa_ofMantissaAndAccuracy]
  exact ⟨trivial, by omega⟩

/-- A double of full width, with an exponent of at most `k` either way. -/
structure Binary.Normal (k : ℤ) (b : Binary) : Prop where
  full : fullWidth ≤ b.m
  m_lt : b.m < limit
  lower : -k ≤ b.q
  upper : b.q ≤ k

/-- A whole number of units is rounded to 53 digits, in units that go with its length. -/
theorem roundWithAccuracy_eq (s : Sign) {m : ℕ} {e k : ℤ} (a : Accuracy) (hm : 2 ^ 52 ≤ m) (he : -1074 ≤ e)
    (hlower : -k ≤ e + m.log2 - 52) (hupper : e + m.log2 - 52 < k) :
    ∃ b, Binary.Normal k b ∧ roundWithAccuracy .binary64 s m e a = unpacked s b := by
  obtain ⟨hdigits, hexponent⟩ := shiftToTargetExponent_eq a hm he
  obtain ⟨hmlo, hmhi⟩ := shifted_bounds hm
  obtain ⟨em, he₁⟩ : ∃ em, em = shiftToTargetExponent .binary64 m e a := ⟨_, rfl⟩
  have hrounded := roundedMantissa_bounds em.1
  rw [← he₁] at hdigits hexponent
  rw [hdigits] at hrounded
  have hlog : 52 ≤ m.log2 := (Nat.le_log2 (by omega)).2 hm
  have hr : 2 ^ 52 ≤ em.1.roundedMantissa := by omega
  have hrlo : 52 ≤ em.1.roundedMantissa.log2 := (Nat.le_log2 (by omega)).2 hr
  have hrhi : em.1.roundedMantissa.log2 < 54 := (Nat.log2_lt (by omega)).2 (by omega)
  -- a carry into one more digit is shifted out again
  obtain ⟨hdigits', hexponent'⟩ := @shiftToTargetExponent_eq em.1.roundedMantissa em.2 .exact hr (by omega)
  obtain ⟨hlo, hhi⟩ := shifted_bounds hr
  refine ⟨⟨_, em.2 + em.1.roundedMantissa.log2 - 52⟩, ⟨hlo, hhi, by simp only []; omega, by simp only []; omega⟩, ?_⟩
  unfold roundWithAccuracy unpacked
  simp only [← he₁, hdigits', hexponent']
  rw [dif_neg (by omega), dif_pos (by omega)]

theorem log2_shiftLeft {m : ℕ} (hm : 0 < m) (k : ℕ) : (m <<< k).log2 = m.log2 + k := by
  have hshift : m <<< k ≠ 0 := by rw [Nat.shiftLeft_eq]; positivity
  rw [Nat.log2_eq_iff hshift, Nat.shiftLeft_eq]
  constructor
  · rw [Nat.pow_add]
    exact Nat.mul_le_mul_right _ (Nat.log2_self_le hm.ne')
  · rw [show m.log2 + k + 1 = m.log2 + 1 + k by omega, Nat.pow_add]
    exact Nat.mul_lt_mul_of_pos_right Nat.lt_log2_self (by positivity)

theorem round_eq (s : Sign) {m : ℕ} {e k : ℤ} (hm : 0 < m) (he : -1000 ≤ e) (hlower : -k ≤ e + m.log2 - 52)
    (hupper : e + m.log2 - 52 < k) : ∃ b, Binary.Normal k b ∧ UnpackedFloat.round .binary64 s m e = unpacked s b := by
  obtain ⟨n, hn⟩ : ∃ n, n = 52 - m.log2 := ⟨_, rfl⟩
  have htarget : (e - Format.targetExponent .binary64 (totalExponent m e)).toNat = n := by
    rw [targetExponent_eq]
    omega
  have hlog := log2_shiftLeft hm n
  have hwide : 2 ^ 52 ≤ m <<< n := by
    rw [← Nat.le_log2 (by rw [Nat.shiftLeft_eq]; positivity), hlog]
    omega
  unfold UnpackedFloat.round decreaseExponent
  simp only [htarget]
  exact roundWithAccuracy_eq s .exact hwide (by omega) (by omega) (by omega)

/-! ## Operations on magnitudes -/

/-- The digits of two doubles in the smaller of their units. -/
theorem aligned_bounds {b c : Binary} {k l : ℤ} (hb : b.Normal k) (hc : c.Normal l) :
    ∃ i j n : ℕ, (b.q - min b.q c.q).toNat = i ∧ (c.q - min b.q c.q).toNat = j ∧ max b.q c.q = min b.q c.q + n ∧
      b.m <<< i < 2 ^ (53 + n) ∧ c.m <<< j < 2 ^ (53 + n) ∧ 2 ^ (52 + n) ≤ b.m <<< i + c.m <<< j := by
  have ⟨(hblo : 2 ^ 52 ≤ b.m), (hbhi : b.m < 2 ^ 53), _, _⟩ := hb
  have ⟨(hclo : 2 ^ 52 ≤ c.m), (hchi : c.m < 2 ^ 53), _, _⟩ := hc
  have hlt {m i n : ℕ} (hm : m < 2 ^ 53) (hi : i ≤ n) : m <<< i < 2 ^ (53 + n) := by
    rw [Nat.shiftLeft_eq, Nat.pow_add]
    exact Nat.mul_lt_mul_of_lt_of_le hm (Nat.pow_le_pow_right two_pos hi) (by positivity)
  have hle {m n : ℕ} (hm : 2 ^ 52 ≤ m) : 2 ^ (52 + n) ≤ m <<< n := by
    rw [Nat.shiftLeft_eq, Nat.pow_add]
    exact Nat.mul_le_mul_right _ hm
  refine ⟨_, _, (max b.q c.q - min b.q c.q).toNat, rfl, rfl, by omega, hlt hbhi (by omega), hlt hchi (by omega), ?_⟩
  -- the one with the larger exponent reaches the length alone
  rcases le_total b.q c.q with h | h
  · rw [max_eq_right h, min_eq_left h]
    exact (hle hclo).trans (Nat.le_add_left _ _)
  · rw [max_eq_left h, min_eq_right h]
    exact (hle hblo).trans (Nat.le_add_right _ _)

/-- A magnitude in smaller units. -/
theorem value_eq_shiftLeft {b : Binary} {l : ℕ} {q : ℤ} (h : b.q = q + l) :
    b.value = ((b.m <<< l : ℕ) : ℚ) * 2 ^ q := by
  rw [Binary.value, h, zpow_add₀ two_ne_zero, zpow_natCast, Nat.shiftLeft_eq]
  push_cast
  ring

/-- In one unit the digits are ordered as the values are. -/
theorem aligned_le {b c : Binary} (hle : c.value ≤ b.value) :
    c.m <<< (c.q - min b.q c.q).toNat ≤ b.m <<< (b.q - min b.q c.q).toNat := by
  have hunit : (0 : ℚ) < 2 ^ min b.q c.q := zpow_pos two_pos _
  rw [@value_eq_shiftLeft b (b.q - min b.q c.q).toNat (min b.q c.q) (by omega),
    @value_eq_shiftLeft c (c.q - min b.q c.q).toNat (min b.q c.q) (by omega)] at hle
  exact_mod_cast le_of_mul_le_mul_right hle hunit

theorem unpacked_of_normal (s : Sign) {b : Binary} {k : ℤ} (hb : b.Normal k) :
    ∃ h, unpacked s b = .finite s b.m b.q h :=
  have hpos : 0 < b.m := Nat.lt_of_lt_of_le (by decide) hb.full
  ⟨hpos, dif_pos hpos⟩

/-- The exponent of a sum is at most two above those of its terms. -/
theorem add_unpacked {b c : Binary} {k : ℤ} (hb : b.Normal k) (hc : c.Normal k) (hk : k ≤ 900) :
    ∃ d, Binary.Normal (k + 2) d ∧
      UnpackedFloat.add .binary64 (unpacked .positive b) (unpacked .positive c) = unpacked .positive d := by
  obtain ⟨i, j, n, hi, hj, hn, hbm, hcm, hsum⟩ := aligned_bounds hb hc
  obtain ⟨hb₀, hbu⟩ := unpacked_of_normal .positive hb
  obtain ⟨hc₀, hcu⟩ := unpacked_of_normal .positive hc
  obtain ⟨M, hM⟩ : ∃ M, M = b.m <<< i + c.m <<< j := ⟨_, rfl⟩
  rw [← hM] at hsum
  have hpos : 0 < M := Nat.lt_of_lt_of_le (by positivity) hsum
  have hlo : 52 + n ≤ M.log2 := (Nat.le_log2 hpos.ne').2 hsum
  have hhi : M.log2 < 54 + n := by
    refine (Nat.log2_lt hpos.ne').2 ?_
    rw [show 54 + n = 53 + n + 1 by omega, Nat.pow_succ]
    omega
  have ⟨_, _, hq, hq'⟩ := hb
  have ⟨_, _, hr, hr'⟩ := hc
  obtain ⟨d, hd, hround⟩ := @round_eq .positive M (min b.q c.q) (k + 2) hpos (by omega) (by omega) (by omega)
  refine ⟨d, hd, ?_⟩
  rw [hbu, hcu, UnpackedFloat.add]
  simp only [decreaseExponent, hi, hj, Sign.apply]
  rw [show ((b.m <<< i : ℕ) : ℤ) + (c.m <<< j : ℕ) = M by rw [hM, Nat.cast_add], UnpackedFloat.normalize,
    show compare (M : ℤ) 0 = .gt from compare_gt_iff_gt.2 (by omega)]
  exact hround

/-- A difference that is not negative is zero or has its exponent in bounds. -/
theorem sub_unpacked {b c : Binary} {k : ℤ} (hb : b.Normal k) (hc : c.Normal k) (hk : k ≤ 900)
    (hle : c.value ≤ b.value) :
    UnpackedFloat.sub .binary64 (unpacked .positive b) (unpacked .positive c) = .zero .positive ∨
      ∃ d, Binary.Normal (k + 52) d ∧
        UnpackedFloat.sub .binary64 (unpacked .positive b) (unpacked .positive c) = unpacked .positive d := by
  obtain ⟨i, j, n, hi, hj, hn, hbm, hcm, -⟩ := aligned_bounds hb hc
  obtain ⟨hb₀, hbu⟩ := unpacked_of_normal .positive hb
  obtain ⟨hc₀, hcu⟩ := unpacked_of_normal .positive hc
  have ⟨_, _, hq, hq'⟩ := hb
  have ⟨_, _, hr, hr'⟩ := hc
  have haligned := aligned_le hle
  rw [hi, hj] at haligned
  obtain ⟨M, hM⟩ : ∃ M, b.m <<< i = M + c.m <<< j := ⟨_, (Nat.sub_add_cancel haligned).symm⟩
  have hdiff : ((b.m <<< i : ℕ) : ℤ) - (c.m <<< j : ℕ) = M := by rw [hM, Nat.cast_add, add_sub_cancel_right]
  rw [hbu, hcu, UnpackedFloat.sub]
  simp only [decreaseExponent, hi, hj, Sign.apply]
  rw [hdiff, UnpackedFloat.normalize]
  rcases Nat.eq_zero_or_pos M with rfl | hpos
  · exact .inl rfl
  · have hM' : M ≤ b.m <<< i := hM ▸ Nat.le_add_right _ _
    have hhi : M.log2 < 53 + n := (Nat.log2_lt hpos.ne').2 (hM'.trans_lt hbm)
    obtain ⟨d, hd, hround⟩ := @round_eq .positive M (min b.q c.q) (k + 52) hpos (by omega) (by omega) (by omega)
    refine .inr ⟨d, hd, ?_⟩
    rw [show compare (M : ℤ) 0 = .gt from compare_gt_iff_gt.2 (by omega)]
    exact hround

/-- The exponent of a quotient lies around the difference of the two, less the digits that are computed. -/
theorem div_unpacked {b c : Binary} {k : ℤ} (hb : b.Normal k) (hc : c.Normal k) (hk : k ≤ 400) :
    ∃ d, Binary.Normal (2 * k + 53) d ∧
      UnpackedFloat.div .binary64 (unpacked .positive b) (unpacked .positive c) = unpacked .positive d := by
  obtain ⟨hb₀, hbu⟩ := unpacked_of_normal .positive hb
  obtain ⟨hc₀, hcu⟩ := unpacked_of_normal .positive hc
  have ⟨(hblo : 2 ^ 52 ≤ b.m), (hbhi : b.m < 2 ^ 53), hq, hq'⟩ := hb
  have ⟨(hclo : 2 ^ 52 ≤ c.m), (hchi : c.m < 2 ^ 53), hr, hr'⟩ := hc
  have hblog := log2_eq hblo hbhi
  have hclog := log2_eq hclo hchi
  have htarget : min (b.q - c.q) (Format.targetExponent .binary64 (totalExponent b.m b.q - totalExponent c.m c.q))
      = b.q - c.q - 53 := by
    have hbits : (Format.binary64.mantissaBits : ℤ) = 53 := rfl
    have hmin : Format.binary64.minExponent = -1074 := rfl
    rw [Format.targetExponent, totalExponent, totalExponent, hbits, hmin, hblog, hclog]
    omega
  have hshift : (b.q - c.q - (b.q - c.q - 53)).toNat = 53 := by omega
  obtain ⟨M, hM⟩ : ∃ M, M = b.m <<< 53 / c.m := ⟨_, rfl⟩
  -- the digits differ by less than a factor of two, so the quotient keeps 53 or 54 of the digits computed
  have hlo : 2 ^ 52 ≤ M := by
    rw [hM, Nat.le_div_iff_mul_le hc₀, Nat.shiftLeft_eq]
    exact Nat.mul_le_mul hblo hchi.le
  have hhi : M < 2 ^ 54 := by
    rw [hM, Nat.div_lt_iff_lt_mul hc₀, Nat.shiftLeft_eq]
    omega
  have hloglo : 52 ≤ M.log2 := (Nat.le_log2 (by omega)).2 hlo
  have hloghi : M.log2 < 54 := (Nat.log2_lt (by omega)).2 hhi
  rw [hbu, hcu, UnpackedFloat.div]
  simp only [divCore, htarget, hshift, ← hM]
  exact roundWithAccuracy_eq _ _ hlo (by omega) (by omega) (by omega)

/-! ## Operations on doubles -/

/-- A positive double of full width, with an exponent of at most `k` either way. -/
def IsNormal (k : ℤ) (x : Float) : Prop := ∃ b : Binary, b.Normal k ∧ x.toModel.unpack = unpacked .positive b

theorem Binary.Normal.canonical {k : ℤ} {b : Binary} (h : b.Normal k) (hk : k ≤ 971) :
    b.Canonical ∧ b.overflows = false := by
  have hlower := h.lower
  have hupper := h.upper
  have hmin : minExponent = -1074 := rfl
  refine ⟨⟨h.m_lt, by omega, .inr h.full⟩, ?_⟩
  rw [overflows, decide_eq_false_iff_not]
  omega

theorem isNormal_of_pack {k : ℤ} {x : Float} {u : UnpackedFloat} {b : Binary} (hx : x.toModel = Float.Model.pack u)
    (hb : b.Normal k) (hk : k ≤ 971) (hu : u = unpacked .positive b) : IsNormal k x := by
  obtain ⟨hcanonical, hfinite⟩ := hb.canonical hk
  refine ⟨b, hb, ?_⟩
  rw [hx, hu]
  exact unpack_pack_unpacked .positive hcanonical hfinite

theorem IsNormal.mono {k l : ℤ} {x : Float} (h : IsNormal k x) (hkl : k ≤ l) : IsNormal l x := by
  obtain ⟨b, hb, hx⟩ := h
  exact ⟨b, ⟨hb.full, hb.m_lt, (neg_le_neg hkl).trans hb.lower, hb.upper.trans hkl⟩, hx⟩

theorem IsNormal.isNumber {k : ℤ} {x : Float} (h : IsNormal k x) (hk : k ≤ 971) : IsNumber x := by
  obtain ⟨b, hb, hx⟩ := h
  obtain ⟨hcanonical, hfinite⟩ := hb.canonical hk
  exact isNumber_of_unpack hcanonical hfinite hx (.inl rfl)

theorem IsNormal.positive {k : ℤ} {x : Float} (h : IsNormal k x) : Positive x := by
  obtain ⟨b, hb, hx⟩ := h
  have hpos : 0 < b.m := Nat.lt_of_lt_of_le (by decide) hb.full
  refine ⟨b.value, by rw [ofFloat?_eq, hx, exactValue?_unpacked]; rfl, ?_⟩
  exact mul_pos (by exact_mod_cast hpos) (zpow_pos two_pos _)

theorem IsNormal.add {k : ℤ} {x y : Float} (hx : IsNormal k x) (hy : IsNormal k y) (hk : k ≤ 900) :
    IsNormal (k + 2) (x + y) := by
  obtain ⟨b, hb, hxb⟩ := hx
  obtain ⟨c, hc, hyc⟩ := hy
  obtain ⟨d, hd, hsum⟩ := add_unpacked hb hc hk
  exact @isNormal_of_pack _ (x + y) _ _ rfl hd (by omega) (by rw [hxb, hyc, hsum])

theorem IsNormal.div {k : ℤ} {x y : Float} (hx : IsNormal k x) (hy : IsNormal k y) (hk : k ≤ 400) :
    IsNormal (2 * k + 53) (x / y) := by
  obtain ⟨b, hb, hxb⟩ := hx
  obtain ⟨c, hc, hyc⟩ := hy
  obtain ⟨d, hd, hquotient⟩ := div_unpacked hb hc hk
  exact @isNormal_of_pack _ (x / y) _ _ rfl hd (by omega) (by rw [hxb, hyc, hquotient])

/-! ## Counts -/

theorem unpack_toFloat_natCast (n : ℕ) (hfinite : (Binary.ofQuotient n 1).overflows = false) :
    (toFloat n).toModel.unpack = unpacked .positive (Binary.ofQuotient n 1) := by
  have h := @unpack_toFloat n (by simpa using hfinite)
  rw [if_neg (by simp)] at h
  simpa using h

/-- A count is a double with a small exponent. -/
theorem normal_natCast {n : ℕ} (hpos : 0 < n) (hn : n < 2 ^ 106) : (Binary.ofQuotient n 1).Normal 55 := by
  have hquotient := Binary.hasExponent_exponentFor hpos one_pos
  have hbounds := Binary.inUnits_bounds one_pos hquotient
  obtain ⟨hleast, hupper, hlower⟩ := hquotient
  obtain ⟨q, hq⟩ : ∃ q, q = Binary.exponentFor n 1 := ⟨_, rfl⟩
  rw [← hq] at hleast hupper hlower
  rw [Nat.cast_one, div_one] at hupper hlower
  -- the count lies between `2^52` and `2^53` units of `2^q`, and between 1 and `2^106`
  have hqlo : -53 < q := by
    by_contra hle
    have hpow : (2 : ℚ) ^ q ≤ 2 ^ (-53 : ℤ) := zpow_le_zpow_right₀ one_le_two (by omega)
    have hone : (1 : ℚ) ≤ n := by exact_mod_cast hpos
    have hlimit : (Binary.limit : ℚ) * 2 ^ (-53 : ℤ) = 1 := by norm_num [Binary.limit]
    have : (Binary.limit : ℚ) * 2 ^ q ≤ Binary.limit * 2 ^ (-53 : ℤ) := by gcongr
    linarith
  have hmin : Binary.minExponent = -1074 := rfl
  have hqhi : q < 54 := by
    by_contra hle
    have hpow : (2 : ℚ) ^ (54 : ℤ) ≤ 2 ^ q := zpow_le_zpow_right₀ one_le_two (by omega)
    have hlarge : (n : ℚ) < 2 ^ 106 := by exact_mod_cast hn
    have hwidth : (Binary.fullWidth : ℚ) * 2 ^ (54 : ℤ) = 2 ^ 106 := by norm_num [Binary.fullWidth]
    have : (Binary.fullWidth : ℚ) * 2 ^ (54 : ℤ) ≤ Binary.fullWidth * 2 ^ q := by gcongr
    have hlower := hlower.resolve_left (by omega)
    linarith
  rw [← hq] at hbounds
  have hfull := hbounds.2.resolve_left (by omega)
  have hwidth : Binary.fullWidth < Binary.limit := by decide
  unfold Binary.ofQuotient
  rw [if_neg hpos.ne']
  simp only [← hq]
  split_ifs with hcarry
  · exact ⟨le_rfl, hwidth, by simp only []; omega, by simp only []; omega⟩
  · exact ⟨hfull, lt_of_le_of_ne hbounds.1 hcarry, by simp only []; omega, by simp only []; omega⟩

theorem isNormal_natCast {n : ℕ} (hpos : 0 < n) (hn : n < 2 ^ 106) : IsNormal 55 (toFloat n) :=
  have h := normal_natCast hpos hn
  ⟨_, h, unpack_toFloat_natCast n (h.canonical (by decide)).2⟩

/-- A count below `2^53` is a double itself. -/
theorem value_ofQuotient_natCast {n : ℕ} (hpos : 0 < n) (hn : n < 2 ^ 53) : (Binary.ofQuotient n 1).value = n := by
  have hlog : n.log2 < 53 := (Nat.log2_lt hpos.ne').2 hn
  obtain ⟨k, hk⟩ : ∃ k, k = 52 - n.log2 := ⟨_, rfl⟩
  have hvalue : Binary.value ⟨n * 2 ^ k, -(k : ℤ)⟩ = n := by
    rw [Binary.value, zpow_neg, zpow_natCast]
    push_cast
    exact mul_inv_cancel_right₀ (by positivity) _
  have hlo : 2 ^ 52 ≤ n * 2 ^ k := by
    calc 2 ^ 52 = 2 ^ n.log2 * 2 ^ k := by rw [← Nat.pow_add, hk, Nat.add_sub_cancel' (by omega)]
      _ ≤ n * 2 ^ k := Nat.mul_le_mul_right _ (Nat.log2_self_le hpos.ne')
  have hhi : n * 2 ^ k < 2 ^ 53 := by
    calc n * 2 ^ k < 2 ^ (n.log2 + 1) * 2 ^ k := Nat.mul_lt_mul_of_pos_right Nat.lt_log2_self (by positivity)
      _ = 2 ^ 53 := by rw [← Nat.pow_add, show n.log2 + 1 + k = 53 by omega]
  have hmin : Binary.minExponent = -1074 := rfl
  have hcanonical : Binary.Canonical ⟨n * 2 ^ k, -(k : ℤ)⟩ := ⟨hhi, by simp only []; omega, .inr hlo⟩
  have hround := Binary.ofQuotient_value hcanonical (Nat.lt_of_lt_of_le (by decide) hlo)
  rw [hvalue, Rat.num_natCast, Int.natAbs_natCast, Rat.den_natCast] at hround
  rw [hround, hvalue]

theorem isNormal_half : IsNormal 53 (toFloat 0.5) := by
  have hquotient : Binary.ofQuotient (0.5 : ℚ).num.natAbs (0.5 : ℚ).den = ⟨Binary.fullWidth, -53⟩ := by decide +kernel
  refine ⟨⟨Binary.fullWidth, -53⟩, ⟨le_rfl, by decide, by decide, by decide⟩, ?_⟩
  rw [unpack_toFloat (by rw [hquotient]; rfl), hquotient, if_neg (by decide +kernel)]

/-- The count of the others and a half. -/
theorem isNormal_sub_add_half {m n : ℕ} (hpos : 0 < n) (hle : n ≤ m) (hm : m < 2 ^ 53) :
    IsNormal 109 (toFloat m - toFloat n + toFloat 0.5) := by
  have hmn := normal_natCast (hpos.trans_le hle) (hm.trans (by decide))
  have hnn := normal_natCast hpos ((hle.trans_lt hm).trans (by decide))
  have hmu := unpack_toFloat_natCast m (hmn.canonical (by decide)).2
  have hnu := unpack_toFloat_natCast n (hnn.canonical (by decide)).2
  have hvalue : (Binary.ofQuotient n 1).value ≤ (Binary.ofQuotient m 1).value := by
    rw [value_ofQuotient_natCast hpos (hle.trans_lt hm), value_ofQuotient_natCast (hpos.trans_le hle) hm]
    exact_mod_cast hle
  -- without others the sum is the half, which the positive zero leaves as it is
  rcases sub_unpacked hmn hnn (by decide) hvalue with hzero | ⟨d, hd, hdiff⟩
  · obtain ⟨b, hb, hhalf⟩ := isNormal_half
    have hzero : (toFloat m - toFloat n).toModel.unpack = .zero .positive := by
      change unpack .binary64 (pack .binary64 (UnpackedFloat.sub .binary64 _ _)) = _
      rw [hmu, hnu, hzero]
      rfl
    have hsum : UnpackedFloat.add .binary64 (.zero .positive) (unpacked .positive b) = unpacked .positive b := by
      obtain ⟨h, hbu⟩ := unpacked_of_normal .positive hb
      rw [hbu]
      rfl
    have hx : IsNormal 53 (toFloat m - toFloat n + toFloat 0.5) :=
      @isNormal_of_pack _ (toFloat m - toFloat n + toFloat 0.5) _ _ rfl hb (by decide) (by rw [hzero, hhalf, hsum])
    exact hx.mono (by decide)
  · have hx : IsNormal 107 (toFloat m - toFloat n) :=
      @isNormal_of_pack _ (toFloat m - toFloat n) _ _ rfl hd (by decide) (by rw [hmu, hnu, hdiff])
    exact hx.add (isNormal_half.mono (by decide)) (by decide)

/-- The share of a count is a number that is not negative. -/
theorem exists_quotient {m n : ℕ} (hm : m < 2 ^ 106) (hpos : 0 < n) (hn : n < 2 ^ 106) :
    ∃ r, ofFloat? (toFloat m / toFloat n) = some r ∧ toFloat r = toFloat m / toFloat n ∧ 0 ≤ r := by
  rcases Nat.eq_zero_or_pos m with rfl | hm'
  · obtain ⟨b, hb, hu⟩ := isNormal_natCast hpos hn
    obtain ⟨h, hbu⟩ := unpacked_of_normal .positive hb
    have hzero : (toFloat (0 : ℕ)).toModel.unpack = .zero .positive := unpack_toFloat_natCast 0 (by decide)
    have hratio : (toFloat (0 : ℕ) / toFloat n).toModel.unpack = unpacked .positive ⟨0, Binary.minExponent⟩ := by
      have hdiv : UnpackedFloat.div .binary64 (.zero .positive) (.finite .positive b.m b.q h) = .zero .positive := rfl
      change unpack .binary64 (pack .binary64 (UnpackedFloat.div .binary64 _ _)) = _
      rw [hzero, hu, hbu, hdiv]
      rfl
    obtain ⟨r, hr, hback⟩ := @isNumber_of_unpack _ .positive ⟨0, Binary.minExponent⟩
      ⟨by decide, le_rfl, .inl rfl⟩ (by decide) hratio (.inl rfl)
    refine ⟨r, hr, hback, le_of_eq ?_⟩
    rw [ofFloat?_eq, hratio] at hr
    exact Option.some.inj hr
  · have h := (isNormal_natCast hm' hm).div (isNormal_natCast hpos hn) (by decide)
    obtain ⟨r, hr, hback⟩ := h.isNumber (by decide)
    obtain ⟨r', hr', hnonneg⟩ := h.positive
    obtain rfl := Option.some.inj (hr.symm.trans hr')
    exact ⟨r, hr, hback, hnonneg.le⟩

end CodeAtlas.Number
