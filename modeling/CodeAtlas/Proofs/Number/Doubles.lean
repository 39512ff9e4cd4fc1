import CodeAtlas.Proofs.Number.Shortest
import Mathlib

set_option autoImplicit false

/-! # Doubles and their exact values

A finite double is a sign with a `Binary`, and an exact value is turned into the double that it is the value of
(`isNumber_of_unpack`): rationals and finite doubles correspond, but for the negative zero. A number that is written
and read back is the same double (`toFloat_shown`). -/

namespace CodeAtlas.Number

open Float.Model (UnpackedFloat Format)
open Float.Model.UnpackedFloat

/-! ## Bits -/

/-- The double of a sign and a magnitude. -/
def unpacked (s : Sign) (b : Binary) : UnpackedFloat :=
  if h : 0 < b.m then .finite s b.m b.q h else .zero s

theorem sign_ofBitVec_toBitVec (s : Sign) : Sign.ofBitVec s.toBitVec = s := by
  cases s <;> rfl

theorem toNat_packComponents (s : Sign) (e : BitVec 11) (m : BitVec 52) :
    (packComponents .binary64 s e m).toNat = s.toBitVec.toNat * 2 ^ 63 + e.toNat * 2 ^ 52 + m.toNat := by
  have hm := m.isLt
  have he := e.isLt
  simp only [packComponents, BitVec.toNat_append]
  rw [← Nat.shiftLeft_add_eq_or_of_lt hm, ← Nat.shiftLeft_add_eq_or_of_lt he, Nat.shiftLeft_eq, Nat.shiftLeft_eq]
  ring

theorem toNat_unpackMantissa (w : BitVec 64) : (@unpackMantissa .binary64 w).toNat = w.toNat % 2 ^ 52 := by
  simp [unpackMantissa]

theorem toNat_unpackExponent (w : BitVec 64) : (@unpackExponent .binary64 w).toNat = w.toNat / 2 ^ 52 % 2 ^ 11 := by
  simp [unpackExponent, Nat.shiftRight_eq_div_pow]

theorem toNat_unpackSign (w : BitVec 64) : (@unpackSign .binary64 w).toNat = w.toNat / 2 ^ 63 := by
  have hw := w.isLt
  simp [unpackSign, Nat.shiftRight_eq_div_pow]
  omega

theorem unpackSign_packComponents (s : Sign) (e : BitVec 11) (m : BitVec 52) :
    @unpackSign .binary64 (packComponents .binary64 s e m) = s.toBitVec := by
  have he := e.isLt
  have hm := m.isLt
  refine BitVec.eq_of_toNat_eq ?_
  rw [toNat_unpackSign, toNat_packComponents]
  omega

/-- A pattern of bits is put together again from its parts. -/
theorem packComponents_unpack (w : BitVec 64) :
    packComponents .binary64 (Sign.ofBitVec (@unpackSign .binary64 w)) (@unpackExponent .binary64 w)
      (@unpackMantissa .binary64 w) = w := by
  have hw := w.isLt
  have hsign : ∀ v : BitVec 1, (Sign.ofBitVec v).toBitVec = v := by decide
  refine BitVec.eq_of_toNat_eq ?_
  rw [toNat_packComponents, hsign, toNat_unpackSign, toNat_unpackExponent, toNat_unpackMantissa]
  omega

/-! ## Packing and unpacking -/

theorem append_one (f : BitVec 52) : (1#1 ++ f).toNat = 2 ^ 52 + f.toNat := by
  rw [BitVec.toNat_append, ← Nat.shiftLeft_add_eq_or_of_lt f.isLt]
  rfl

theorem log2_eq {m : ℕ} (hlo : 2 ^ 52 ≤ m) (hhi : m < 2 ^ 53) : m.log2 = 52 :=
  (Nat.log2_eq_iff (by omega)).2 ⟨hlo, hhi⟩

/-- The magnitude with the given exponent field and digits; a zero field stands for the least exponent. -/
def ofFields (e f : ℕ) : Binary :=
  if e = 0 then ⟨f, Binary.minExponent⟩ else ⟨f + Binary.fullWidth, (e : ℤ) - 1075⟩

theorem canonical_ofFields {e f : ℕ} (he : e < 2047) (hf : f < 2 ^ 52) :
    (ofFields e f).Canonical ∧ (ofFields e f).overflows = false := by
  have hwidth : Binary.fullWidth = 2 ^ 52 := rfl
  have hlimit : Binary.limit = 2 ^ 53 := rfl
  have hmin : Binary.minExponent = -1074 := rfl
  rw [Binary.overflows, decide_eq_false_iff_not]
  unfold ofFields
  split_ifs with hzero
  · exact ⟨⟨by simp only []; omega, le_rfl, .inl rfl⟩, by simp only []; omega⟩
  · exact ⟨⟨by simp only []; omega, by simp only []; omega, .inr (Nat.le_add_left _ _)⟩, by simp only []; omega⟩

/-- Every finite double has its fields. -/
theorem exists_fields {b : Binary} (hb : b.Canonical) (hfinite : b.overflows = false) :
    ∃ e f, e < 2047 ∧ f < 2 ^ 52 ∧ b = ofFields e f := by
  have hwidth : Binary.fullWidth = 2 ^ 52 := rfl
  have hlimit : Binary.limit = 2 ^ 53 := rfl
  have hmin : Binary.minExponent = -1074 := rfl
  obtain ⟨hlt, hleast, hfull⟩ := hb
  rw [Binary.overflows, decide_eq_false_iff_not] at hfinite
  obtain ⟨m, q⟩ := b
  simp only [] at *
  by_cases hfew : m < Binary.fullWidth
  · refine ⟨0, m, by decide, by omega, ?_⟩
    rw [ofFields, if_pos rfl, hfull.resolve_right (by omega)]
  · refine ⟨(q + 1075).toNat, m - Binary.fullWidth, by omega, by omega, ?_⟩
    rw [ofFields, if_neg (by omega), Nat.sub_add_cancel (by omega), Int.toNat_of_nonneg (by omega),
      add_sub_cancel_right]

theorem pack_ofFields (s : Sign) {e f : ℕ} (he : e < 2047) (hf : f < 2 ^ 52) :
    pack .binary64 (unpacked s (ofFields e f))
      = packComponents .binary64 s (BitVec.ofNat 11 e) (BitVec.ofNat 52 f) := by
  have hwidth : Binary.fullWidth = 2 ^ 52 := rfl
  have hbits : Format.binary64.mantissaBits = 53 := rfl
  have hbias (q : ℤ) :
      (q + (Format.binary64.exponentBias : ℤ) + (Format.binary64.mantissaBitsWithoutImplicit : ℤ)).toNat
        = (q + 1075).toNat := by
    rw [add_assoc]
    rfl
  unfold ofFields unpacked
  split_ifs with hzero hpos hpos
  · -- no leading digit
    have hlog : f.log2 < 52 := (Nat.log2_lt hpos.ne').2 hf
    rw [pack]
    simp only [hbias, hbits]
    rw [if_neg (by decide), if_neg (by omega), hzero]
  · have hzero' : f = 0 := Nat.eq_zero_of_not_pos hpos
    rw [pack, packedZero, hzero, hzero']
    rfl
  · have hlog : (f + Binary.fullWidth).log2 = 52 := log2_eq (by omega) (by omega)
    have hexponent : ((e : ℤ) - 1075 + 1075).toNat = e := by omega
    have hdigits : BitVec.ofNat 52 (f + Binary.fullWidth) = BitVec.ofNat 52 f :=
      BitVec.eq_of_toNat_eq (by rw [BitVec.toNat_ofNat, BitVec.toNat_ofNat, hwidth, Nat.add_mod_right])
    rw [pack]
    simp only [hbias, hbits, hexponent]
    rw [if_neg (show ¬ 2 ^ 11 ≤ e + 1 by omega), if_pos (by omega)]
    exact congrArg _ hdigits
  · exact absurd (Nat.lt_of_lt_of_le (by decide) (Nat.le_add_left _ f)) hpos

theorem unpack_packComponents (s : Sign) {e : BitVec 11} (f : BitVec 52) (he : e.toNat ≠ 2047) :
    unpack .binary64 (packComponents .binary64 s e f) = unpacked s (ofFields e.toNat f.toNat) := by
  have hones : e ≠ -1#_ := fun h => he (by rw [h]; rfl)
  have hbias : ((Format.binary64.exponentBias : ℤ) + (Format.binary64.mantissaBitsWithoutImplicit : ℤ)) = 1075 := rfl
  rw [unpack]
  simp only [unpackMantissa_packComponents, unpackExponent_packComponents, unpackSign_packComponents,
    sign_ofBitVec_toBitVec, hbias]
  rw [if_neg hones]
  unfold ofFields unpacked
  by_cases hzero : e = 0#11
  · subst hzero
    by_cases hf : f = 0#52
    · subst hf
      rfl
    · have hpos : 0 < f.toNat := by
        refine Nat.pos_of_ne_zero fun h => hf (BitVec.eq_of_toNat_eq ?_)
        simpa using h
      rw [if_pos rfl, dif_neg hf, dif_pos (by simpa using hpos)]
      rfl
  · have hne : e.toNat ≠ 0 := fun h => hzero (BitVec.eq_of_toNat_eq (by simpa using h))
    have hpos : 0 < f.toNat + Binary.fullWidth := Nat.lt_of_lt_of_le (by decide) (Nat.le_add_left _ _)
    rw [if_neg hzero, if_neg hne, dif_pos (by simpa using hpos)]
    simp only [append_one, Nat.add_comm (2 ^ 52)]
    rfl

/-- Unpacking inverts packing of what fits. -/
theorem unpack_pack_unpacked (s : Sign) {b : Binary} (hb : b.Canonical) (hfinite : b.overflows = false) :
    unpack .binary64 (pack .binary64 (unpacked s b)) = unpacked s b := by
  obtain ⟨e, f, he, hf, rfl⟩ := exists_fields hb hfinite
  have hexponent : (BitVec.ofNat 11 e).toNat = e := by rw [BitVec.toNat_ofNat, Nat.mod_eq_of_lt (by omega)]
  have hdigits : (BitVec.ofNat 52 f).toNat = f := by rw [BitVec.toNat_ofNat, Nat.mod_eq_of_lt hf]
  rw [pack_ofFields s he hf, unpack_packComponents s _ (by omega), hexponent, hdigits]

/-- The bits of a double, unless they are those of an infinity or NaN. -/
theorem unpack_eq (w : BitVec 64) (hfinite : w.toNat / 2 ^ 52 % 2 ^ 11 ≠ 2047) :
    unpack .binary64 w = unpacked (Sign.ofBitVec (@unpackSign .binary64 w))
      (ofFields (w.toNat / 2 ^ 52 % 2 ^ 11) (w.toNat % 2 ^ 52)) := by
  rw [← toNat_unpackExponent, ← toNat_unpackMantissa] at *
  have h := unpack_packComponents (Sign.ofBitVec (@unpackSign .binary64 w)) (@unpackMantissa .binary64 w) hfinite
  rwa [packComponents_unpack] at h

theorem pack_unpack_of_valid {w : BitVec 64} (hw : Format.binary64.Valid w) :
    pack .binary64 (unpack .binary64 w) = w := by
  have hparts := packComponents_unpack w
  by_cases hfinite : w.toNat / 2 ^ 52 % 2 ^ 11 = 2047
  · have hones : @unpackExponent .binary64 w = -1#_ := BitVec.eq_of_toNat_eq ((toNat_unpackExponent w).trans hfinite)
    rw [hones] at hparts
    by_cases hmantissa : @unpackMantissa .binary64 w = 0#_
    · rw [hmantissa] at hparts
      rw [unpack]
      simp only [if_pos hones, if_pos hmantissa]
      exact hparts
    · rw [unpack]
      simp only [if_pos hones, if_neg hmantissa]
      exact (hw.eq_packedNaN hones hmantissa).symm
  · have he : w.toNat / 2 ^ 52 % 2 ^ 11 < 2047 := by omega
    rw [unpack_eq w hfinite, pack_ofFields _ he (Nat.mod_lt _ (by decide)), ← toNat_unpackExponent,
      ← toNat_unpackMantissa, BitVec.ofNat_toNat, BitVec.ofNat_toNat, BitVec.setWidth_eq, BitVec.setWidth_eq, hparts]

/-- Packing inverts unpacking of a double. -/
theorem pack_unpack (x : Float.Model) : Float.Model.pack x.unpack = x := by
  obtain ⟨bits, hvalid⟩ := x
  have h : pack .binary64 (unpack .binary64 bits.toBitVec) = bits.toBitVec := pack_unpack_of_valid hvalid
  simp only [Float.Model.pack, Float.Model.unpack, h]

theorem ext_unpack {x y : Float} (h : x.toModel.unpack = y.toModel.unpack) : x = y := by
  have hmodel : x.toModel = y.toModel := by rw [← pack_unpack x.toModel, h, pack_unpack]
  obtain ⟨x⟩ := x
  obtain ⟨y⟩ := y
  exact congrArg Float.ofModel hmodel

/-! ## Exact values -/

/-- A magnitude with a sign. -/
def signed : Sign → ℚ → ℚ
  | .negative, r => -r
  | .positive, r => r

/-- The exact value of a finite double. -/
def exactValue? : UnpackedFloat → Option ℚ
  | .finite s m e _ => some (signed s (m * 2 ^ e))
  | .zero _ => some 0
  | _ => none

theorem exactValue?_unpacked (s : Sign) (b : Binary) : exactValue? (unpacked s b) = some (signed s b.value) := by
  unfold unpacked
  split
  · rfl
  · next hzero =>
      have hvalue : b.value = 0 := by rw [Binary.value, Nat.eq_zero_of_not_pos hzero, Nat.cast_zero, zero_mul]
      cases s <;> simp [exactValue?, hvalue, signed]

theorem exactValue?_unpack_of_ones {w : BitVec 64} (h : w.toNat / 2 ^ 52 % 2 ^ 11 = 2047) :
    exactValue? (unpack .binary64 w) = none := by
  have hones : @unpackExponent .binary64 w = -1#_ := BitVec.eq_of_toNat_eq ((toNat_unpackExponent w).trans h)
  rw [unpack]
  simp only [if_pos hones]
  split <;> rfl

theorem ofBitVec_unpackSign (w : BitVec 64) :
    Sign.ofBitVec (@unpackSign .binary64 w) = if signBit ≤ w.toNat then .negative else .positive := by
  have hsign := toNat_unpackSign w
  have hlt := w.isLt
  have hbit : signBit = 2 ^ 63 := rfl
  unfold Sign.ofBitVec
  split_ifs with hzero hneg hneg
  · rw [hzero] at hsign
    have hsign : 0 = w.toNat / 2 ^ 63 := hsign
    omega
  · rfl
  · rfl
  · refine absurd (BitVec.eq_of_toNat_eq ?_) hzero
    rw [hsign]
    simp
    omega

theorem ofFloat?_eq (x : Float) : ofFloat? x = exactValue? x.toModel.unpack := by
  obtain ⟨w, hw⟩ : ∃ w, w = x.toModel.toBits.toBitVec := ⟨_, rfl⟩
  have hbits : x.toBits.toNat = w.toNat := hw ▸ rfl
  have hunpack : x.toModel.unpack = unpack .binary64 w := hw ▸ rfl
  have hwidth : Binary.fullWidth = 2 ^ 52 := rfl
  have hlt := w.isLt
  rw [hunpack]
  unfold ofFloat? binaryOfFloat?
  simp only [hbits, hwidth, show 2048 = 2 ^ 11 from rfl]
  by_cases hones : w.toNat / 2 ^ 52 % 2 ^ 11 = 2047
  · rw [if_pos hones, exactValue?_unpack_of_ones hones, Option.map_none]
  · have hfields : (if w.toNat / 2 ^ 52 % 2 ^ 11 = 0 then
        some (⟨w.toNat % 2 ^ 52, Binary.minExponent⟩ : Binary)
        else some ⟨w.toNat % 2 ^ 52 + 2 ^ 52, (w.toNat / 2 ^ 52 % 2 ^ 11 : ℕ) - 1075⟩)
        = some (ofFields (w.toNat / 2 ^ 52 % 2 ^ 11) (w.toNat % 2 ^ 52)) := by
      unfold ofFields
      split_ifs <;> rfl
    rw [if_neg hones, hfields, unpack_eq w hones, exactValue?_unpacked, Option.map_some]
    rw [ofBitVec_unpackSign]
    split_ifs <;> rfl

theorem unpack_bits {b : Binary} (hb : b.Canonical) (hfinite : b.overflows = false) :
    unpack .binary64 b.bits.toBitVec = unpacked .positive b := by
  obtain ⟨e, f, he, hf, rfl⟩ := exists_fields hb hfinite
  have hwidth : Binary.fullWidth = 2 ^ 52 := rfl
  have hbits : (ofFields e f).bits.toBitVec.toNat = e * 2 ^ 52 + f := by
    unfold Binary.bits
    rw [if_neg (by simp [hfinite])]
    have hword {n : ℕ} (hn : n < 2 ^ 64) : n.toUInt64.toBitVec.toNat = n := by
      simp only [Nat.toUInt64_eq]
      exact UInt64.toNat_ofNat_of_lt' hn
    by_cases hzero : e = 0
    · have hfields : ofFields e f = ⟨f, Binary.minExponent⟩ := if_pos hzero
      have hfew : f < Binary.fullWidth := hf
      simp only [hfields, if_pos hfew]
      rw [hword (by omega), hzero, Nat.zero_mul, Nat.zero_add]
    · have hfields : ofFields e f = ⟨f + Binary.fullWidth, (e : ℤ) - 1075⟩ := if_neg hzero
      have hexponent : ((e : ℤ) - 1075 + 1075).toNat = e := by omega
      have hfull : ¬ f + Binary.fullWidth < Binary.fullWidth := by omega
      simp only [hfields, if_neg hfull, hexponent, Nat.add_sub_cancel]
      rw [hwidth, hword (by omega)]
  have hsign : signBit = 2 ^ 63 := rfl
  rw [unpack_eq _ (by rw [hbits]; omega), ofBitVec_unpackSign, hbits, if_neg (by omega),
    show (e * 2 ^ 52 + f) / 2 ^ 52 % 2 ^ 11 = e by omega, show (e * 2 ^ 52 + f) % 2 ^ 52 = f by omega]

theorem neg_unpacked (b : Binary) : (unpacked .positive b).neg = unpacked .negative b := by
  unfold unpacked
  split <;> rfl

/-- The double of a rational. -/
theorem unpack_toFloat {r : ℚ} (hfinite : (Binary.ofQuotient r.num.natAbs r.den).overflows = false) :
    (toFloat r).toModel.unpack
      = unpacked (if r.num < 0 then .negative else .positive) (Binary.ofQuotient r.num.natAbs r.den) := by
  have hcanonical := Binary.canonical_ofQuotient r.num.natAbs r.den_pos
  have hmagnitude : (Float.ofBits (Binary.ofQuotient r.num.natAbs r.den).bits).toModel.unpack
      = unpacked .positive (Binary.ofQuotient r.num.natAbs r.den) := by
    change unpack .binary64 (pack .binary64 (unpack .binary64 _)) = _
    rw [unpack_bits hcanonical hfinite, unpack_pack_unpacked _ hcanonical hfinite]
  unfold toFloat
  simp only []
  split_ifs with hneg
  · change unpack .binary64 (pack .binary64 (Float.ofBits _).toModel.unpack.neg) = _
    rw [hmagnitude, neg_unpacked, unpack_pack_unpacked _ hcanonical hfinite]
  · exact hmagnitude

/-! ## Rationals and doubles -/

/-- A double that a rational stands for: finite, and not the negative zero. -/
def IsNumber (x : Float) : Prop := ∃ r, ofFloat? x = some r ∧ toFloat r = x

/-- A finite double above zero. -/
def Positive (x : Float) : Prop := ∃ r, ofFloat? x = some r ∧ 0 < r

theorem exists_unpacked {x : Float} {r : ℚ} (h : ofFloat? x = some r) :
    ∃ s b, b.Canonical ∧ b.overflows = false ∧ x.toModel.unpack = unpacked s b ∧ r = signed s b.value := by
  rw [ofFloat?_eq] at h
  obtain ⟨w, hw⟩ : ∃ w, w = x.toModel.toBits.toBitVec := ⟨_, rfl⟩
  have hunpack : x.toModel.unpack = unpack .binary64 w := hw ▸ rfl
  rw [hunpack] at h ⊢
  by_cases hones : w.toNat / 2 ^ 52 % 2 ^ 11 = 2047
  · rw [exactValue?_unpack_of_ones hones] at h
    exact absurd h (by simp)
  · rw [unpack_eq w hones, exactValue?_unpacked] at h
    obtain ⟨hcanonical, hfinite⟩ := canonical_ofFields (show w.toNat / 2 ^ 52 % 2 ^ 11 < 2047 by omega)
      (Nat.mod_lt w.toNat (show 0 < 2 ^ 52 by decide))
    exact ⟨_, _, hcanonical, hfinite, unpack_eq w hones, (Option.some.inj h).symm⟩

/-- The magnitude of an exact value is that of the double. -/
theorem ofQuotient_signed (s : Sign) {b : Binary} (hb : b.Canonical) (hpos : 0 < b.m) :
    Binary.ofQuotient (signed s b.value).num.natAbs (signed s b.value).den = b := by
  cases s
  · rw [signed, Rat.neg_num, Int.natAbs_neg, Rat.neg_den, Binary.ofQuotient_value hb hpos]
  · exact Binary.ofQuotient_value hb hpos

theorem signed_num_neg_iff (s : Sign) {b : Binary} (hpos : 0 < b.m) :
    (signed s b.value).num < 0 ↔ s = .negative := by
  have hvalue : 0 < b.value := mul_pos (by exact_mod_cast hpos) (zpow_pos two_pos _)
  cases s
  · simpa [signed] using hvalue
  · simpa [signed] using hvalue.le

/-- **An exact value is turned into the double that it is the value of**, but for the negative zero. -/
theorem isNumber_of_unpack {x : Float} {s : Sign} {b : Binary} (hb : b.Canonical) (hfinite : b.overflows = false)
    (hx : x.toModel.unpack = unpacked s b) (hzero : s = .positive ∨ 0 < b.m) : IsNumber x := by
  refine ⟨signed s b.value, by rw [ofFloat?_eq, hx, exactValue?_unpacked], ext_unpack ?_⟩
  rw [hx]
  rcases Nat.eq_zero_or_pos b.m with hm | hpos
  · obtain rfl := hzero.resolve_right (by omega)
    have hvalue : b.value = 0 := by rw [Binary.value, hm, Nat.cast_zero, zero_mul]
    have hzero : (toFloat 0).toModel.unpack = unpacked .positive ⟨0, Binary.minExponent⟩ := unpack_toFloat (by decide)
    rw [signed, hvalue, hzero, unpacked, unpacked, dif_neg (by decide), dif_neg (by omega)]
  · have hquotient := ofQuotient_signed s hb hpos
    rw [unpack_toFloat (by rw [hquotient]; exact hfinite), hquotient]
    cases s
    · rw [if_pos ((signed_num_neg_iff _ hpos).2 rfl)]
    · rw [if_neg fun h => Sign.noConfusion ((signed_num_neg_iff _ hpos).1 h)]

theorem isNumber_toFloat {r : ℚ} (hr : 0 ≤ r) (hfinite : (Binary.ofQuotient r.num.natAbs r.den).overflows = false) :
    IsNumber (toFloat r) :=
  isNumber_of_unpack (Binary.canonical_ofQuotient r.num.natAbs r.den_pos) hfinite (unpack_toFloat hfinite)
    (.inl (if_neg (not_lt.2 (Rat.num_nonneg.2 hr))))

theorem positive_toFloat {r : ℚ} (hr : 0 ≤ r) (hfinite : (Binary.ofQuotient r.num.natAbs r.den).overflows = false)
    (hpos : 0 < (Binary.ofQuotient r.num.natAbs r.den).m) : Positive (toFloat r) := by
  refine ⟨(Binary.ofQuotient r.num.natAbs r.den).value, ?_, mul_pos (by exact_mod_cast hpos) (zpow_pos two_pos _)⟩
  rw [ofFloat?_eq, unpack_toFloat hfinite, exactValue?_unpacked, if_neg (not_lt.2 (Rat.num_nonneg.2 hr)), signed]

/-! ## Writing and reading -/

/-- The decimal that is written stands for the same double as the number. -/
theorem toFloat_shown {r : ℚ} (h : (text? r).isSome = true)
    (hneg : r < 0 → 0 < (Binary.ofQuotient r.num.natAbs r.den).m) : toFloat (shown r) = toFloat r := by
  unfold toFloat
  simp only [ofQuotient_shown h, num_shown_neg_iff h hneg]

/-- **A finite double is written and read back**, but for the negative zero. -/
theorem text?_of_ofFloat? {x : Float} {r : ℚ} (h : ofFloat? x = some r) :
    (text? r).isSome = true ∧ toFloat (shown r) = toFloat r := by
  obtain ⟨s, b, hb, hfinite, -, rfl⟩ := exists_unpacked h
  rcases Nat.eq_zero_or_pos b.m with hm | hpos
  · have hzero : signed s b.value = 0 := by
      have hvalue : b.value = 0 := by rw [Binary.value, hm, Nat.cast_zero, zero_mul]
      cases s <;> simp [signed, hvalue]
    rw [hzero]
    exact ⟨by decide, rfl⟩
  · have hquotient := ofQuotient_signed s hb hpos
    have htext := (text?_isSome_iff (signed s b.value)).2 (.inr (by rw [hquotient]; exact hfinite))
    exact ⟨htext, toFloat_shown htext fun _ => by rw [hquotient]; exact hpos⟩

/-- A number whose double is finite is itself within the doubles. -/
theorem not_overflows {r x : ℚ} (h : ofFloat? (toFloat r) = some x) :
    (Binary.ofQuotient r.num.natAbs r.den).overflows = false := by
  by_contra hfinite
  rw [Bool.not_eq_false] at hfinite
  have hbits : (Binary.ofQuotient r.num.natAbs r.den).bits = 0x7ff0000000000000 := by
    rw [Binary.bits, if_pos hfinite]
  unfold toFloat at h
  simp only [hbits] at h
  split_ifs at h with hneg
  · exact Option.some_ne_none x (h.symm.trans rfl)
  · exact Option.some_ne_none x (h.symm.trans rfl)

/-- A number whose double is positive is itself positive, and can be written. -/
theorem text?_of_positive {r : ℚ} (h : Positive (toFloat r)) :
    (text? r).isSome = true ∧ 0 < r ∧ 0 < (Binary.ofQuotient r.num.natAbs r.den).m := by
  obtain ⟨x, hx, hpos⟩ := h
  have hfinite := not_overflows hx
  rw [ofFloat?_eq, unpack_toFloat hfinite, exactValue?_unpacked, Option.some.injEq] at hx
  have hm : 0 < (Binary.ofQuotient r.num.natAbs r.den).m := by
    refine Nat.pos_of_ne_zero fun hzero => hpos.ne' ?_
    rw [← hx, Binary.value, hzero, Nat.cast_zero, zero_mul]
    split_ifs <;> simp [signed]
  have hvalue : 0 ≤ (Binary.ofQuotient r.num.natAbs r.den).value := by
    unfold Binary.value
    positivity
  have hnonneg : 0 ≤ r := by
    by_contra hneg
    rw [if_pos (Rat.num_neg.2 (not_le.1 hneg)), signed] at hx
    linarith
  refine ⟨(text?_isSome_iff r).2 (.inr hfinite), lt_of_le_of_ne hnonneg ?_, hm⟩
  rintro rfl
  exact absurd hm (by decide)

end CodeAtlas.Number
