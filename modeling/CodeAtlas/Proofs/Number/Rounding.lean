import CodeAtlas.Number.Shortest
import Mathlib.Algebra.Order.Field.Basic
import Mathlib.Algebra.Order.Field.Power
import Mathlib.Algebra.Order.Field.Rat
import Mathlib.Tactic.FieldSimp
import Mathlib.Tactic.Linarith
import Mathlib.Tactic.NormNum
import Mathlib.Tactic.Positivity
import Mathlib.Tactic.Ring

set_option autoImplicit false

/-! # Rounding to the nearest double

A rational that lies in the rounding interval of a double rounds to that double (`ofQuotient_eq_of_roundsTo`). The
exponent is found first: `HasExponent` says which one a positive rational has, and no rational has two of them. Then
the rational is rounded in units of that power of two, to the nearest whole number and of two to the even one
(`Nearest`), which is again unique. -/

namespace CodeAtlas.Number.Binary

/-! ## The nearest whole number -/

/-- `m` is nearest to `y`; a whole number that is no nearer than another one is even. -/
structure Nearest (y : ℚ) (m : ℕ) : Prop where
  lower : (m : ℚ) - 1 / 2 ≤ y
  upper : y ≤ (m : ℚ) + 1 / 2
  odd : m % 2 = 1 → (m : ℚ) - 1 / 2 < y ∧ y < (m : ℚ) + 1 / 2

theorem Nearest.not_lt {y : ℚ} {m n : ℕ} (hm : Nearest y m) (hn : Nearest y n) : ¬ m < n := by
  intro hlt
  have hstep : (m : ℚ) + 1 ≤ n := by exact_mod_cast hlt
  have hupper := hm.upper
  have hlower := hn.lower
  -- the two are neighbours with `y` half-way between them, and one of them is odd
  have hnext : n = m + 1 := by
    have : (n : ℚ) ≤ m + 1 := by linarith
    have : n ≤ m + 1 := by exact_mod_cast this
    omega
  rcases Nat.mod_two_eq_zero_or_one m with heven | hodd
  · have := (hn.odd (by omega)).1
    linarith
  · have := (hm.odd hodd).2
    linarith

theorem Nearest.eq {y : ℚ} {m n : ℕ} (hm : Nearest y m) (hn : Nearest y n) : m = n :=
  Nat.le_antisymm (Nat.not_lt.1 (hn.not_lt hm)) (Nat.not_lt.1 (hm.not_lt hn))

theorem nearest_roundQuotient (num : ℕ) {den : ℕ} (hden : 0 < den) :
    Nearest ((num : ℚ) / den) (roundQuotient num den) := by
  have hden' : (0 : ℚ) < den := by exact_mod_cast hden
  have hdiv : (num : ℚ) / den = (num / den : ℕ) + ((num % den : ℕ) : ℚ) / den := by
    rw [← mul_right_inj' hden'.ne', mul_add, mul_div_cancel₀ _ hden'.ne', mul_div_cancel₀ _ hden'.ne']
    exact_mod_cast (Nat.div_add_mod num den).symm
  have hlt : ((num % den : ℕ) : ℚ) / den < 1 := (div_lt_one hden').2 (by exact_mod_cast Nat.mod_lt num hden)
  have hnonneg : (0 : ℚ) ≤ ((num % den : ℕ) : ℚ) / den := by positivity
  unfold roundQuotient
  simp only []
  split_ifs with hbelow habove heven
  · have hr : ((num % den : ℕ) : ℚ) / den < 1 / 2 := by
      rw [div_lt_div_iff₀ hden' two_pos]
      exact_mod_cast (by omega : num % den * 2 < 1 * den)
    constructor <;> intros <;> (try constructor) <;> linarith
  · have hr : 1 / 2 < ((num % den : ℕ) : ℚ) / den := by
      rw [div_lt_div_iff₀ two_pos hden']
      exact_mod_cast (by omega : 1 * den < num % den * 2)
    constructor <;> push_cast <;> intros <;> (try constructor) <;> linarith
  all_goals
    have hr : ((num % den : ℕ) : ℚ) / den = 1 / 2 := by
      rw [div_eq_div_iff hden'.ne' two_ne_zero]
      exact_mod_cast (by omega : num % den * 2 = 1 * den)
  · exact ⟨by linarith, by linarith, fun hodd => by omega⟩
  · exact ⟨by push_cast; linarith, by push_cast; linarith, fun hodd => by omega⟩

theorem nearest_inUnits (num : ℕ) {den : ℕ} (hden : 0 < den) (q : ℤ) :
    Nearest ((num : ℚ) / den / 2 ^ q) (inUnits num den q) := by
  unfold inUnits
  split_ifs with hq
  · have h := @nearest_roundQuotient num (den <<< q.toNat) (by rw [Nat.shiftLeft_eq]; positivity)
    have hpow : (2 : ℚ) ^ q = 2 ^ q.toNat := by rw [← zpow_natCast, Int.toNat_of_nonneg hq]
    rw [Nat.shiftLeft_eq, Nat.cast_mul, Nat.cast_pow, Nat.cast_two, ← hpow, ← div_div] at h
    rwa [Nat.shiftLeft_eq]
  · have h := nearest_roundQuotient (num <<< (-q).toNat) hden
    have hpow : (2 : ℚ) ^ q = (2 ^ (-q).toNat)⁻¹ := by
      rw [← zpow_natCast, Int.toNat_of_nonneg (by omega), ← zpow_neg, neg_neg]
    rw [hpow, div_inv_eq_mul, div_mul_eq_mul_div]
    rwa [Nat.shiftLeft_eq, Nat.cast_mul, Nat.cast_pow, Nat.cast_two, ← Nat.shiftLeft_eq] at h

/-! ## The exponent -/

theorem natAbs_div_den {x : ℚ} (h : 0 < x) : ((x.num.natAbs : ℕ) : ℚ) / x.den = x := by
  rw [Nat.cast_natAbs, abs_of_pos (Rat.num_pos.2 h), Rat.num_div_den]

/-- The exponent at which the rational is rounded: with 53 binary digits, or fewer at the least exponent of all. -/
structure HasExponent (x : ℚ) (q : ℤ) : Prop where
  least : minExponent ≤ q
  upper : x < limit * 2 ^ q
  lower : q = minExponent ∨ fullWidth * 2 ^ q ≤ x

theorem limit_eq : (limit : ℚ) = 2 * fullWidth := by norm_num [limit, fullWidth]

theorem limit_mul_zpow (q : ℤ) : (limit : ℚ) * 2 ^ q = fullWidth * 2 ^ (q + 1) := by
  rw [limit_eq, zpow_add_one₀ two_ne_zero]
  ring

theorem HasExponent.le {x : ℚ} {q r : ℤ} (hq : HasExponent x q) (hr : HasExponent x r) : q ≤ r := by
  by_contra hlt
  have hleast := hr.least
  have hlower := hq.lower.resolve_left (by omega)
  have hpow : (2 : ℚ) ^ (r + 1) ≤ 2 ^ q := zpow_le_zpow_right₀ one_le_two (by omega)
  have hupper := hr.upper
  rw [limit_mul_zpow] at hupper
  have hwidth : (0 : ℚ) < fullWidth := by norm_num [fullWidth]
  exact absurd (hupper.trans_le ((mul_le_mul_of_nonneg_left hpow hwidth.le).trans hlower)) (lt_irrefl _)

theorem HasExponent.eq {x : ℚ} {q r : ℤ} (hq : HasExponent x q) (hr : HasExponent x r) : q = r :=
  le_antisymm (hq.le hr) (hr.le hq)

theorem le_quotient_iff (k num : ℕ) {den : ℕ} (hden : 0 < den) (g : ℤ) :
    k ≤ (if 0 ≤ g then num / (den <<< g.toNat) else (num <<< (-g).toNat) / den)
      ↔ (k : ℚ) * 2 ^ g ≤ (num : ℚ) / den := by
  have hden' : (0 : ℚ) < den := by exact_mod_cast hden
  rw [le_div_iff₀ hden']
  split_ifs with hg
  · have hpow : (2 : ℚ) ^ g = ((2 ^ g.toNat : ℕ) : ℚ) := by
      rw [Nat.cast_pow, Nat.cast_two, ← zpow_natCast, Int.toNat_of_nonneg hg]
    rw [Nat.shiftLeft_eq, Nat.le_div_iff_mul_le (by positivity), hpow, mul_assoc, mul_comm den]
    norm_cast
  · have hpow : (2 : ℚ) ^ g = ((2 ^ (-g).toNat : ℕ) : ℚ)⁻¹ := by
      rw [Nat.cast_pow, Nat.cast_two, ← zpow_natCast, Int.toNat_of_nonneg (by omega), ← zpow_neg, neg_neg]
    have hpos : (0 : ℚ) < ((2 ^ (-g).toNat : ℕ) : ℚ) := by positivity
    rw [Nat.shiftLeft_eq, Nat.le_div_iff_mul_le hden, hpow, mul_right_comm, ← div_eq_mul_inv, div_le_iff₀ hpos]
    norm_cast

/-- The binary lengths of two numbers place their quotient between powers of two. -/
theorem quotient_bounds {num den : ℕ} (hnum : 0 < num) (hden : 0 < den) :
    (2 : ℚ) ^ ((num.log2 : ℤ) - den.log2 - 1) ≤ (num : ℚ) / den ∧
      (num : ℚ) / den < 2 ^ ((num.log2 : ℤ) - den.log2 + 1) := by
  have hden' : (0 : ℚ) < den := by exact_mod_cast hden
  have hnumlo : (2 : ℚ) ^ (num.log2 : ℤ) ≤ num := by exact_mod_cast Nat.log2_self_le hnum.ne'
  have hnumhi : (num : ℚ) < 2 ^ ((num.log2 : ℤ) + 1) := by exact_mod_cast Nat.lt_log2_self (n := num)
  have hdenlo : (2 : ℚ) ^ (den.log2 : ℤ) ≤ den := by exact_mod_cast Nat.log2_self_le hden.ne'
  have hdenhi : (den : ℚ) < 2 ^ ((den.log2 : ℤ) + 1) := by exact_mod_cast Nat.lt_log2_self (n := den)
  constructor
  · rw [le_div_iff₀ hden']
    calc (2 : ℚ) ^ ((num.log2 : ℤ) - den.log2 - 1) * den
        ≤ 2 ^ ((num.log2 : ℤ) - den.log2 - 1) * 2 ^ ((den.log2 : ℤ) + 1) := by gcongr
      _ = 2 ^ (num.log2 : ℤ) := by
        rw [← zpow_add₀ two_ne_zero]
        congr 1
        omega
      _ ≤ num := hnumlo
  · rw [div_lt_iff₀ hden']
    calc (num : ℚ) < 2 ^ ((num.log2 : ℤ) + 1) := hnumhi
      _ = 2 ^ ((num.log2 : ℤ) - den.log2 + 1) * 2 ^ (den.log2 : ℤ) := by
        rw [← zpow_add₀ two_ne_zero]
        congr 1
        omega
      _ ≤ 2 ^ ((num.log2 : ℤ) - den.log2 + 1) * den := by gcongr

/-- The exponent of a quotient is found from the binary lengths of its two numbers. -/
theorem hasExponent_exponentFor {num den : ℕ} (hnum : 0 < num) (hden : 0 < den) :
    HasExponent ((num : ℚ) / den) (exponentFor num den) := by
  obtain ⟨guess, hguess⟩ : ∃ g : ℤ, g = (num.log2 : ℤ) - (den.log2 : ℤ) - 53 := ⟨_, rfl⟩
  obtain ⟨hlower, hupper⟩ := quotient_bounds hnum hden
  -- the guess is right or one too small
  have hlower : (fullWidth : ℚ) * 2 ^ guess ≤ (num : ℚ) / den := by
    have hwidth : (fullWidth : ℚ) = 2 ^ (52 : ℤ) := by norm_num [fullWidth]
    rwa [hwidth, ← zpow_add₀ two_ne_zero, hguess, show (52 : ℤ) + (num.log2 - den.log2 - 53) = num.log2 - den.log2 - 1
      by omega]
  have hupper : (num : ℚ) / den < limit * 2 ^ (guess + 1) := by
    have hwide : (limit : ℚ) = 2 ^ (53 : ℤ) := by norm_num [limit]
    rwa [hwide, ← zpow_add₀ two_ne_zero, hguess,
      show (53 : ℤ) + (num.log2 - den.log2 - 53 + 1) = num.log2 - den.log2 + 1 by omega]
  have hfit : ∃ g, (num : ℚ) / den < limit * 2 ^ g ∧ fullWidth * 2 ^ g ≤ (num : ℚ) / den
      ∧ exponentFor num den = max minExponent g := by
    unfold exponentFor
    simp only [← hguess, le_quotient_iff limit num hden]
    split_ifs with hwider
    · exact ⟨guess + 1, hupper, by rwa [← limit_mul_zpow], rfl⟩
    · exact ⟨guess, not_le.1 hwider, hlower, rfl⟩
  obtain ⟨g, hg, hg', heq⟩ := hfit
  rw [heq]
  rcases le_total g minExponent with hle | hle
  · rw [max_eq_left hle]
    have hmono : (2 : ℚ) ^ g ≤ 2 ^ minExponent := zpow_le_zpow_right₀ one_le_two hle
    exact ⟨le_rfl, hg.trans_le (by gcongr), .inl rfl⟩
  · rw [max_eq_right hle]
    exact ⟨hle, hg, .inr hg'⟩

/-! ## Doubles and their rounding intervals -/

/-- A double with 53 binary digits, or fewer at the least exponent of all. -/
structure Canonical (b : Binary) : Prop where
  m_lt : b.m < limit
  least : minExponent ≤ b.q
  full : b.q = minExponent ∨ fullWidth ≤ b.m

/-- How far the rounding interval of a double reaches down, in units of its last digit: half a unit, and half of that
    for a power of two, below which the doubles are twice as dense. -/
def reach (b : Binary) : ℚ :=
  if b.m = fullWidth ∧ b.q ≠ minExponent then 1 / 4 else 1 / 2

/-- The rounding interval of a double; an odd one does not own its ends. -/
theorem roundsTo_iff (b : Binary) (x : ℚ) : roundsTo b x = true ↔
    (b.m - reach b) * 2 ^ b.q ≤ x ∧ x ≤ (b.m + 1 / 2) * 2 ^ b.q ∧
      (b.m % 2 = 1 → (b.m - reach b) * 2 ^ b.q < x ∧ x < (b.m + 1 / 2) * 2 ^ b.q) := by
  have hlo : b.value - (if b.m = fullWidth ∧ b.q ≠ minExponent then (2 : ℚ) ^ b.q / 4 else 2 ^ b.q / 2)
      = (b.m - reach b) * 2 ^ b.q := by
    rw [value, reach]
    split_ifs <;> ring
  have hhi : b.value + 2 ^ b.q / 2 = (b.m + 1 / 2) * 2 ^ b.q := by
    rw [value]
    ring
  simp only [roundsTo, roundingInterval, hlo, hhi, decide_eq_true_eq]
  split_ifs with heven
  · have hodd : ¬ b.m % 2 = 1 := by omega
    simp [hodd]
  · have hodd : b.m % 2 = 1 := by omega
    simp only [Bool.and_eq_true, decide_eq_true_eq, hodd, forall_const]
    exact ⟨fun h => ⟨h.1.le, h.2.le, h⟩, fun h => h.2.2⟩

theorem roundsTo_value (b : Binary) : roundsTo b b.value = true := by
  have hpow : (0 : ℚ) < 2 ^ b.q := zpow_pos two_pos _
  have hreach : 0 < reach b := by
    unfold reach
    split_ifs <;> norm_num
  have hlo : (b.m - reach b) * 2 ^ b.q < b.m * 2 ^ b.q := by gcongr; linarith
  have hhi : (b.m : ℚ) * 2 ^ b.q < (b.m + 1 / 2) * 2 ^ b.q := by gcongr; linarith
  exact (roundsTo_iff b b.value).2 ⟨hlo.le, hhi.le, fun _ => ⟨hlo, hhi⟩⟩

/-- The digits of a rational in units of the power that goes with its exponent. -/
theorem inUnits_bounds {num den : ℕ} (hden : 0 < den) {q : ℤ} (hq : HasExponent ((num : ℚ) / den) q) :
    inUnits num den q ≤ limit ∧ (q = minExponent ∨ fullWidth ≤ inUnits num den q) := by
  have hnear := nearest_inUnits num hden q
  have hpow : (0 : ℚ) < 2 ^ q := zpow_pos two_pos q
  have hupper : (num : ℚ) / den / 2 ^ q < limit := (div_lt_iff₀ hpow).2 hq.upper
  constructor
  · have hlt : ((inUnits num den q : ℕ) : ℚ) < limit + 1 := by linarith [hnear.lower]
    exact Nat.lt_succ_iff.1 (by exact_mod_cast hlt)
  · refine hq.lower.imp_right fun hlower => ?_
    have hlower : (fullWidth : ℚ) ≤ (num : ℚ) / den / 2 ^ q := (le_div_iff₀ hpow).2 hlower
    have hlt : (fullWidth : ℚ) < ((inUnits num den q : ℕ) : ℚ) + 1 := by linarith [hnear.upper]
    exact Nat.lt_succ_iff.1 (by exact_mod_cast hlt)

theorem canonical_ofQuotient (num : ℕ) {den : ℕ} (hden : 0 < den) : Canonical (ofQuotient num den) := by
  unfold ofQuotient
  simp only []
  split_ifs with hnum hcarry
  · exact ⟨by decide, le_rfl, .inl rfl⟩
  · have hleast := (hasExponent_exponentFor (Nat.pos_of_ne_zero hnum) hden).least
    have hfull : fullWidth < limit := by decide
    exact ⟨hfull, hleast.trans (Int.le_add_one le_rfl), .inr le_rfl⟩
  · have hq := hasExponent_exponentFor (Nat.pos_of_ne_zero hnum) hden
    have hbounds := inUnits_bounds hden hq
    exact ⟨lt_of_le_of_ne hbounds.1 hcarry, hq.least, hbounds.2⟩

/-- The rational is rounded at its own exponent, to the nearest whole number of units. -/
theorem ofQuotient_eq {num den : ℕ} (hnum : 0 < num) (hden : 0 < den) {q : ℤ} {m : ℕ}
    (hq : HasExponent ((num : ℚ) / den) q) (hm : Nearest ((num : ℚ) / den / 2 ^ q) m) :
    ofQuotient num den = if m = limit then ⟨fullWidth, q + 1⟩ else ⟨m, q⟩ := by
  have hexponent : exponentFor num den = q := (hasExponent_exponentFor hnum hden).eq hq
  have hdigits : inUnits num den q = m := (nearest_inUnits num hden q).eq hm
  rw [ofQuotient, if_neg hnum.ne', hexponent]
  simp only [hdigits]

/-- **A rational in the rounding interval of a positive double rounds to it.** -/
theorem ofQuotient_eq_of_roundsTo {b : Binary} (hb : Canonical b) (hpos : 0 < b.m) {x : ℚ}
    (hx : roundsTo b x = true) : ofQuotient x.num.natAbs x.den = b := by
  obtain ⟨hlo, hhi, hodd⟩ := (roundsTo_iff b x).1 hx
  have hpow (q : ℤ) : (0 : ℚ) < 2 ^ q := zpow_pos two_pos q
  have hreach : reach b ≤ 1 / 2 := by
    unfold reach
    split_ifs <;> norm_num
  have hone : (1 : ℚ) ≤ b.m := by exact_mod_cast hpos
  have hx0 : 0 < x := lt_of_lt_of_le (mul_pos (by linarith) (hpow b.q)) hlo
  have hnum : 0 < x.num.natAbs := Int.natAbs_pos.2 (Rat.num_pos.2 hx0).ne'
  have hquot := natAbs_div_den hx0
  have hlimit : (b.m : ℚ) + 1 ≤ limit := by exact_mod_cast hb.m_lt
  by_cases hbelow : b.q = minExponent ∨ fullWidth * 2 ^ b.q ≤ x
  · -- the rational has the exponent of the double
    have hq : HasExponent x b.q := ⟨hb.least, hhi.trans_lt (by gcongr; linarith), hbelow⟩
    have hlow : (b.m - 1 / 2) * 2 ^ b.q ≤ (b.m - reach b) * 2 ^ b.q := by gcongr
    have hm : Nearest (x / 2 ^ b.q) b.m :=
      ⟨(le_div_iff₀ (hpow _)).2 (hlow.trans hlo), (div_le_iff₀ (hpow _)).2 hhi, fun ho =>
        ⟨(lt_div_iff₀ (hpow _)).2 (hlow.trans_lt (hodd ho).1), (div_lt_iff₀ (hpow _)).2 (hodd ho).2⟩⟩
    rw [ofQuotient_eq hnum x.den_pos (hquot.symm ▸ hq) (hquot.symm ▸ hm), if_neg hb.m_lt.ne]
  · -- the double is a power of two, and the rational below it is rounded up to it
    rw [not_or, not_le] at hbelow
    obtain ⟨hq, hlt⟩ := hbelow
    have hfull := hb.full.resolve_left hq
    have hm : b.m = fullWidth := by
      have hbound : (b.m - reach b) * 2 ^ b.q < fullWidth * 2 ^ b.q := hlo.trans_lt hlt
      have hsmall := lt_of_mul_lt_mul_right hbound (hpow b.q).le
      have hnext : (b.m : ℚ) < fullWidth + 1 := by linarith
      have hnext : b.m < fullWidth + 1 := by exact_mod_cast hnext
      omega
    have hunit : (2 : ℚ) ^ b.q = 2 * 2 ^ (b.q - 1) := by
      rw [mul_comm, ← zpow_add_one₀ two_ne_zero, sub_add_cancel]
    have hlow : (limit - 1 / 2) * 2 ^ (b.q - 1) ≤ x := by
      rw [reach, if_pos ⟨hm, hq⟩, hunit, hm] at hlo
      rw [limit_eq]
      linarith
    have hup : x < limit * 2 ^ (b.q - 1) := by
      rw [hunit] at hlt
      rw [limit_eq]
      linarith
    have hleast := hb.least
    have hexponent : HasExponent x (b.q - 1) := by
      refine ⟨by omega, hup, .inr (le_trans ?_ hlow)⟩
      gcongr
      norm_num [limit, fullWidth]
    have hnear : Nearest (x / 2 ^ (b.q - 1)) limit :=
      ⟨(le_div_iff₀ (hpow _)).2 hlow, ((div_lt_iff₀ (hpow _)).2 hup).le.trans (by linarith),
        fun ho => absurd ho (by decide)⟩
    rw [ofQuotient_eq hnum x.den_pos (hquot.symm ▸ hexponent) (hquot.symm ▸ hnear), if_pos rfl, sub_add_cancel, ← hm]

/-- A positive double is the one that its value rounds to. -/
theorem ofQuotient_value {b : Binary} (hb : Canonical b) (hpos : 0 < b.m) :
    ofQuotient b.value.num.natAbs b.value.den = b :=
  ofQuotient_eq_of_roundsTo hb hpos (roundsTo_value b)

end CodeAtlas.Number.Binary
