import CodeAtlas.Proofs.Number.Rounding
import Mathlib.Data.Rat.Floor

set_option autoImplicit false

/-! # The shortest decimal

The decimal that is written for a double rounds to that double (`roundsTo_shortest`). The search goes from coarse grids
of powers of ten to finer ones and takes only what lies in the rounding interval; the finest grid, which splits the
leading decimal place of the value into `10^16` parts, has less than a unit between its points, so the search ends
there at the latest. -/

namespace CodeAtlas.Number

open Binary

/-! ## The decimal exponent -/

/-- The powers of two up to `2^1200` are no shorter in decimals than `0.30103` digits for each factor says. -/
theorem ten_pow_le_two_pow : ∀ k < 1200, 10 ^ (k * 30103 / 100000) ≤ 5 * 2 ^ k := by decide +kernel

/-- Nor are they longer. -/
theorem two_pow_le_ten_pow : ∀ k < 1200, 2 ^ k ≤ 5 * 10 ^ ((k * 30103 + 99999) / 100000) := by decide +kernel

theorem ten_zpow_le_two_zpow {l : ℤ} (h : l.natAbs < 1200) : (10 : ℚ) ^ (l * 30103 / 100000 - 1) ≤ 2 ^ (l - 1) := by
  rw [zpow_sub_one₀ (by norm_num), zpow_sub_one₀ two_ne_zero, ← div_eq_mul_inv, ← div_eq_mul_inv,
    div_le_div_iff₀ (by norm_num) two_pos]
  rcases Int.eq_nat_or_neg l with ⟨k, rfl | rfl⟩
  · have hle := ten_pow_le_two_pow k (by simpa using h)
    rw [show (k : ℤ) * 30103 / 100000 = ((k * 30103 / 100000 : ℕ) : ℤ) by omega, zpow_natCast, zpow_natCast]
    have hle : (10 : ℚ) ^ (k * 30103 / 100000) ≤ 5 * 2 ^ k := by exact_mod_cast hle
    linarith
  · have hle := two_pow_le_ten_pow k (by simpa using h)
    rw [show -(k : ℤ) * 30103 / 100000 = -(((k * 30103 + 99999) / 100000 : ℕ) : ℤ) by omega, zpow_neg, zpow_neg,
      zpow_natCast, zpow_natCast, inv_mul_eq_div, inv_mul_eq_div, div_le_div_iff₀ (by positivity) (by positivity)]
    have hle : (2 : ℚ) ^ k ≤ 5 * 10 ^ ((k * 30103 + 99999) / 100000) := by exact_mod_cast hle
    linarith

/-- The value of a positive double, by its digits. -/
theorem value_bounds {b : Binary} (hb : Canonical b) (hpos : 0 < b.m) :
    (2 : ℚ) ^ b.q ≤ b.value ∧ b.value < limit * 2 ^ b.q := by
  have hpow : (0 : ℚ) < 2 ^ b.q := zpow_pos two_pos _
  have hone : (1 : ℚ) ≤ b.m := by exact_mod_cast hpos
  have hlt : (b.m : ℚ) < limit := by exact_mod_cast hb.m_lt
  exact ⟨by rw [value]; nlinarith, by rw [value]; gcongr⟩

/-- The decimal exponent of a double is found, up to its first place, and it is moderate. -/
theorem decimalExponent_value {b : Binary} (hb : Canonical b) (hpos : 0 < b.m) (hfinite : b.overflows = false) :
    (10 : ℚ) ^ (decimalExponent b.value - 1) ≤ b.value ∧ -400 < decimalExponent b.value ∧
      decimalExponent b.value < 400 := by
  obtain ⟨hlo, hhi⟩ := value_bounds hb hpos
  have hvalue : 0 < b.value := (zpow_pos two_pos _).trans_le hlo
  have hnum : 0 < b.value.num.natAbs := Int.natAbs_pos.2 (Rat.num_pos.2 hvalue).ne'
  have hquot := natAbs_div_den hvalue
  obtain ⟨l, hl⟩ : ∃ l : ℤ, l = (b.value.num.natAbs.log2 : ℤ) - b.value.den.log2 := ⟨_, rfl⟩
  have hbounds := quotient_bounds hnum b.value.den_pos
  rw [hquot, ← hl] at hbounds
  have hleast := hb.least
  rw [overflows, decide_eq_false_iff_not, not_lt] at hfinite
  have hmin : minExponent = -1074 := rfl
  have hrange : l.natAbs < 1200 := by
    have hupper : (2 : ℚ) ^ (l - 1) < 2 ^ (53 + b.q) := by
      calc (2 : ℚ) ^ (l - 1) ≤ b.value := hbounds.1
        _ < limit * 2 ^ b.q := hhi
        _ = 2 ^ (53 + b.q) := by rw [zpow_add₀ two_ne_zero]; norm_num [limit]
    have hlower : (2 : ℚ) ^ b.q < 2 ^ (l + 1) := hlo.trans_lt hbounds.2
    have hupper := (zpow_lt_zpow_iff_right₀ one_lt_two).1 hupper
    have hlower := (zpow_lt_zpow_iff_right₀ one_lt_two).1 hlower
    omega
  have hguess := (ten_zpow_le_two_zpow hrange).trans hbounds.1
  unfold decimalExponent
  simp only [← hl]
  split_ifs with hfirst hsecond
  · exact ⟨hguess, by omega, by omega⟩
  · exact ⟨by rw [add_sub_cancel_right]; exact not_lt.1 hfirst, by omega, by omega⟩
  · refine ⟨?_, by omega, by omega⟩
    rw [show l * 30103 / 100000 + 2 - 1 = l * 30103 / 100000 + 1 by omega]
    exact not_lt.1 hsecond

/-! ## The search -/

theorem roundsTo_of_lt {b : Binary} {x : ℚ} (hlo : (b.m - reach b) * 2 ^ b.q < x) (hhi : x < (b.m + 1 / 2) * 2 ^ b.q) :
    roundsTo b x = true :=
  (roundsTo_iff b x).2 ⟨hlo.le, hhi.le, fun _ => ⟨hlo, hhi⟩⟩

/-- What a grid yields rounds to the double. -/
theorem onGrid?_eq_some {b : Binary} {k : ℤ} {d : Decimal} (h : onGrid? b k = some d) :
    roundsTo b d.value = true ∧ d.exponent = k := by
  unfold onGrid? at h
  simp only [] at h
  split at h
  · next hlo hhi =>
      obtain rfl := Option.some.inj h
      split_ifs
      · exact ⟨hhi, rfl⟩
      · exact ⟨hlo, rfl⟩
  · next hlo _ =>
      obtain rfl := Option.some.inj h
      exact ⟨hlo, rfl⟩
  · next _ hhi =>
      obtain rfl := Option.some.inj h
      exact ⟨hhi, rfl⟩
  · exact absurd h (by simp)

/-- A grid with less than the rounding interval between its points yields something. -/
theorem onGrid?_isSome {b : Binary} {k : ℤ} (hvalue : 0 < b.value)
    (hfine : (10 : ℚ) ^ k < (reach b + 1 / 2) * 2 ^ b.q) : (onGrid? b k).isSome = true := by
  have hten : (0 : ℚ) < 10 ^ k := zpow_pos (by norm_num) k
  have hpow : (0 : ℚ) < 2 ^ b.q := zpow_pos two_pos _
  have hreach : 0 < reach b := by
    unfold reach
    split_ifs <;> norm_num
  obtain ⟨n, hn⟩ : ∃ n, n = (b.value / (10 : ℚ) ^ k).floor.toNat := ⟨_, rfl⟩
  have hfloor : ((n : ℕ) : ℤ) = ⌊b.value / (10 : ℚ) ^ k⌋ := by
    rw [hn]
    exact Int.toNat_of_nonneg (Int.floor_nonneg.2 (div_nonneg hvalue.le hten.le))
  have hlo : n * (10 : ℚ) ^ k ≤ b.value := by
    rw [← le_div_iff₀ hten]
    exact_mod_cast hfloor ▸ Int.floor_le (b.value / (10 : ℚ) ^ k)
  have hhi : b.value < (n + 1) * (10 : ℚ) ^ k := by
    rw [← div_lt_iff₀ hten]
    exact_mod_cast hfloor ▸ Int.lt_floor_add_one (b.value / (10 : ℚ) ^ k)
  -- of the two neighbours of the value, the lower one is near enough, or else the upper one is
  have heither : roundsTo b (Decimal.value ⟨n, k⟩) = true ∨ roundsTo b (Decimal.value ⟨n + 1, k⟩) = true := by
    rw [value] at hlo hhi
    by_cases hnear : (b.m - reach b) * 2 ^ b.q < n * (10 : ℚ) ^ k
    · exact .inl (roundsTo_of_lt hnear (by rw [Decimal.value]; linarith))
    · refine .inr (roundsTo_of_lt ?_ ?_) <;> rw [Decimal.value] <;> push_cast
      · have : 0 < reach b * 2 ^ b.q := mul_pos hreach hpow
        linarith
      · linarith
  unfold onGrid?
  simp only [← hn]
  rcases heither with h | h <;> rw [h] <;> split <;> simp_all

theorem roundsTo_shortestFrom {b : Binary} {e : ℤ} (h : (onGrid? b (e - 17)).isSome = true) (fuel : ℕ) :
    roundsTo b (shortestFrom b e (fuel + 1)).value = true ∧ e - 17 ≤ (shortestFrom b e (fuel + 1)).exponent ∧
      (shortestFrom b e (fuel + 1)).exponent ≤ e - 17 + fuel := by
  induction fuel with
  | zero =>
      obtain ⟨d, hd⟩ := Option.isSome_iff_exists.1 h
      obtain ⟨hround, hexponent⟩ := onGrid?_eq_some hd
      rw [shortestFrom, Nat.cast_zero, add_zero, hd]
      exact ⟨hround, hexponent.ge, hexponent.le⟩
  | succ fuel ih =>
      rw [shortestFrom]
      cases hgrid : onGrid? b (e - 17 + (fuel + 1 : ℕ)) with
      | none =>
          rw [Option.getD_none]
          exact ⟨ih.1, ih.2.1, ih.2.2.trans (by omega)⟩
      | some d =>
          obtain ⟨hround, hexponent⟩ := onGrid?_eq_some hgrid
          rw [Option.getD_some]
          exact ⟨hround, by omega, by omega⟩

theorem value_strip (fuel : ℕ) (d : Decimal) : (Decimal.strip fuel d).value = d.value ∧
    d.exponent ≤ (Decimal.strip fuel d).exponent ∧ (Decimal.strip fuel d).exponent ≤ d.exponent + fuel := by
  induction fuel generalizing d with
  | zero => exact ⟨rfl, le_rfl, by simp [Decimal.strip]⟩
  | succ fuel ih =>
      rw [Decimal.strip]
      split_ifs with hten
      · obtain ⟨hvalue, hlo, hhi⟩ := ih ⟨d.digits / 10, d.exponent + 1⟩
        simp only [] at hlo hhi
        refine ⟨hvalue.trans ?_, by omega, by push_cast; omega⟩
        have hdigits : (d.digits : ℚ) = 10 * (d.digits / 10 : ℕ) := by
          exact_mod_cast (show d.digits = 10 * (d.digits / 10) by omega)
        rw [Decimal.value, Decimal.value, zpow_add_one₀ (by norm_num), hdigits]
        ring
      · exact ⟨rfl, le_rfl, by omega⟩

/-- **The decimal that is written for a positive double rounds to it.** -/
theorem roundsTo_shortest {b : Binary} (hb : Canonical b) (hpos : 0 < b.m) (hfinite : b.overflows = false) :
    roundsTo b (shortest b).value = true ∧ -1000 < (shortest b).exponent ∧ (shortest b).exponent < 1000 := by
  obtain ⟨hten, hlo, hhi⟩ := decimalExponent_value hb hpos hfinite
  obtain ⟨hunit, hlimit⟩ := value_bounds hb hpos
  have hpow : (0 : ℚ) < 2 ^ b.q := zpow_pos two_pos _
  have hgrid : (onGrid? b (decimalExponent b.value - 17)).isSome = true := by
    refine onGrid?_isSome (hpow.trans_le hunit) ?_
    have hparts : (10 : ℚ) ^ (decimalExponent b.value - 17) * 10 ^ 16 ≤ b.value := by
      refine le_trans (le_of_eq ?_) hten
      rw [← zpow_natCast, ← zpow_add₀ (by norm_num)]
      congr 1
      push_cast
      ring
    unfold reach
    split_ifs with hpower
    · have hvalue : b.value = fullWidth * 2 ^ b.q := by rw [value, hpower.1]
      replace hparts := hparts.trans_eq hvalue
      have hwidth : (fullWidth : ℚ) < 3 / 4 * 10 ^ 16 := by norm_num [fullWidth]
      nlinarith
    · have hwide : (limit : ℚ) < 10 ^ 16 := by norm_num [limit]
      nlinarith
  obtain ⟨hround, hfrom, hto⟩ := roundsTo_shortestFrom hgrid 16
  rw [show 16 + 1 = 17 from rfl] at hround hfrom hto
  obtain ⟨hvalue, hfrom', hto'⟩ := value_strip 20 (shortestFrom b (decimalExponent b.value) 17)
  rw [shortest, if_neg hpos.ne', hvalue]
  exact ⟨hround, by omega, by omega⟩

theorem exponent_shortest {b : Binary} (hb : b.Canonical) (hfinite : b.overflows = false) :
    -4000 ≤ (shortest b).exponent ∧ (shortest b).exponent ≤ 4000 := by
  rcases Nat.eq_zero_or_pos b.m with hzero | hpos
  · rw [shortest, if_pos hzero]
    decide
  · obtain ⟨-, hlo, hhi⟩ := roundsTo_shortest hb hpos hfinite
    constructor <;> omega

/-! ## What a text shows -/

theorem shown_of_finite {r : ℚ} (hwhole : ¬ (r.den = 1 ∧ r.num.natAbs < limit))
    (hfinite : (ofQuotient r.num.natAbs r.den).overflows = false) :
    shown r = if r.num < 0 then -(shortest (ofQuotient r.num.natAbs r.den)).value
      else (shortest (ofQuotient r.num.natAbs r.den)).value := by
  simp only [shown, if_neg hwhole, hfinite, Bool.false_eq_true, if_false]

theorem shown_natCast {n : ℕ} (h : n < limit) : shown n = n := by
  rw [shown, if_pos ⟨Rat.den_natCast n, by simpa using h⟩]

/-- The decimal of a double rounds to it, also if it is zero. -/
theorem ofQuotient_shortest {b : Binary} (hb : Canonical b) (hfinite : b.overflows = false) :
    ofQuotient (shortest b).value.num.natAbs (shortest b).value.den = b := by
  rcases Nat.eq_zero_or_pos b.m with hzero | hpos
  · have hq : b.q = minExponent := hb.full.resolve_right (by rw [hzero]; decide)
    rw [shortest, if_pos hzero]
    obtain ⟨m, q⟩ := b
    simp only [] at hzero hq
    subst hzero hq
    simp [Decimal.value, ofQuotient]
  · exact ofQuotient_eq_of_roundsTo hb hpos (roundsTo_shortest hb hpos hfinite).1

/-- The double of a number whose text is not that of a whole number is finite. -/
theorem text?_isSome_iff (r : ℚ) : (text? r).isSome = true ↔
    (r.den = 1 ∧ r.num.natAbs < limit) ∨ (ofQuotient r.num.natAbs r.den).overflows = false := by
  unfold text?
  by_cases hwhole : r.den = 1 ∧ r.num.natAbs < limit
  · simp [hwhole]
  · cases hover : (ofQuotient r.num.natAbs r.den).overflows <;> simp [hwhole, hover]

/-- **A number and the decimal that its text shows are one double.** -/
theorem ofQuotient_shown {r : ℚ} (h : (text? r).isSome = true) :
    ofQuotient (shown r).num.natAbs (shown r).den = ofQuotient r.num.natAbs r.den := by
  by_cases hwhole : r.den = 1 ∧ r.num.natAbs < limit
  · rw [shown, if_pos hwhole]
  · have hfinite := ((text?_isSome_iff r).1 h).resolve_left hwhole
    have hshortest := ofQuotient_shortest (canonical_ofQuotient _ r.den_pos) hfinite
    rw [shown_of_finite hwhole hfinite]
    by_cases hneg : r.num < 0
    · rw [if_pos hneg, Rat.neg_num, Int.natAbs_neg, Rat.neg_den, hshortest]
    · rw [if_neg hneg, hshortest]

theorem shortest_value_nonneg (b : Binary) : 0 ≤ (shortest b).value :=
  mul_nonneg (Nat.cast_nonneg _) (zpow_nonneg (by norm_num) _)

theorem shortest_value_pos {b : Binary} (hb : Canonical b) (hpos : 0 < b.m) (hfinite : b.overflows = false) :
    0 < (shortest b).value := by
  refine lt_of_le_of_ne (shortest_value_nonneg b) fun hzero => ?_
  have hround := ofQuotient_shortest hb hfinite
  rw [← hzero] at hround
  rw [← hround] at hpos
  exact absurd hpos (by decide)

theorem shown_nonneg {r : ℚ} (h : 0 ≤ r) : 0 ≤ shown r := by
  have hnum : ¬ r.num < 0 := not_lt.2 (Rat.num_nonneg.2 h)
  simp only [shown, if_neg hnum]
  split_ifs
  · exact h
  · unfold infinity
    positivity
  · exact shortest_value_nonneg _

/-- The decimal has the sign of the number, unless that is too small to be told from zero. -/
theorem shown_pos {r : ℚ} (h : (text? r).isSome = true) (hr : 0 < r) (hpos : 0 < (ofQuotient r.num.natAbs r.den).m) :
    0 < shown r := by
  by_cases hwhole : r.den = 1 ∧ r.num.natAbs < limit
  · rwa [shown, if_pos hwhole]
  · have hfinite := ((text?_isSome_iff r).1 h).resolve_left hwhole
    rw [shown_of_finite hwhole hfinite, if_neg (not_lt.2 (Rat.num_pos.2 hr).le)]
    exact shortest_value_pos (canonical_ofQuotient _ r.den_pos) hpos hfinite

theorem shown_neg {r : ℚ} (h : (text? r).isSome = true) (hr : r < 0) (hpos : 0 < (ofQuotient r.num.natAbs r.den).m) :
    shown r < 0 := by
  by_cases hwhole : r.den = 1 ∧ r.num.natAbs < limit
  · rwa [shown, if_pos hwhole]
  · have hfinite := ((text?_isSome_iff r).1 h).resolve_left hwhole
    rw [shown_of_finite hwhole hfinite, if_pos (Rat.num_neg.2 hr)]
    exact neg_neg_of_pos (shortest_value_pos (canonical_ofQuotient _ r.den_pos) hpos hfinite)

theorem num_shown_neg_iff {r : ℚ} (h : (text? r).isSome = true)
    (hneg : r < 0 → 0 < (ofQuotient r.num.natAbs r.den).m) : (shown r).num < 0 ↔ r.num < 0 := by
  rw [Rat.num_neg, Rat.num_neg]
  exact ⟨fun hshown => not_le.1 fun hr => absurd (shown_nonneg hr) (not_le.2 hshown),
    fun hr => shown_neg h hr (hneg hr)⟩

/-- What a text shows is written as the same text. -/
theorem shown_shown {r : ℚ} (h : (text? r).isSome = true) : shown (shown r) = shown r := by
  by_cases hwhole : r.den = 1 ∧ r.num.natAbs < limit
  · rw [show shown r = r from if_pos hwhole, shown, if_pos hwhole]
  have hfinite := ((text?_isSome_iff r).1 h).resolve_left hwhole
  by_cases hwhole' : (shown r).den = 1 ∧ (shown r).num.natAbs < limit
  · exact if_pos hwhole'
  -- the decimal rounds to the double it is the shortest decimal of, so only the sign is left
  have hsame := ofQuotient_shown h
  have hpos : 0 < (ofQuotient r.num.natAbs r.den).m := Nat.pos_of_ne_zero fun hzero => hwhole' (by
    rw [shown_of_finite hwhole hfinite, shortest, if_pos hzero]
    simpa [Decimal.value] using (by decide : 0 < limit))
  rw [shown_of_finite hwhole' (by rwa [hsame]), hsame]
  simp only [num_shown_neg_iff h fun _ => hpos]
  exact (shown_of_finite hwhole hfinite).symm

/-- A fraction below one rounds to a double below one or to one itself. -/
theorem ofQuotient_of_lt_one {r : ℚ} (h0 : 0 < r) (h1 : r < 1) :
    (ofQuotient r.num.natAbs r.den).q ≤ -53 ∨ ofQuotient r.num.natAbs r.den = ⟨fullWidth, -52⟩ := by
  have hnum : 0 < r.num.natAbs := Int.natAbs_pos.2 (Rat.num_pos.2 h0).ne'
  have hq := hasExponent_exponentFor hnum r.den_pos
  rw [natAbs_div_den h0] at hq
  have hbelow : exponentFor r.num.natAbs r.den ≤ -53 := by
    rcases hq.lower with hmin | hlower
    · rw [hmin]
      decide
    · have hlt : (2 : ℚ) ^ (52 + exponentFor r.num.natAbs r.den) < 2 ^ (0 : ℤ) := by
        rw [zpow_add₀ two_ne_zero, zpow_zero]
        refine lt_of_le_of_lt (le_trans (le_of_eq ?_) hlower) h1
        norm_num [fullWidth]
      have hlt := (zpow_lt_zpow_iff_right₀ one_lt_two).1 hlt
      omega
  unfold ofQuotient
  simp only [hnum.ne', if_false]
  split_ifs with hcarry
  · rcases hbelow.lt_or_eq with hlt | heq
    · exact .inl (by simp only []; omega)
    · exact .inr (by rw [heq]; rfl)
  · exact .inl hbelow

/-- A number from 0 to 1 is one of the two or lies between them. -/
theorem whole_or_between {r : ℚ} (h0 : 0 ≤ r) (h1 : r ≤ 1) : (r.den = 1 ∧ r.num.natAbs < limit) ∨ 0 < r ∧ r < 1 := by
  rw [or_iff_not_imp_left]
  intro hwhole
  have hne (k : ℕ) (hk : k < limit) : r ≠ k := fun heq =>
    hwhole ⟨heq ▸ Rat.den_natCast k, by rw [heq, Rat.num_natCast]; simpa using hk⟩
  exact ⟨lt_of_le_of_ne h0 (by exact_mod_cast (hne 0 (by decide)).symm),
    lt_of_le_of_ne h1 (by exact_mod_cast hne 1 (by decide))⟩

theorem text?_isSome_of_le_one {r : ℚ} (h0 : 0 ≤ r) (h1 : r ≤ 1) : (text? r).isSome = true := by
  refine (text?_isSome_iff r).2 ((whole_or_between h0 h1).imp_right fun ⟨h0, h1⟩ => ?_)
  rw [overflows, decide_eq_false_iff_not]
  rcases ofQuotient_of_lt_one h0 h1 with hq | heq
  · omega
  · rw [heq]
    decide

theorem shown_le_one {r : ℚ} (h0 : 0 ≤ r) (h1 : r ≤ 1) : shown r ≤ 1 := by
  have hfinite := (text?_isSome_iff r).1 (text?_isSome_of_le_one h0 h1)
  by_cases hwhole : r.den = 1 ∧ r.num.natAbs < limit
  · rwa [shown, if_pos hwhole]
  obtain ⟨h0, h1⟩ := (whole_or_between h0 h1).resolve_left hwhole
  have hcanonical := canonical_ofQuotient r.num.natAbs r.den_pos
  have hunits := ofQuotient_of_lt_one h0 h1
  rw [shown_of_finite hwhole (hfinite.resolve_left hwhole), if_neg (not_lt.2 (Rat.num_pos.2 h0).le)]
  generalize ofQuotient r.num.natAbs r.den = b at hcanonical hunits
  rcases hunits with hq | rfl
  · rcases Nat.eq_zero_or_pos b.m with hzero | hpos
    · rw [shortest, if_pos hzero]
      norm_num [Decimal.value]
    · have hfinite : b.overflows = false := by
        rw [overflows, decide_eq_false_iff_not]
        omega
      have hround := ((roundsTo_iff b _).1 (roundsTo_shortest hcanonical hpos hfinite).1).2.1
      have hdigits : (b.m : ℚ) + 1 ≤ limit := by exact_mod_cast hcanonical.m_lt
      have hunit : (2 : ℚ) ^ b.q ≤ 2 ^ (-53 : ℤ) := zpow_le_zpow_right₀ one_le_two hq
      have hone : (limit : ℚ) * 2 ^ (-53 : ℤ) = 1 := by norm_num [limit]
      calc (shortest b).value ≤ (b.m + 1 / 2) * 2 ^ b.q := hround
        _ ≤ limit * 2 ^ (-53 : ℤ) := by gcongr; linarith
        _ = 1 := hone
  · decide +kernel

end CodeAtlas.Number
