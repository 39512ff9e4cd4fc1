import CodeAtlas.Json.Parse
import CodeAtlas.Proofs.Number.Shortest

set_option autoImplicit false

/-! # Numbers in JSON

The text of a number is a JSON number, and it denotes the decimal that the text shows: a whole number below `2^53`
itself, any other number as the shortest decimal of its double. Rounded to the nearest double it stays as it is, so the
decimal is what is read (`number?_text`). -/

namespace CodeAtlas.Json

open Number

/-! ## Digits -/

theorem natOfDigits_eq (ds : List Char) : natOfDigits ds = Nat.ofDigitChars 10 ds 0 := by
  rw [natOfDigits, Nat.ofDigitChars_eq_foldl]
  rfl

theorem natOfDigits_toDigits (n : ℕ) : natOfDigits (Nat.toDigits 10 n) = n := by
  rw [natOfDigits_eq, Nat.ofDigitChars_ten_toDigits]

theorem natOfDigits_append_zeros (n k : ℕ) : natOfDigits (Nat.toDigits 10 n ++ List.replicate k '0') = n * 10 ^ k := by
  rw [natOfDigits_eq, Nat.ofDigitChars_append, Nat.ofDigitChars_ten_toDigits, Nat.ofDigitChars_replicate_zero,
    Nat.mul_comm]

theorem natOfDigits_zeros_append (k : ℕ) (ds : List Char) :
    natOfDigits (List.replicate k '0' ++ ds) = natOfDigits ds := by
  rw [natOfDigits_eq, Nat.ofDigitChars_append, Nat.ofDigitChars_replicate_zero, Nat.mul_zero, natOfDigits_eq]

theorem isDigit_toDigits (n : ℕ) : ∀ c ∈ Nat.toDigits 10 n, c.isDigit = true :=
  fun _ hc => Nat.isDigit_of_mem_toDigits (by decide) (by decide) hc

theorem head?_toDigits {n : ℕ} (h : 0 < n) : (Nat.toDigits 10 n).head? ≠ some '0' := by
  induction n using Nat.strongRecOn with
  | ind n ih =>
      rw [Nat.toDigits_eq_if (by decide)]
      split_ifs with hlt
      · have hdigit : ∀ k < 10, 0 < k → Nat.digitChar k ≠ '0' := by decide
        simpa using hdigit n hlt h
      · rw [List.head?_append_of_ne_nil _ Nat.toDigits_ne_nil]
        exact ih _ (by omega) (by omega)

/-! ## The parts of a number -/

/-- What may follow a number: nothing that would go on with it. -/
def Stops (rest : List Char) : Prop :=
  ∀ c ∈ rest.head?, c.isDigit = false ∧ c ≠ '.' ∧ c ≠ 'e' ∧ c ≠ 'E'

theorem takeWhile_digits {ds rest : List Char} (hds : ∀ c ∈ ds, c.isDigit = true)
    (hrest : ∀ c ∈ rest.head?, c.isDigit = false) :
    (ds ++ rest).takeWhile Char.isDigit = ds ∧ (ds ++ rest).dropWhile Char.isDigit = rest := by
  rw [List.takeWhile_append_of_pos hds, List.dropWhile_append_of_pos hds]
  cases rest with
  | nil => simp
  | cons c rest =>
      have hc : c.isDigit = false := hrest c (by simp)
      simp [hc]

theorem exponentPart_of_stops {rest : List Char} (h : Stops rest) : exponentPart rest = some (0, rest) := by
  cases rest with
  | nil => rfl
  | cons c rest =>
      obtain ⟨-, -, he, hE⟩ := h c (by simp)
      simp [exponentPart, he, hE]

theorem exponentPart_written (e : ℤ) {rest : List Char} (h : Stops rest) :
    exponentPart ('e' :: (if e < 0 then '-' else '+') :: (Nat.toDigits 10 e.natAbs ++ rest)) = some (e, rest) := by
  obtain ⟨htake, hdrop⟩ := takeWhile_digits (isDigit_toDigits e.natAbs) fun c hc => (h c hc).1
  unfold exponentPart
  split_ifs with hneg
  · have habs : ((e.natAbs : ℕ) : ℤ) = -e := by omega
    simp [htake, hdrop, natOfDigits_toDigits, habs]
  · have habs : ((e.natAbs : ℕ) : ℤ) = e := by omega
    simp [htake, hdrop, natOfDigits_toDigits, habs]

/-- A number without its sign, from its digits before and after the point and its exponent. -/
theorem unsigned?_parts (whole frac : List Char) {tail rest : List Char} {e : ℤ}
    (hwhole : ∀ c ∈ whole, c.isDigit = true) (hne : whole ≠ []) (hzero : 1 < whole.length → whole.head? ≠ some '0')
    (hfrac : ∀ c ∈ frac, c.isDigit = true) (htail : exponentPart tail = some (e, rest))
    (hstart : ∀ c ∈ tail.head?, c.isDigit = false ∧ c ≠ '.') :
    unsigned? (whole ++ ((if frac = [] then [] else '.' :: frac) ++ tail))
      = some (scaled (whole ++ frac) (e - frac.length), rest) := by
  have hdigits : (whole.isEmpty || (decide (whole.length > 1) && whole.head? == some '0')) = false := by
    cases whole with
    | nil => exact absurd rfl hne
    | cons c cs =>
        by_cases hlong : 1 < (c :: cs).length
        · simpa using fun _ => hzero hlong
        · simp only [List.isEmpty_cons, Bool.false_or, decide_eq_false (show ¬ (c :: cs).length > 1 from hlong),
            Bool.false_and]
  have hpoint : ∀ c ∈ ((if frac = [] then [] else '.' :: frac) ++ tail).head?, c.isDigit = false := by
    intro c hc
    split_ifs at hc with hnil
    · exact (hstart c hc).1
    · simp only [List.cons_append, List.head?_cons, Option.mem_some_iff] at hc
      subst hc
      decide
  obtain ⟨htake, hdrop⟩ := takeWhile_digits hwhole hpoint
  have hfraction : fractionDigits ((if frac = [] then [] else '.' :: frac) ++ tail) = some (frac, tail) := by
    split_ifs with hnil
    · subst hnil
      rw [List.nil_append]
      unfold fractionDigits
      split
      · exact absurd rfl (hstart '.' (by simp)).2
      · rfl
    · obtain ⟨htake, hdrop⟩ := takeWhile_digits hfrac fun c hc => (hstart c hc).1
      simp only [List.cons_append, fractionDigits, htake, hdrop]
      simp [hnil]
  simp [unsigned?, htake, hdrop, hdigits, hfraction, htail]

/-- A number that does not begin with a sign. -/
theorem number?_of_unsigned? {cs rest : List Char} {r : ℚ} (h : unsigned? cs = some (r, rest)) :
    number? cs = some (shown r, rest) := by
  unfold number?
  split
  · simp [unsigned?] at h
  · rw [h]
    rfl

/-- A number that begins with one. -/
theorem number?_neg {cs rest : List Char} {r : ℚ} (h : unsigned? cs = some (r, rest)) :
    number? ('-' :: cs) = some (shown (-r), rest) := by
  simp [number?, h]

/-! ## Decimals -/

theorem scaled_eq (ds : List Char) {e : ℤ} (hlo : -4000 ≤ e) (hhi : e ≤ 4000) :
    scaled ds e = (natOfDigits ds : ℚ) * 10 ^ e := by
  unfold scaled
  dsimp only
  split_ifs with hzero hlarge hsmall
  · simp [hzero]
  · omega
  · omega
  · rfl

/-- The written form of a decimal, by the place of its point among the digits. -/
theorem toList_render {d : Decimal} {digits : List Char} {point : ℤ} (hpos : 0 < d.digits)
    (hdigits : digits = Nat.toDigits 10 d.digits) (hpoint : point = digits.length + d.exponent) :
    (plain.render d).toList =
      if digits.length ≤ point ∧ point ≤ 21 then digits ++ List.replicate (point - digits.length).toNat '0'
      else if 0 < point ∧ point ≤ 21 then digits.take point.toNat ++ '.' :: digits.drop point.toNat
      else if point ≤ 0 ∧ -point ≤ 5 then '0' :: '.' :: (List.replicate (-point).toNat '0' ++ digits)
      else digits.take 1 ++ ((if digits.drop 1 = [] then [] else '.' :: digits.drop 1) ++
        'e' :: (if point - 1 < 0 then '-' else '+') :: Nat.toDigits 10 (point - 1).natAbs) := by
  have htext : (toString d.digits).toList = digits := by rw [hdigits, Nat.toString_eq_repr, Nat.toList_repr]
  have hlength : ((toString d.digits).length : ℤ) = digits.length := by rw [← htext, String.length_toList]
  unfold Positional.render
  simp only [hlength, ← hpoint, htext, plain, if_neg hpos.ne']
  split_ifs <;> simp_all [← hdigits]

/-! ### The four notations -/

section

variable {n : ℕ} {rest : List Char}

theorem isDigit_replicate_zero (k : ℕ) : ∀ c ∈ List.replicate k '0', c.isDigit = true := fun c hc => by
  rw [List.eq_of_mem_replicate hc]
  decide

/-- A whole number, its digits filled up with zeros. -/
theorem unsigned?_whole (hn : 0 < n) (hrest : Stops rest) (k : ℕ) :
    unsigned? (Nat.toDigits 10 n ++ List.replicate k '0' ++ rest)
      = some (scaled (Nat.toDigits 10 n ++ List.replicate k '0') 0, rest) := by
  have hread := unsigned?_parts (Nat.toDigits 10 n ++ List.replicate k '0') []
    (fun c hc => (List.mem_append.1 hc).elim (isDigit_toDigits n c) (isDigit_replicate_zero k c))
    (by simp [Nat.toDigits_ne_nil])
    (fun _ => by
      rw [List.head?_append_of_ne_nil _ Nat.toDigits_ne_nil]
      exact head?_toDigits hn)
    (List.forall_mem_nil _) (exponentPart_of_stops hrest) fun c hc => ⟨(hrest c hc).1, (hrest c hc).2.1⟩
  rw [List.append_nil] at hread
  simpa using hread

/-- A number whose point stands among its digits. -/
theorem unsigned?_pointInside (hn : 0 < n) (hrest : Stops rest) {k : ℕ} (hpos : 0 < k)
    (hk : k < (Nat.toDigits 10 n).length) :
    unsigned? ((Nat.toDigits 10 n).take k ++ '.' :: (Nat.toDigits 10 n).drop k ++ rest)
      = some (scaled (Nat.toDigits 10 n) (k - (Nat.toDigits 10 n).length), rest) := by
  have hread := unsigned?_parts ((Nat.toDigits 10 n).take k) ((Nat.toDigits 10 n).drop k)
    (fun c hc => isDigit_toDigits n c (List.mem_of_mem_take hc)) (by simp [Nat.toDigits_ne_nil]; omega)
    (fun _ => by
      rw [List.head?_take, if_neg hpos.ne']
      exact head?_toDigits hn)
    (fun c hc => isDigit_toDigits n c (List.mem_of_mem_drop hc)) (exponentPart_of_stops hrest)
    fun c hc => ⟨(hrest c hc).1, (hrest c hc).2.1⟩
  rw [List.take_append_drop, if_neg (by simpa using hk), List.length_drop,
    show (0 : ℤ) - (((Nat.toDigits 10 n).length - k : ℕ) : ℤ) = k - (Nat.toDigits 10 n).length by omega] at hread
  simpa using hread

/-- A number whose point stands before its digits. -/
theorem unsigned?_pointBefore (hrest : Stops rest) (k : ℕ) :
    unsigned? ('0' :: '.' :: (List.replicate k '0' ++ Nat.toDigits 10 n) ++ rest)
      = some (scaled (List.replicate (k + 1) '0' ++ Nat.toDigits 10 n) (-(k + (Nat.toDigits 10 n).length)), rest) := by
  have hread := unsigned?_parts ['0'] (List.replicate k '0' ++ Nat.toDigits 10 n)
    (List.forall_mem_singleton.2 (by decide)) (by decide) (by decide)
    (fun c hc => (List.mem_append.1 hc).elim (isDigit_replicate_zero k c) (isDigit_toDigits n c))
    (exponentPart_of_stops hrest) fun c hc => ⟨(hrest c hc).1, (hrest c hc).2.1⟩
  have hzero : ['0'] ++ List.replicate k '0' = List.replicate (k + 1) '0' := rfl
  rw [← List.append_assoc ['0'] (List.replicate k '0'), hzero, if_neg (by simp [Nat.toDigits_ne_nil]),
    List.length_append, List.length_replicate, Nat.cast_add, zero_sub] at hread
  simpa using hread

/-- A number with an exponent. -/
theorem unsigned?_scientific (hn : 0 < n) (hrest : Stops rest) (e : ℤ) :
    unsigned? ((Nat.toDigits 10 n).take 1 ++
        ((if (Nat.toDigits 10 n).drop 1 = [] then [] else '.' :: (Nat.toDigits 10 n).drop 1) ++
          'e' :: (if e < 0 then '-' else '+') :: Nat.toDigits 10 e.natAbs) ++ rest)
      = some (scaled (Nat.toDigits 10 n) (e - ((Nat.toDigits 10 n).length - 1)), rest) := by
  have hlength : 0 < (Nat.toDigits 10 n).length := List.length_pos_of_ne_nil Nat.toDigits_ne_nil
  have hread := unsigned?_parts ((Nat.toDigits 10 n).take 1) ((Nat.toDigits 10 n).drop 1)
    (fun c hc => isDigit_toDigits n c (List.mem_of_mem_take hc)) (by simp [Nat.toDigits_ne_nil])
    (fun _ => by
      rw [List.head?_take, if_neg one_ne_zero]
      exact head?_toDigits hn)
    (fun c hc => isDigit_toDigits n c (List.mem_of_mem_drop hc)) (exponentPart_written e hrest) (by simp)
  rw [List.take_append_drop, List.length_drop,
    show (((Nat.toDigits 10 n).length - 1 : ℕ) : ℤ) = (Nat.toDigits 10 n).length - 1 by omega] at hread
  simpa using hread

end

/-- **A decimal is read as itself.** -/
theorem unsigned?_render {d : Decimal} (hlo : -4000 ≤ d.exponent) (hhi : d.exponent ≤ 4000) {rest : List Char}
    (hrest : Stops rest) : unsigned? ((plain.render d).toList ++ rest) = some (d.value, rest) := by
  rcases Nat.eq_zero_or_pos d.digits with hzero | hpos
  · have hread := @unsigned?_parts ['0'] [] rest rest 0 (List.forall_mem_singleton.2 (by decide)) (by decide)
      (by decide) (List.forall_mem_nil _) (exponentPart_of_stops hrest)
      fun c hc => ⟨(hrest c hc).1, (hrest c hc).2.1⟩
    simpa [Positional.render, hzero, Decimal.value, scaled, natOfDigits] using hread
  obtain ⟨point, hpoint⟩ : ∃ p : ℤ, p = (Nat.toDigits 10 d.digits).length + d.exponent := ⟨_, rfl⟩
  have hvalue : scaled (Nat.toDigits 10 d.digits) d.exponent = d.value := by
    rw [scaled_eq _ hlo hhi, natOfDigits_toDigits, Decimal.value]
  rw [toList_render hpos rfl hpoint]
  split
  · next hwhole =>
      rw [unsigned?_whole hpos hrest, scaled_eq _ (by simp) (by simp), natOfDigits_append_zeros, Decimal.value,
        show d.exponent = ((point - (Nat.toDigits 10 d.digits).length).toNat : ℤ) by omega]
      push_cast
      simp
  split
  · next hinside =>
      rw [unsigned?_pointInside hpos hrest (by omega) (by omega),
        show (point.toNat : ℤ) - (Nat.toDigits 10 d.digits).length = d.exponent by omega, hvalue]
  split
  · next hbefore =>
      rw [unsigned?_pointBefore hrest,
        show -(((-point).toNat : ℤ) + (Nat.toDigits 10 d.digits).length) = d.exponent by omega, scaled_eq _ hlo hhi,
        natOfDigits_zeros_append, natOfDigits_toDigits, Decimal.value]
  · rw [unsigned?_scientific hpos hrest,
      show point - 1 - ((Nat.toDigits 10 d.digits).length - 1) = d.exponent by omega, hvalue]

/-! ## Numbers -/

/-- A whole number in decimal digits. -/
theorem unsigned?_toDigits (n : ℕ) {rest : List Char} (hrest : Stops rest) :
    unsigned? (Nat.toDigits 10 n ++ rest) = some ((n : ℚ), rest) := by
  have hlong : 1 < (Nat.toDigits 10 n).length → (Nat.toDigits 10 n).head? ≠ some '0' := fun hlength => by
    refine head?_toDigits (Nat.pos_of_ne_zero fun hzero => ?_)
    rw [hzero, Nat.toDigits_zero] at hlength
    exact absurd hlength (by decide)
  have hread := unsigned?_parts _ [] (isDigit_toDigits n) Nat.toDigits_ne_nil hlong (List.forall_mem_nil _)
    (exponentPart_of_stops hrest) fun c hc => ⟨(hrest c hc).1, (hrest c hc).2.1⟩
  rw [List.append_nil, scaled_eq _ (by simp) (by simp), natOfDigits_toDigits] at hread
  simpa using hread

/-- **The text of a number is read as the decimal that it shows.** -/
theorem number?_text {r : ℚ} {t : String} (h : text? r = some t) {rest : List Char} (hrest : Stops rest) :
    number? (t.toList ++ rest) = some (shown r, rest) := by
  rw [← shown_shown (Option.isSome_of_eq_some h)]
  unfold text? at h
  split at h
  · next hwhole =>
      obtain rfl := Option.some.inj h
      have hr : (r.num : ℚ) = r := Rat.coe_int_num_of_den_eq_one hwhole.1
      rw [show shown r = r from if_pos hwhole, Int.toString_eq_repr]
      cases hnum : r.num with
      | ofNat n =>
          have hread := number?_of_unsigned? (unsigned?_toDigits n hrest)
          rw [← hr, hnum]
          simpa [Int.repr] using hread
      | negSucc n =>
          have hread := number?_neg (unsigned?_toDigits (n + 1) hrest)
          rw [← hr, hnum]
          simpa [Int.repr, Int.negSucc_eq] using hread
  · next hwhole =>
      simp only [] at h
      split at h
      · exact absurd h (by simp)
      · next hfinite =>
          obtain ⟨hlo, hhi⟩ := exponent_shortest (Binary.canonical_ofQuotient _ r.den_pos) (by simpa using hfinite)
          have hread := unsigned?_render hlo hhi hrest
          obtain rfl := Option.some.inj h
          rw [shown_of_finite hwhole (by simpa using hfinite)]
          by_cases hneg : r.num < 0
          · simpa [hneg] using number?_neg hread
          · simpa [hneg] using number?_of_unsigned? hread

end CodeAtlas.Json
