import CodeAtlas.Json.Parse
import Mathlib.Algebra.BigOperators.Group.List.Basic
import Mathlib.Data.List.Chain
import Mathlib.Tactic.SplitIfs

set_option autoImplicit false

/-! # Quoted texts

Reading a quoted text gives the text back (`stringBody_quote`). A lone surrogate is written by its number and read as
its carrier; only a leading one right before a trailing one would be read as one character, which is what the two of
them are, and `Text.Composed` says that this does not occur. -/

namespace CodeAtlas

namespace Text

/-- Does the character carry a leading surrogate? -/
def leads (c : Char) : Prop := carrierBase ≤ c.toNat ∧ c.toNat < carrierBase + 0x400

/-- Does the character carry a trailing surrogate? -/
def trails (c : Char) : Prop := carrierBase + 0x400 ≤ c.toNat

/-- Every surrogate pair of the text is written as the one character that it is. -/
def Composed (s : String) : Prop :=
  s.toList.IsChain fun c d => ¬ (leads c ∧ trails d)

instance (c : Char) : Decidable (leads c) := inferInstanceAs (Decidable (_ ∧ _))

instance (c : Char) : Decidable (trails c) := inferInstanceAs (Decidable (_ ≤ _))

instance (s : String) : Decidable (Composed s) := inferInstanceAs (Decidable (List.IsChain _ _))

/-- A text without carriers has no surrogates at all. -/
theorem composed_of_no_carrier {s : String} (h : ∀ c ∈ s.toList, isCarrier c = false) : Composed s := by
  have hleads : ∀ c ∈ s.toList, ¬ leads c := fun c hc hl => by
    have hcarrier := h c hc
    rw [isCarrier, decide_eq_false_iff_not] at hcarrier
    exact hcarrier hl.1
  have hpairs : s.toList.Pairwise fun c d => ¬ (leads c ∧ trails d) :=
    List.pairwise_of_forall_mem_list fun c hc _ _ hcd => hleads c hc hcd.1
  exact hpairs.isChain

end Text

namespace Json

open Text (isCarrier carrierBase carrier leads trails)

/-! ## Hexadecimal digits -/

theorem hexDigit?_digitChar : ∀ d < 16, hexDigit? (Nat.digitChar d) = some d := by decide

theorem toList_hex {n : Nat} (h : n < 0x10000) : (hex 4 n).toList
    = [(n / 4096).digitChar, (n / 256 % 16).digitChar, (n / 16 % 16).digitChar, (n % 16).digitChar] := by
  have hlow (k : Nat) (hk : k < 16) : Nat.toDigits 16 k = [k.digitChar] := Nat.toDigits_of_lt_base hk
  have hstep (k : Nat) (hk : 16 ≤ k) : Nat.toDigits 16 k = Nat.toDigits 16 (k / 16) ++ [(k % 16).digitChar] :=
    Nat.toDigits_of_base_le (by decide) hk
  have hzero : Nat.digitChar 0 = '0' := rfl
  simp only [hex, String.toList_ofList]
  by_cases h1 : n < 16
  · simp [hlow n h1, show n / 4096 = 0 by omega, show n / 256 % 16 = 0 by omega, show n / 16 % 16 = 0 by omega,
      show n % 16 = n by omega, hzero, List.replicate]
  by_cases h2 : n < 256
  · simp [hstep n (by omega), hlow (n / 16) (by omega), show n / 4096 = 0 by omega, show n / 256 % 16 = 0 by omega,
      show n / 16 % 16 = n / 16 by omega, hzero, List.replicate]
  by_cases h3 : n < 4096
  · simp [hstep n (by omega), hstep (n / 16) (by omega), Nat.div_div_eq_div_mul, hlow (n / 256) (by omega),
      show n / 4096 = 0 by omega, show n / 256 % 16 = n / 256 by omega, hzero]
  · simp [hstep n (by omega), hstep (n / 16) (by omega), Nat.div_div_eq_div_mul, hstep (n / 256) (by omega),
      hlow (n / 4096) (by omega)]

/-- Four hexadecimal digits are read as the number they were written for. -/
theorem hex4?_hex {n : Nat} (h : n < 0x10000) :
    ∃ a b c d, (hex 4 n).toList = [a, b, c, d] ∧ hex4? a b c d = some n := by
  refine ⟨_, _, _, _, toList_hex h, ?_⟩
  simp only [hex4?, hexDigit?_digitChar _ (show n / 4096 < 16 by omega),
    hexDigit?_digitChar _ (Nat.mod_lt _ (by decide : 0 < 16))]
  change some _ = some _
  congr 1
  omega

theorem hex4?_of_hex_append {n : Nat} (h : n < 0x10000) {x y z w : Char} {cs rest : List Char}
    (heq : (hex 4 n).toList ++ cs = x :: y :: z :: w :: rest) : hex4? x y z w = some n := by
  obtain ⟨a, b, c, d, hdigits, hvalue⟩ := hex4?_hex h
  rw [hdigits] at heq
  simp only [List.cons_append, List.cons.injEq] at heq
  obtain ⟨rfl, rfl, rfl, rfl, -⟩ := heq
  exact hvalue

/-! ## One character -/

theorem toNat_lt (c : Char) : c.toNat < 0x110000 := by
  rcases c.valid with h | h
  · exact Nat.lt_trans h (by decide)
  · exact h.2

theorem toList_quote (s : String) :
    (quote s).toList = '"' :: (s.toList.flatMap (fun c => (escapeChar c).toList) ++ ['"']) := by
  have hfold : ∀ (l : List Char) (out : String),
      (l.foldl (fun out c => out ++ escapeChar c) out).toList
        = out.toList ++ l.flatMap fun c => (escapeChar c).toList := by
    intro l
    induction l with
    | nil => simp
    | cons c l ih => simp [ih]
  simp [quote, String.foldl_eq_foldl_toList, hfold]

/-- The text does not go on with the number of a trailing surrogate. -/
def NoTrail (cs : List Char) : Prop :=
  ∀ a b c d rest, cs = '\\' :: 'u' :: a :: b :: c :: d :: rest →
    ∃ u, hex4? a b c d = some u ∧ ¬ (0xdc00 ≤ u ∧ u < 0xe000)

section Reading

variable {fuel : Nat} {out : List Char} {c : Char} {cs : List Char}

theorem stringBody_plain (hquote : c ≠ '"') (hslash : c ≠ '\\') (hcontrol : 0x20 ≤ c.toNat) :
    stringBody (fuel + 1) out (c :: cs) = stringBody fuel (c :: out) cs := by
  rw [stringBody]
  · exact if_neg (by omega)
  · simpa using hquote
  · rintro _ _ _ _ _ rfl
    exact absurd rfl hslash
  · rintro _ _ rfl
    exact absurd rfl hslash

theorem stringBody_escape {d : Char} (hu : c ≠ 'u') (h : simpleEscape? c = some d) :
    stringBody (fuel + 1) out ('\\' :: c :: cs) = stringBody fuel (d :: out) cs := by
  rw [stringBody]
  · simp [h]
  · rintro _ _ _ _ _ rfl
    exact absurd rfl hu

/-- A number that is no surrogate is read as its character. -/
theorem stringBody_hex {n : Nat} (h : n < 0xd800) :
    stringBody (fuel + 1) out ('\\' :: 'u' :: ((hex 4 n).toList ++ cs)) = stringBody fuel (Char.ofNat n :: out) cs := by
  obtain ⟨x, y, z, w, hdigits, hvalue⟩ := hex4?_hex (show n < 0x10000 by omega)
  rw [hdigits]
  simp only [List.cons_append, List.nil_append]
  rw [stringBody]
  simp [hvalue, show ¬ (0xd800 ≤ n) by omega, show ¬ (0xdc00 ≤ n) by omega]

/-- The number of a surrogate is read as its carrier, unless the two make a pair. -/
theorem stringBody_surrogate {n : Nat} (hlo : 0xd800 ≤ n) (hhi : n < 0xe000) (h : n < 0xdc00 → NoTrail cs) :
    stringBody (fuel + 1) out ('\\' :: 'u' :: ((hex 4 n).toList ++ cs)) = stringBody fuel (carrier n :: out) cs := by
  obtain ⟨x, y, z, w, hdigits, hvalue⟩ := hex4?_hex (show n < 0x10000 by omega)
  rw [hdigits]
  simp only [List.cons_append, List.nil_append]
  rw [stringBody]
  by_cases hlead : n < 0xdc00
  · simp only [hvalue, Option.bind_eq_bind, Option.bind_some, hlo, hlead, and_self, if_true]
    split
    · obtain ⟨u, hu, hrange⟩ := h hlead _ _ _ _ _ rfl
      rw [hu, Option.bind_some, if_neg hrange]
    · rfl
  · simp [hvalue, hlo, hhi, hlead]

/-- A written character is read as itself. -/
theorem stringBody_escapeChar (h : leads c → NoTrail cs) :
    stringBody (fuel + 1) out ((escapeChar c).toList ++ cs) = stringBody fuel (c :: out) cs := by
  have hself : Char.ofNat c.toNat = c := Char.ofNat_toNat c
  unfold escapeChar
  split_ifs with hquote hslash hline hreturn htab hback hfeed hcontrol hcarrier
  · subst hquote
    exact stringBody_escape (by decide) rfl
  · subst hslash
    exact stringBody_escape (by decide) rfl
  · subst hline
    exact stringBody_escape (by decide) rfl
  · subst hreturn
    exact stringBody_escape (by decide) rfl
  · subst htab
    exact stringBody_escape (by decide) rfl
  · rw [← hself, hback]
    exact stringBody_escape (by decide) rfl
  · rw [← hself, hfeed]
    exact stringBody_escape (by decide) rfl
  · have hread := @stringBody_hex fuel out cs c.toNat (by omega)
    rw [hself] at hread
    simpa using hread
  · rw [isCarrier, decide_eq_true_iff] at hcarrier
    obtain ⟨n, hn⟩ : ∃ n, n = c.toNat - carrierBase + 0xd800 := ⟨_, rfl⟩
    have hbounds := toNat_lt c
    have hbase : carrierBase = 0x10f800 := rfl
    have hcarry : carrier n = c := by
      rw [hn, carrier, Nat.add_sub_cancel, Nat.add_sub_cancel' hcarrier, hself]
    have hread := @stringBody_surrogate fuel out cs n (by omega) (by omega)
      fun hlead => h ⟨hcarrier, by omega⟩
    rw [hcarry] at hread
    rw [← hn]
    simpa using hread
  · have hplain := @stringBody_plain fuel out c cs hquote hslash (by omega)
    simpa using hplain

end Reading

/-- The written form of a character that carries no trailing surrogate. -/
theorem noTrail_escapeChar {c : Char} (h : ¬ trails c) (cs : List Char) : NoTrail ((escapeChar c).toList ++ cs) := by
  intro x y z w rest heq
  obtain ⟨n, hn⟩ : ∃ n, n = c.toNat - carrierBase + 0xd800 := ⟨_, rfl⟩
  rw [escapeChar, ← hn] at heq
  -- a control character and a leading surrogate are written by their numbers, nothing else begins like one
  split_ifs at heq with hquote hslash hline hreturn htab hback hfeed hcontrol hcarrier <;> simp at heq
  · exact ⟨_, hex4?_of_hex_append (by omega) heq, by omega⟩
  · have hbase : carrierBase = 0x10f800 := rfl
    rw [trails, Nat.not_le] at h
    exact ⟨n, hex4?_of_hex_append (by omega) heq, by omega⟩
  · exact absurd heq.1 hslash

/-! ## Texts -/

theorem escapeChar_ne_nil (c : Char) : (escapeChar c).toList ≠ [] := by
  unfold escapeChar
  split_ifs <;> simp

theorem stringBody_flatMap_escapeChar (l : List Char) (hl : l.IsChain fun c d => ¬ (leads c ∧ trails d)) (fuel : Nat)
    (hfuel : l.length < fuel) (out rest : List Char) :
    stringBody fuel out (l.flatMap (fun c => (escapeChar c).toList) ++ '"' :: rest)
      = some (String.ofList (out.reverse ++ l), rest) := by
  induction l generalizing fuel out with
  | nil =>
      obtain ⟨fuel, rfl⟩ := Nat.exists_eq_add_of_lt hfuel
      simp [stringBody]
  | cons c l ih =>
      obtain ⟨fuel, rfl⟩ : ∃ k, fuel = k + 1 := ⟨fuel - 1, by simp at hfuel; omega⟩
      have hnext : leads c → NoTrail (l.flatMap (fun c => (escapeChar c).toList) ++ '"' :: rest) := by
        intro hc
        cases l with
        | nil => exact fun _ _ _ _ _ heq => by simp at heq
        | cons d l =>
            have hd : ¬ trails d := fun hd => (List.isChain_cons_cons.1 hl).1 ⟨hc, hd⟩
            rw [List.flatMap_cons, List.append_assoc]
            exact noTrail_escapeChar hd _
      rw [List.flatMap_cons, List.append_assoc, stringBody_escapeChar hnext,
        ih hl.tail fuel (by simpa using hfuel), List.reverse_cons, List.append_assoc, List.singleton_append]

/-- **A quoted text is read back.** -/
theorem stringBody_quote {s : String} (h : Text.Composed s) (rest : List Char) :
    ∃ body, (quote s).toList ++ rest = '"' :: body ∧ stringBody (body.length + 1) [] body = some (s, rest) := by
  refine ⟨s.toList.flatMap (fun c => (escapeChar c).toList) ++ '"' :: rest, by simp [toList_quote], ?_⟩
  have hlength : s.toList.length ≤ (s.toList.flatMap fun c => (escapeChar c).toList).length := by
    have hsum := List.length_le_sum_of_one_le (s.toList.map fun c => (escapeChar c).toList.length) fun n hn => by
      obtain ⟨c, -, rfl⟩ := List.mem_map.1 hn
      exact List.length_pos_of_ne_nil (escapeChar_ne_nil c)
    rwa [List.length_map, ← List.length_flatMap] at hsum
  rw [stringBody_flatMap_escapeChar _ h _ (by rw [List.length_append]; omega), List.reverse_nil, List.nil_append,
    String.ofList_toList]

end Json

end CodeAtlas
