import CodeAtlas.Unicode.LowerCase
import Mathlib

set_option autoImplicit false

/-! # Texts in lower case

A character has a lower-case form of its own exactly if a run of the table holds it, or if it is the dotted capital I.
No run maps to a character that has one: it maps to what lies before another run, after it, or on the places that it
leaves out (`misses_capitalRuns`). So nothing in a text in lower case changes again, wherever its characters are put
(`lower_eq_self_of_subset`).

The small form of a capital sigma is settled by what stands around it, up to the nearest character on either side that
is not case-ignorable. A blank is neither case-ignorable nor cased, and so nothing is seen through it
(`lower_append_blank`). -/

namespace CodeAtlas.Unicode

variable {c : Char} {cs before before' : List Char} {s : String}

/-! ## Characters with a lower-case form -/

namespace CaseRun

variable {r r' : CaseRun} {n : ℕ}

/-- The capitals of the ASCII characters. -/
def ascii : CaseRun := ⟨0x41, 0x5a, 1, 32⟩

/-- The dotted capital I, with the first of the two characters that it maps to. -/
def dotted : CaseRun := ⟨0x130, 0x130, 1, -199⟩

/-- What a run maps a value to. -/
def image (r : CaseRun) (n : ℕ) : ℕ := ((n : ℤ) + r.shift).toNat

/-- Does a run map to nothing that another one holds? -/
def misses (r r' : CaseRun) : Bool :=
  (r.image r.last).blt r'.first || r'.last.blt (r.image r.first)
    || ((r.step == 2 || r.first == r.last) && r'.step == 2 && r'.first ≤ r.image r.first
      && (r.image r.first - r'.first) % 2 == 1)

theorem covers_iff : r.covers n = true ↔ r.first ≤ n ∧ n ≤ r.last ∧ (n - r.first) % r.step = 0 := by
  simp [covers, and_assoc]

theorem covers_image_eq_false (hpos : 0 < r'.first) (h : r.misses r' = true) (hn : r.covers n = true) :
    r'.covers (r.image n) = false := by
  simp only [misses, image, Bool.and_eq_true, Bool.or_eq_true, Nat.blt_eq, beq_iff_eq] at h
  obtain ⟨hfirst, hlast, hstep⟩ := covers_iff.1 hn
  rw [Bool.eq_false_iff, Ne, covers_iff, image]
  rintro ⟨hfirst', hlast', hstep'⟩
  -- where the two overlap, the other run leaves out every second place, and what is mapped to falls on those
  rcases h with (hbefore | hafter) | ⟨⟨⟨hstep₂ | hsingle, hstep₂'⟩, hle⟩, hodd⟩
  · omega
  · omega
  · rw [hstep₂] at hstep
    rw [hstep₂'] at hstep'
    omega
  · rw [hstep₂'] at hstep'
    omega

end CaseRun

open CaseRun

/-- The runs of all characters that have a lower-case form. -/
def capitalRuns : List CaseRun := dotted :: lowerRuns.toList

theorem misses_capitalRuns : ∀ r ∈ lowerRuns.toList, ∀ r' ∈ capitalRuns, r.misses r' = true := by
  have h : (lowerRuns.toList.all fun r => capitalRuns.all r.misses) = true := by decide +kernel
  simpa only [List.all_eq_true] using h

theorem first_capitalRuns : ∀ r ∈ capitalRuns, 0 < r.first := by decide +kernel

/-- Does a character have no lower-case form of its own? -/
def IsLowered (c : Char) : Prop := ∀ r ∈ capitalRuns, r.covers c.toNat = false

instance : DecidablePred IsLowered := fun c => inferInstanceAs (Decidable (∀ r ∈ capitalRuns, r.covers c.toNat = false))

theorem covers_ascii (c : Char) : ascii.covers c.toNat = c.isUpper := by
  rw [Bool.eq_iff_iff, covers_iff]
  simp [ascii, Char.isUpper, Nat.mod_one, UInt32.le_iff_toNat_le]

theorem ascii_mem_lowerRuns : ascii ∈ lowerRuns.toList := List.mem_cons_self ..

/-- No other run holds an ASCII character. -/
theorem eq_ascii_of_covers {r : CaseRun} (hr : r ∈ lowerRuns.toList) (hcovers : r.covers c.toNat = true)
    (hsmall : c.toNat < 0x80) : r = ascii := by
  have hruns : lowerRuns.toList = ascii :: lowerRuns.toList.tail := rfl
  have hlarge : ∀ r ∈ lowerRuns.toList.tail, 0x80 ≤ r.first := by decide +kernel
  rw [hruns, List.mem_cons] at hr
  refine hr.resolve_right fun hr => ?_
  have hfirst : 0x80 ≤ c.toNat := (hlarge r hr).trans (covers_iff.1 hcovers).1
  omega

/-- A character maps to what its run says, and to itself if it is in none. ASCII is no exception. -/
theorem lowerChar_cases (c : Char) :
    ((∀ r ∈ lowerRuns.toList, r.covers c.toNat = false) ∧ lowerChar c = c) ∨
    ∃ r ∈ lowerRuns.toList, r.covers c.toNat = true ∧ lowerChar c = Char.ofNat (r.image c.toNat) := by
  rw [lowerChar]
  split
  · next hsmall =>
      by_cases hupper : c.isUpper = true
      · refine .inr ⟨ascii, ascii_mem_lowerRuns, (covers_ascii c).trans hupper, ?_⟩
        rw [Char.toLower_eq_of_isUpper hupper]
        rfl
      · refine .inl ⟨fun r hr => Bool.eq_false_iff.2 fun hcovers => ?_, Char.toLower_eq_of_not_isUpper hupper⟩
        rw [eq_ascii_of_covers hr hcovers hsmall, covers_ascii] at hcovers
        exact hupper hcovers
  · split
    · next r hr =>
        exact .inr ⟨r, Array.mem_toList_iff.2 (Array.mem_of_find?_eq_some hr), by simpa using Array.find?_some hr, rfl⟩
    · next hnone =>
        refine .inl ⟨fun r hr => ?_, rfl⟩
        simpa using Array.find?_eq_none.1 hnone r (Array.mem_toList_iff.1 hr)

theorem IsLowered.lowerChar_eq (h : IsLowered c) : lowerChar c = c := by
  rcases lowerChar_cases c with ⟨-, hsame⟩ | ⟨r, hr, hcovers, -⟩
  · exact hsame
  · rw [h r (List.mem_cons_of_mem _ hr)] at hcovers
    simp at hcovers

theorem isLowered_lowerChar (h : c.toNat ≠ 0x130) : IsLowered (lowerChar c) := by
  rcases lowerChar_cases c with ⟨hnone, hsame⟩ | ⟨r, hr, hcovers, himage⟩
  · have hdotted : dotted.covers c.toNat = false := by
      rw [Bool.eq_false_iff, Ne, covers_iff]
      simp only [dotted]
      omega
    rw [hsame]
    exact List.forall_mem_cons.2 ⟨hdotted, hnone⟩
  · intro r' hr'
    have hpos := first_capitalRuns r' hr'
    rw [himage, Char.toNat_ofNat]
    split
    · exact covers_image_eq_false hpos (misses_capitalRuns r hr r' hr') hcovers
    · -- a value that is no character stands for the character zero, which no run holds
      rw [Bool.eq_false_iff, Ne, covers_iff]
      omega

/-! ## Texts -/

theorem isLowered_of_mem_lowerFrom : ∀ c ∈ lowerFrom before cs, IsLowered c := by
  obtain ⟨hi, hdot, hfinal, hsmall⟩ :
      IsLowered 'i' ∧ IsLowered (Char.ofNat 0x307) ∧ IsLowered 'ς' ∧ IsLowered 'σ' := by decide +kernel
  induction cs generalizing before with
  | nil => simp [lowerFrom]
  | cons c rest ih =>
      rw [lowerFrom]
      split
      · exact List.forall_mem_cons.2 ⟨hi, List.forall_mem_cons.2 ⟨hdot, ih⟩⟩
      · next hdotted =>
          split
          · have hsigma : IsLowered (if meetsCased before && !meetsCased rest then 'ς' else 'σ') := by
              split
              · exact hfinal
              · exact hsmall
            exact List.forall_mem_cons.2 ⟨hsigma, ih⟩
          · exact List.forall_mem_cons.2 ⟨isLowered_lowerChar (by simpa using hdotted), ih⟩

theorem lowerFrom_eq_self (h : ∀ c ∈ cs, IsLowered c) : lowerFrom before cs = cs := by
  have hcapital : ¬ IsLowered 'İ' ∧ ¬ IsLowered 'Σ' := by decide +kernel
  induction cs generalizing before with
  | nil => rfl
  | cons c rest ih =>
      obtain ⟨hc, hrest⟩ := List.forall_mem_cons.1 h
      have hdotted : c.toNat ≠ 'İ'.toNat := fun hn => hcapital.1 (Char.toNat_inj.1 hn ▸ hc)
      have hsigma : c.toNat ≠ 'Σ'.toNat := fun hn => hcapital.2 (Char.toNat_inj.1 hn ▸ hc)
      rw [lowerFrom, if_neg (by simpa using hdotted), if_neg (by simpa using hsigma), hc.lowerChar_eq, ih hrest]

/-- **What is in lower case stays as it is**, also in pieces and in another order. -/
theorem lower_eq_self_of_subset {t : String} (h : t.toList ⊆ (lower s).toList) : lower t = t := by
  have hlowered : ∀ c ∈ t.toList, IsLowered c := fun c hc =>
    isLowered_of_mem_lowerFrom c (by simpa [lower] using h hc)
  rw [lower, lowerFrom_eq_self hlowered, String.ofList_toList]

/-! ## Blanks -/

theorem RangeTable.contains_eq_false_of_lt {t : RangeTable} {n : ℕ} (h : ∀ b ∈ t.bounds.toList, n < b) :
    t.contains n = false := by
  have hrank : ∀ lo hi, t.rank n lo hi = lo := fun lo hi => by
    fun_induction t.rank n lo hi with
    | case1 lo hi hlt mid b hb hle ih =>
        have hlarge := h b (Array.mem_toList_iff.2 (Array.mem_of_getElem? hb))
        omega
    | case2 lo hi hlt mid b hb hle ih => exact ih
    | case3 lo hi hlt mid hnone ih => exact ih
    | case4 lo hi hlt => rfl
  rw [contains, hrank]
  rfl

theorem not_caseIgnorable_blank : caseIgnorable.contains (' ').toNat = false := by
  refine RangeTable.contains_eq_false_of_lt ?_
  simp only [caseIgnorable, Array.toList_append, List.forall_mem_append]
  decide +kernel

theorem not_cased_blank : cased.contains (' ').toNat = false :=
  RangeTable.contains_eq_false_of_lt (by decide +kernel)

theorem meetsCased_append_blank (cs rest : List Char) : meetsCased (cs ++ ' ' :: rest) = meetsCased cs := by
  induction cs with
  | nil =>
      have hblank : meetsCased (' ' :: rest) =
        if caseIgnorable.contains (' ').toNat then meetsCased rest else cased.contains (' ').toNat := rfl
      rw [List.nil_append, hblank, not_caseIgnorable_blank, not_cased_blank]
      rfl
  | cons c cs ih => rw [List.cons_append, meetsCased, meetsCased, ih]

/-- Of what stands before, only the nearest character that is not case-ignorable counts. -/
theorem lowerFrom_congr (h : meetsCased before = meetsCased before') : lowerFrom before cs = lowerFrom before' cs := by
  induction cs generalizing before before' with
  | nil => rfl
  | cons c rest ih =>
      have hrest : lowerFrom (c :: before) rest = lowerFrom (c :: before') rest :=
        ih (by rw [meetsCased, meetsCased, h])
      rw [lowerFrom, lowerFrom, h, hrest]

theorem lowerFrom_append_blank (before cs rest : List Char) :
    lowerFrom before (cs ++ ' ' :: rest) = lowerFrom before cs ++ ' ' :: lowerFrom [] rest := by
  induction cs generalizing before with
  | nil =>
      have hseen : meetsCased (' ' :: before) = meetsCased [] := meetsCased_append_blank [] before
      rw [List.nil_append, ← lowerFrom_congr hseen]
      rfl
  | cons c cs ih =>
      rw [List.cons_append, lowerFrom, lowerFrom, ih, meetsCased_append_blank]
      split
      · rfl
      · split <;> rfl

/-- **Two texts with a blank between them** are put in lower case each for itself. -/
theorem lower_append_blank (s t : String) : lower (s ++ " " ++ t) = lower s ++ " " ++ lower t := by
  apply String.toList_injective
  simp [lower, lowerFrom_append_blank]

end CodeAtlas.Unicode
