import CodeAtlas.Search.Terms

set_option autoImplicit false

/-! # Humps of identifiers

Two passes put blanks into a name, the second into what the first one left. Both passes come down to one rule on
neighbouring characters: the name is cut before a capital that comes after a small letter or a digit, and before a
capital that comes after a capital and before a small letter (`isHump`). Where the first pass takes two characters at
once, the second of them is a capital, after which it does not cut (`spaceBy_isRise_cons`). The second pass cuts a run
of capitals only before its last one (`spaceRuns_eq`). The passes do not disturb each other, since the first one inserts
no letter, and only before capitals (`spaceRuns_spaceHumps`). -/

namespace CodeAtlas.Search

open Unicode

/-! ## Characters -/

theorem isUpper_iff (c : Char) : c.isUpper = true ↔ 65 ≤ c.toNat ∧ c.toNat ≤ 90 :=
  decide_eq_true_iff

theorem isLower_iff (c : Char) : c.isLower = true ↔ 97 ≤ c.toNat ∧ c.toNat ≤ 122 :=
  Bool.and_eq_true_iff.trans (and_congr decide_eq_true_iff decide_eq_true_iff)

theorem isDigit_iff (c : Char) : c.isDigit = true ↔ 48 ≤ c.toNat ∧ c.toNat ≤ 57 :=
  Bool.and_eq_true_iff.trans (and_congr decide_eq_true_iff decide_eq_true_iff)

theorem not_isLower_of_isUpper {c : Char} (h : c.isUpper = true) : c.isLower = false := by
  rw [← Bool.not_eq_true, isLower_iff]
  rw [isUpper_iff] at h
  omega

theorem not_isDigit_of_isUpper {c : Char} (h : c.isUpper = true) : c.isDigit = false := by
  rw [← Bool.not_eq_true, isDigit_iff]
  rw [isUpper_iff] at h
  omega

theorem not_isUpper_of_isLower {c : Char} (h : c.isLower = true) : c.isUpper = false := by
  rw [← Bool.not_eq_true, isUpper_iff]
  rw [isLower_iff] at h
  omega

/-! ## Humps -/

/-- A capital after a small letter or a digit. -/
def isRise (x y : Char) : Bool := (x.isLower || x.isDigit) && y.isUpper

/-- A capital after a capital and before a small letter. -/
def isLastCapital (x y : Char) (next : Option Char) : Bool := x.isUpper && y.isUpper && next.any Char.isLower

/-- Is a name cut between two neighbouring characters, of which the second is followed by a third or by none? -/
def isHump (x y : Char) (next : Option Char) : Bool := isRise x y || isLastCapital x y next

theorem isLetterOrNumber_of_isHump {x y : Char} {next : Option Char} (h : isHump x y next = true) :
    isLetterOrNumber x = true ∧ isLetterOrNumber y = true := by
  have hletter : ∀ c : Char, c.isUpper = true ∨ c.isLower = true ∨ c.isDigit = true → isLetterOrNumber c = true := by
    intro c hc
    have hascii : c.toNat < 0x80 := by
      rw [isUpper_iff, isLower_iff, isDigit_iff] at hc
      omega
    have halpha : c.isAlpha = true ∨ c.isDigit = true := (or_assoc.2 hc).imp_left Bool.or_eq_true_iff.2
    rw [isLetterOrNumber, if_pos hascii]
    exact Bool.or_eq_true_iff.2 halpha
  simp only [isHump, isRise, isLastCapital, Bool.or_eq_true, Bool.and_eq_true] at h
  rcases h with ⟨hx, hy⟩ | ⟨⟨hx, hy⟩, -⟩
  · exact ⟨hletter x (.inr hx), hletter y (.inl hy)⟩
  · exact ⟨hletter x (.inl hx), hletter y (.inl hy)⟩

/-- A blank between any two neighbouring characters that a rule cuts apart. -/
def spaceBy (cut : Char → Char → Option Char → Bool) : List Char → List Char
  | x :: y :: rest =>
    if cut x y rest.head? then x :: ' ' :: spaceBy cut (y :: rest) else x :: spaceBy cut (y :: rest)
  | l => l

/-! ## The first pass -/

/-- Behind a capital the first pass cuts nothing, so no hump is lost with a capital that it passes over. -/
theorem spaceBy_isRise_cons {y : Char} (h : y.isUpper = true) (rest : List Char) :
    spaceBy (fun x y _ => isRise x y) (y :: rest) = y :: spaceBy (fun x y _ => isRise x y) rest := by
  cases rest with
  | nil => rfl
  | cons z rest => simp [spaceBy, isRise, not_isLower_of_isUpper h, not_isDigit_of_isUpper h]

theorem spaceHumps_eq (cs : List Char) : spaceHumps cs = spaceBy (fun x y _ => isRise x y) cs := by
  fun_induction spaceHumps cs with
  | case1 x y rest h ih =>
      have hrise : isRise x y = true := h
      have hupper : y.isUpper = true := by simp_all
      rw [spaceBy, if_pos hrise, spaceBy_isRise_cons hupper, ih]
  | case2 x y rest h ih =>
      have hrise : ¬ isRise x y = true := h
      rw [spaceBy, if_neg hrise, ih]
  | case3 l h =>
      match l with
      | [] => rfl
      | [x] => rfl
      | x :: y :: rest => exact absurd rfl (h x y rest)

/-! ## The second pass -/

section Capitals

variable {caps rest : List Char} {x c prev last : Char}

theorem spaceBy_isLastCapital_cons (h : c.isUpper = false) (rest : List Char) :
    spaceBy isLastCapital (c :: rest) = c :: spaceBy isLastCapital rest := by
  cases rest with
  | nil => rfl
  | cons d rest => simp [spaceBy, isLastCapital, h]

/-- A capital stays with the next one if a third one follows. -/
theorem spaceBy_isLastCapital_capitals (h : ∀ c ∈ caps, c.isUpper = true) (hlength : 2 ≤ caps.length)
    (rest : List Char) : spaceBy isLastCapital (x :: (caps ++ rest)) = x :: spaceBy isLastCapital (caps ++ rest) := by
  match caps with
  | [] => simp at hlength
  | [_] => simp at hlength
  | y :: z :: caps => simp [spaceBy, isLastCapital, not_isLower_of_isUpper (h z (by simp))]

/-- Capitals that no small letter follows are not cut. -/
theorem spaceBy_capitals (h : ∀ c ∈ caps, c.isUpper = true)
    (hrest : ∀ c ∈ rest.head?, c.isUpper = false ∧ c.isLower = false) :
    spaceBy isLastCapital (caps ++ rest) = caps ++ spaceBy isLastCapital rest := by
  induction caps with
  | nil => rfl
  | cons x caps ih =>
      rw [List.forall_mem_cons] at h
      have hstep : spaceBy isLastCapital (x :: (caps ++ rest)) = x :: spaceBy isLastCapital (caps ++ rest) := by
        match caps, rest with
        | [], [] => rfl
        | [], c :: rest => simp [spaceBy, isLastCapital, (hrest c rfl).1]
        | [y], [] => simp [spaceBy, isLastCapital]
        | [y], c :: rest => simp [spaceBy, isLastCapital, (hrest c rfl).2]
        | y :: z :: caps, rest => exact spaceBy_isLastCapital_capitals h.2 (by simp) rest
      rw [List.cons_append, hstep, ih h.2]
      rfl

/-- Capitals before a small letter are cut before the last of them. -/
theorem spaceBy_capitals_lower (h : ∀ c ∈ caps, c.isUpper = true) (hprev : prev.isUpper = true)
    (hlast : last.isUpper = true) (hc : c.isLower = true) (rest : List Char) :
    spaceBy isLastCapital (caps ++ prev :: last :: c :: rest)
      = caps ++ prev :: ' ' :: last :: c :: spaceBy isLastCapital rest := by
  induction caps with
  | nil =>
      have hc' := not_isUpper_of_isLower hc
      simp [spaceBy, isLastCapital, hprev, hlast, hc, hc', spaceBy_isLastCapital_cons]
  | cons x caps ih =>
      rw [List.forall_mem_cons] at h
      have hall : ∀ c ∈ caps ++ [prev, last], c.isUpper = true := by simpa [or_imp, forall_and, hprev, hlast] using h.2
      have hstep := @spaceBy_isLastCapital_capitals _ x hall (by simp) (c :: rest)
      rw [List.append_assoc] at hstep
      rw [List.cons_append, List.cons_append, ← ih h.2]
      exact hstep

/-- With some capitals just passed, the second pass goes on as from the first of them. -/
theorem spaceRuns_eq {run : List Char} (h : ∀ c ∈ run, c.isUpper = true) (cs : List Char) :
    spaceRuns run cs = spaceBy isLastCapital (run.reverse ++ cs) := by
  induction cs generalizing run with
  | nil =>
      have hrun : ∀ c ∈ run.reverse, c.isUpper = true := by simpa using h
      rw [spaceRuns, spaceBy_capitals hrun (by simp)]
      simp [spaceBy]
  | cons c rest ih =>
      have hrest : spaceRuns [] rest = spaceBy isLastCapital rest := ih (by simp)
      unfold spaceRuns
      rw [hrest]
      split
      · next hupper =>
          rw [ih (List.forall_mem_cons.2 ⟨hupper, h⟩)]
          simp
      · next hupper =>
          rw [Bool.not_eq_true] at hupper
          split
          · next hlower =>
              match run with
              | [] => rw [List.reverse_nil, List.nil_append, List.nil_append, spaceBy_isLastCapital_cons hupper]
              | [x] => simp [spaceBy, isLastCapital, hupper, spaceBy_isLastCapital_cons]
              | last :: prev :: more =>
                  simp only [List.forall_mem_cons] at h
                  have hmore : ∀ c ∈ more.reverse, c.isUpper = true := by simpa using h.2.2
                  simpa using (spaceBy_capitals_lower hmore h.2.1 h.1 hlower rest).symm
          · next hlower =>
              rw [Bool.not_eq_true] at hlower
              have hrun : ∀ c ∈ run.reverse, c.isUpper = true := by simpa using h
              rw [spaceBy_capitals hrun (by simp [hupper, hlower]), spaceBy_isLastCapital_cons hupper]

end Capitals

/-! ## Both passes -/

/-- What the first pass inserts is no small letter, and what it inserts it before is none. -/
theorem spaceBy_isRise_next (y : Char) (rest : List Char) : ∃ after,
    spaceBy (fun x y _ => isRise x y) (y :: rest) = y :: after ∧
      after.head?.any Char.isLower = rest.head?.any Char.isLower := by
  cases rest with
  | nil => exact ⟨[], rfl, rfl⟩
  | cons z rest =>
      rw [spaceBy]
      split
      · next hrise =>
          have hz : z.isUpper = true := by simp_all [isRise]
          have hblank : (' ').isLower = false := by decide
          exact ⟨_, rfl, by simp [not_isLower_of_isUpper hz, hblank]⟩
      · refine ⟨_, rfl, ?_⟩
        cases rest with
        | nil => rfl
        | cons w rest => rw [spaceBy]; split <;> rfl

/-- The second pass cuts what comes out of the first one where it would have cut the name itself. -/
theorem spaceBy_spaceBy (cs : List Char) :
    spaceBy isLastCapital (spaceBy (fun x y _ => isRise x y) cs) = spaceBy isHump cs := by
  match cs with
  | [] => rfl
  | [x] => rfl
  | x :: y :: rest =>
      have ih := spaceBy_spaceBy (y :: rest)
      obtain ⟨after, hafter, hnext⟩ := spaceBy_isRise_next y rest
      rw [hafter] at ih
      rw [spaceBy, hafter, spaceBy, ← ih]
      by_cases hrise : isRise x y = true
      · have hblank : (' ').isUpper = false := by decide
        have hjoint : ¬ isLastCapital x ' ' (y :: after).head? = true := by simp [isLastCapital, hblank]
        rw [if_pos hrise, if_pos (by rw [isHump, hrise, Bool.true_or]), spaceBy, if_neg hjoint,
          spaceBy_isLastCapital_cons hblank]
      · have hsame : isLastCapital x y after.head? = isHump x y rest.head? := by
          rw [isHump, Bool.eq_false_iff.2 hrise, Bool.false_or, isLastCapital, isLastCapital, hnext]
        rw [if_neg hrise, spaceBy, hsame]

theorem spaceRuns_spaceHumps (cs : List Char) : spaceRuns [] (spaceHumps cs) = spaceBy isHump cs := by
  rw [spaceHumps_eq, spaceRuns_eq (by simp), List.reverse_nil, List.nil_append, spaceBy_spaceBy]

end CodeAtlas.Search
