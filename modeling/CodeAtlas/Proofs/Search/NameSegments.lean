import CodeAtlas.Proofs.Path
import CodeAtlas.Proofs.Search.Humps
import Mathlib.Tactic.Tauto

set_option autoImplicit false

/-! # Segments of identifiers

Two neighbouring characters of a name are joined if both are letters or digits and the rule on humps does not cut
between them (`Joined`); a segment is a stretch of characters that goes as far as its neighbours are joined
(`IsSegment`). Read from its end, a name gets one segment after another: a character that is joined to the next one
starts the segment of that one, and any other letter or digit starts a segment of its own (`spans`). That lists all
segments in their order (`mem_spans_iff`, `ordered_spans`).

Splitting goes the same way. Where a name with blanks at its humps is split at everything that is no letter or digit,
the runs that remain are what the spans cover (`letterRuns_spaceBy`), and lower case empties none of them
(`nameSegments_eq_spans`). -/

namespace CodeAtlas.Search

open Unicode Text

variable {cs rest : List Char} {c : Char} {i start stop : ℕ}

/-! ## Stretches of a name -/

/-- Do two neighbouring characters of a name stand in one segment? Both are letters or digits, and there is no hump
    between them. -/
def Joined (cs : List Char) (i : ℕ) : Prop :=
  ∃ x y, cs[i]? = some x ∧ cs[i + 1]? = some y ∧ isLetterOrNumber x = true ∧ isLetterOrNumber y = true ∧
    isHump x y cs[i + 2]? = false

/-- A segment is a stretch of letters and digits in which all neighbours are joined, and which is joined neither to
    what stands before it nor to what comes after it. -/
structure IsSegment (cs : List Char) (start stop : ℕ) : Prop where
  nonempty : start < stop
  letters : ∀ i, start ≤ i → i < stop → ∃ c, cs[i]? = some c ∧ isLetterOrNumber c = true
  joined : ∀ i, start ≤ i → i + 1 < stop → Joined cs i
  apart_before : ∀ i, i + 1 = start → ¬ Joined cs i
  apart_after : ∀ i, i + 1 = stop → ¬ Joined cs i

theorem joined_succ_iff : Joined (c :: rest) (i + 1) ↔ Joined rest i := by
  simp [Joined]

/-- Does a segment go on with the character after its first one? -/
def goesOn (c : Char) : List Char → Bool
  | [] => false
  | d :: rest => isLetterOrNumber c && isLetterOrNumber d && !isHump c d rest.head?

theorem joined_zero_iff : Joined (c :: rest) 0 ↔ goesOn c rest = true := by
  cases rest with
  | nil => simp [Joined, goesOn]
  | cons d rest => simp [Joined, goesOn, List.head?_eq_getElem?, and_assoc]

/-- A stretch that does not start a name is a segment of what follows the first character, if it is not joined to it. -/
theorem isSegment_succ_iff :
    IsSegment (c :: rest) (start + 1) (stop + 1) ↔ IsSegment rest start stop ∧ (start = 0 → goesOn c rest = false) := by
  constructor
  · intro h
    refine ⟨⟨Nat.lt_of_succ_lt_succ h.nonempty, fun i hi hi' => h.letters (i + 1) (by omega) (by omega),
      fun i hi hi' => joined_succ_iff.1 (h.joined (i + 1) (by omega) (by omega)),
      fun i hi => joined_succ_iff.not.1 (h.apart_before (i + 1) (by omega)),
      fun i hi => joined_succ_iff.not.1 (h.apart_after (i + 1) (by omega))⟩, fun hzero => ?_⟩
    exact Bool.eq_false_iff.2 (joined_zero_iff.not.1 (h.apart_before 0 (by omega)))
  · rintro ⟨h, hfirst⟩
    refine ⟨Nat.succ_lt_succ h.nonempty, fun i hi hi' => ?_, fun i hi hi' => ?_, fun i hi => ?_, fun i hi => ?_⟩
    · obtain ⟨j, rfl⟩ := Nat.exists_eq_add_one.2 (Nat.zero_lt_of_lt hi)
      exact h.letters j (by omega) (by omega)
    · obtain ⟨j, rfl⟩ := Nat.exists_eq_add_one.2 (Nat.zero_lt_of_lt hi)
      exact joined_succ_iff.2 (h.joined j (by omega) (by omega))
    · cases i with
      | zero => exact joined_zero_iff.not.2 (Bool.eq_false_iff.1 (hfirst (by omega)))
      | succ i => exact joined_succ_iff.not.2 (h.apart_before i (by omega))
    · have hpos := h.nonempty
      obtain ⟨j, rfl⟩ := Nat.exists_eq_add_one.2 (show 0 < i by omega)
      exact joined_succ_iff.not.2 (h.apart_after j (by omega))

/-- A segment that starts a name is its first character alone, or goes on as a segment of what follows. -/
theorem isSegment_zero_iff : IsSegment (c :: rest) 0 (stop + 1) ↔
    isLetterOrNumber c = true ∧ if goesOn c rest = true then IsSegment rest 0 stop else stop = 0 := by
  constructor
  · intro h
    obtain ⟨d, hd, hletter⟩ := h.letters 0 (Nat.le_refl _) h.nonempty
    obtain rfl : c = d := by simpa using hd
    refine ⟨hletter, ?_⟩
    split
    · next hgoes =>
        have hpos : 0 < stop := Nat.pos_of_ne_zero fun hzero =>
          h.apart_after 0 (by omega) (joined_zero_iff.2 hgoes)
        exact ⟨hpos, fun i _ hi => h.letters (i + 1) (by omega) (by omega),
          fun i _ hi => joined_succ_iff.1 (h.joined (i + 1) (by omega) (by omega)), fun i hi => absurd hi (by omega),
          fun i hi => joined_succ_iff.not.1 (h.apart_after (i + 1) (by omega))⟩
    · next hends =>
        by_contra hpos
        exact hends (joined_zero_iff.1 (h.joined 0 (Nat.le_refl _) (by omega)))
  · rintro ⟨hletter, h⟩
    split at h
    · next hgoes =>
        refine ⟨Nat.succ_pos _, fun i _ hi => ?_, fun i _ hi => ?_, fun i hi => absurd hi (by omega), fun i hi => ?_⟩
        · cases i with
          | zero => exact ⟨c, rfl, hletter⟩
          | succ i => exact h.letters i (Nat.zero_le _) (by omega)
        · cases i with
          | zero => exact joined_zero_iff.2 hgoes
          | succ i => exact joined_succ_iff.2 (h.joined i (Nat.zero_le _) (by omega))
        · have hpos := h.nonempty
          obtain ⟨j, rfl⟩ := Nat.exists_eq_add_one.2 (show 0 < i by omega)
          exact joined_succ_iff.not.2 (h.apart_after j (by omega))
    · next hends =>
        subst h
        refine ⟨Nat.succ_pos _, fun i _ hi => ?_, fun i _ hi => absurd hi (by omega), fun i hi => absurd hi (by omega),
          fun i hi => ?_⟩
        · obtain rfl : i = 0 := by omega
          exact ⟨c, rfl, hletter⟩
        · obtain rfl : i = 0 := by omega
          exact joined_zero_iff.not.2 hends

/-! ## All segments -/

/-- Spans counted from one character earlier. -/
def later (l : List (ℕ × ℕ)) : List (ℕ × ℕ) := l.map fun s => (s.1 + 1, s.2 + 1)

@[simp] theorem mem_later_succ {l : List (ℕ × ℕ)} : (start + 1, stop + 1) ∈ later l ↔ (start, stop) ∈ l := by
  simp [later]

@[simp] theorem not_mem_later_zero {l : List (ℕ × ℕ)} : (0, stop) ∉ later l := by
  simp [later]

/-- From where to where the segments of a name reach. -/
def spans : List Char → List (ℕ × ℕ)
  | [] => []
  | c :: rest =>
    if isLetterOrNumber c = false then later (spans rest)
    else if goesOn c rest = false then (0, 1) :: later (spans rest)
    else match spans rest with
      | [] => []
      | (_, stop) :: more => (0, stop + 1) :: later more

theorem exists_of_goesOn (h : goesOn c rest = true) :
    isLetterOrNumber c = true ∧ ∃ d more, rest = d :: more ∧ isLetterOrNumber d = true := by
  cases rest with
  | nil => simp [goesOn] at h
  | cons d more =>
      simp only [goesOn, Bool.and_eq_true] at h
      exact ⟨h.1.1, d, more, rfl, h.1.2⟩

/-- A name that starts with a letter or a digit starts with a span. -/
theorem exists_spans_cons (h : isLetterOrNumber c = true) (rest : List Char) :
    ∃ stop more, spans (c :: rest) = (0, stop) :: more := by
  induction rest generalizing c with
  | nil => exact ⟨1, [], by simp [spans, h, goesOn, later]⟩
  | cons d rest ih =>
      by_cases hgoes : goesOn c (d :: rest) = true
      · obtain ⟨-, d, rest, hsame, hd⟩ := exists_of_goesOn hgoes
        rw [List.cons_eq_cons] at hsame
        obtain ⟨rfl, rfl⟩ := hsame
        obtain ⟨stop, more, hspans⟩ := ih hd
        exact ⟨stop + 1, later more, by rw [spans, h, hgoes, hspans]; rfl⟩
      · exact ⟨1, later (spans (d :: rest)), by rw [spans, h, Bool.eq_false_iff.2 hgoes]; rfl⟩

/-- One character more either adds nothing, or a span of its own, or stands before the first span. -/
theorem spans_cons (c : Char) (rest : List Char) :
    (isLetterOrNumber c = false ∧ spans (c :: rest) = later (spans rest)) ∨
    (isLetterOrNumber c = true ∧ goesOn c rest = false ∧ spans (c :: rest) = (0, 1) :: later (spans rest)) ∨
    (isLetterOrNumber c = true ∧ goesOn c rest = true ∧ ∃ stop more, spans rest = (0, stop) :: more ∧
      spans (c :: rest) = (0, stop + 1) :: later more) := by
  by_cases hc : isLetterOrNumber c = false
  · exact .inl ⟨hc, by rw [spans, if_pos hc]⟩
  · by_cases hgoes : goesOn c rest = false
    · exact .inr (.inl ⟨by simpa using hc, hgoes, by rw [spans, if_neg hc, if_pos hgoes]⟩)
    · obtain ⟨-, d, more, rfl, hd⟩ := exists_of_goesOn (Bool.not_eq_false _ ▸ hgoes)
      obtain ⟨stop, more', hspans⟩ := exists_spans_cons hd more
      exact .inr (.inr ⟨by simpa using hc, by simpa using hgoes, stop, more', hspans, by
        rw [spans, if_neg hc, if_neg hgoes, hspans]⟩)

/-- Spans that are not empty and follow one another. -/
structure Ordered (l : List (ℕ × ℕ)) : Prop where
  nonempty : ∀ s ∈ l, s.1 < s.2
  pairwise : l.Pairwise fun s t => s.2 ≤ t.1

theorem Ordered.later {l : List (ℕ × ℕ)} (h : Ordered l) : Ordered (later l) := by
  refine ⟨fun s hs => ?_, ?_⟩
  · obtain ⟨t, ht, rfl⟩ := List.mem_map.1 hs
    exact Nat.succ_lt_succ (h.nonempty t ht)
  · rw [Search.later, List.pairwise_map]
    exact h.pairwise.imp fun hst => Nat.succ_le_succ hst

theorem Ordered.cons {l : List (ℕ × ℕ)} (h : Ordered l) (hstop : 0 < stop) (hfirst : ∀ s ∈ l, stop ≤ s.1) :
    Ordered ((0, stop) :: l) :=
  ⟨List.forall_mem_cons.2 ⟨hstop, h.nonempty⟩, List.pairwise_cons.2 ⟨hfirst, h.pairwise⟩⟩

theorem Ordered.tail {s : ℕ × ℕ} {l : List (ℕ × ℕ)} (h : Ordered (s :: l)) : Ordered l ∧ ∀ t ∈ l, s.2 ≤ t.1 :=
  ⟨⟨(List.forall_mem_cons.1 h.nonempty).2, h.pairwise.of_cons⟩, (List.pairwise_cons.1 h.pairwise).1⟩

theorem ordered_spans (cs : List Char) : Ordered (spans cs) := by
  induction cs with
  | nil => exact ⟨by simp [spans], .nil⟩
  | cons c rest ih =>
      rcases spans_cons c rest with ⟨-, h⟩ | ⟨-, -, h⟩ | ⟨-, -, stop, more, hrest, h⟩
      · exact h ▸ ih.later
      · rw [h]
        refine ih.later.cons Nat.one_pos fun s hs => ?_
        obtain ⟨t, -, rfl⟩ := List.mem_map.1 hs
        exact Nat.succ_le_succ (Nat.zero_le t.1)
      · rw [hrest] at ih
        obtain ⟨hmore, hfirst⟩ := ih.tail
        rw [h]
        refine hmore.later.cons (Nat.succ_pos stop) fun s hs => ?_
        obtain ⟨t, ht, rfl⟩ := List.mem_map.1 hs
        exact Nat.succ_le_succ (hfirst t ht)

/-- What comes after the first span does not start with the name. -/
theorem pos_of_mem_after {more : List (ℕ × ℕ)} (h : spans cs = (0, stop) :: more) : ∀ s ∈ more, 0 < s.1 := by
  intro s hs
  have hordered := h ▸ ordered_spans cs
  exact Nat.lt_of_lt_of_le (hordered.nonempty _ (List.mem_cons_self ..)) (hordered.tail.2 s hs)

/-- **The spans of a name are its segments.** -/
theorem mem_spans_iff : (start, stop) ∈ spans cs ↔ IsSegment cs start stop := by
  induction cs generalizing start stop with
  | nil =>
      refine iff_of_false (by simp [spans]) fun h => ?_
      obtain ⟨c, hc, -⟩ := h.letters start (Nat.le_refl _) h.nonempty
      simp at hc
  | cons c rest ih =>
      cases stop with
      | zero =>
          exact iff_of_false (fun h => absurd ((ordered_spans _).nonempty _ h) (Nat.not_lt_zero _))
            fun h => absurd h.nonempty (Nat.not_lt_zero _)
      | succ stop =>
          cases start with
          | zero =>
              rw [isSegment_zero_iff, ← ih]
              rcases spans_cons c rest with ⟨hc, h⟩ | ⟨hc, hgoes, h⟩ | ⟨hc, hgoes, stop', more, hrest, h⟩
              · simp [h, hc]
              · simp [h, hc, hgoes]
              · have hnone : (0, stop) ∉ more := fun hs => absurd (pos_of_mem_after hrest _ hs) (Nat.lt_irrefl 0)
                simp [h, hrest, hc, hgoes, hnone]
          | succ start =>
              rw [isSegment_succ_iff, ← ih]
              rcases spans_cons c rest with ⟨hc, h⟩ | ⟨hc, hgoes, h⟩ | ⟨hc, hgoes, stop', more, hrest, h⟩
              · have hgoes : goesOn c rest = false := Bool.eq_false_iff.2 fun hgoes => by
                  simp [(exists_of_goesOn hgoes).1] at hc
                simp [h, hgoes]
              · simp [h, hgoes]
              · have hsome : (start, stop) ∈ more → start ≠ 0 := fun hs => Nat.ne_of_gt (pos_of_mem_after hrest _ hs)
                simp only [h, hrest, hgoes, List.mem_cons, mem_later_succ, Prod.mk.injEq]
                tauto

/-! ## Runs of letters and digits -/

/-- The runs of letters and digits of a list. -/
def letterRuns (l : List Char) : List (List Char) :=
  (splitList (fun c => !isLetterOrNumber c) l).filter (· ≠ [])

theorem letterRuns_cons_separator (h : isLetterOrNumber c = false) (l : List Char) :
    letterRuns (c :: l) = letterRuns l := by
  simp [letterRuns, splitList, h]

/-- A letter that no other one follows is a run of its own. -/
theorem letterRuns_cons_alone (h : isLetterOrNumber c = true) {l : List Char}
    (hl : ∀ d ∈ l.head?, isLetterOrNumber d = false) : letterRuns (c :: l) = [c] :: letterRuns l := by
  cases l with
  | nil => simp [letterRuns, splitList, h]
  | cons d l => simp [letterRuns, splitList, h, hl d rfl]

/-- A letter before a letter belongs to its run. -/
theorem letterRuns_cons_letter {d : Char} (hc : isLetterOrNumber c = true) (hd : isLetterOrNumber d = true)
    (l : List Char) : ∃ w ws, letterRuns (d :: l) = w :: ws ∧ letterRuns (c :: d :: l) = (c :: w) :: ws := by
  cases hl : splitList (fun c => !isLetterOrNumber c) l with
  | nil => exact absurd hl (splitList_ne_nil _ l)
  | cons w ws => exact ⟨d :: w, ws.filter (· ≠ []), by simp [letterRuns, splitList, hd, hl],
      by simp [letterRuns, splitList, hc, hd, hl]⟩

theorem flatten_letterRuns (l : List Char) : (letterRuns l).flatten = l.filter isLetterOrNumber := by
  induction l with
  | nil => rfl
  | cons c l ih =>
      by_cases hc : isLetterOrNumber c = true
      · rw [List.filter_cons_of_pos hc, ← ih]
        cases l with
        | nil => rw [letterRuns_cons_alone hc (by simp)]; rfl
        | cons d l =>
            by_cases hd : isLetterOrNumber d = true
            · obtain ⟨w, ws, hruns, hmore⟩ := letterRuns_cons_letter hc hd l
              simp [hruns, hmore]
            · rw [letterRuns_cons_alone hc (by simpa using hd)]
              rfl
      · rw [letterRuns_cons_separator (by simpa using hc), List.filter_cons_of_neg hc, ih]

/-! ## The blanks between segments -/

theorem spaceBy_isHump_cons (h : ∀ d more, rest = d :: more → isHump c d more.head? = false) :
    spaceBy isHump (c :: rest) = c :: spaceBy isHump rest := by
  cases rest with
  | nil => rfl
  | cons d more => rw [spaceBy, h d more rfl, if_neg (by simp)]

theorem exists_spaceBy_cons (cut : Char → Char → Option Char → Bool) (c : Char) (rest : List Char) :
    ∃ l, spaceBy cut (c :: rest) = c :: l := by
  cases rest with
  | nil => exact ⟨[], rfl⟩
  | cons d rest =>
      rw [spaceBy]
      split
      · exact ⟨_, rfl⟩
      · exact ⟨_, rfl⟩

/-- A letter or digit with which its segment ends is a run of its own. -/
theorem letterRuns_spaceBy_alone (hc : isLetterOrNumber c = true) (hends : goesOn c rest = false) :
    letterRuns (spaceBy isHump (c :: rest)) = [c] :: letterRuns (spaceBy isHump rest) := by
  have hblank : isLetterOrNumber ' ' = false := by decide
  cases rest with
  | nil => exact letterRuns_cons_alone hc (by simp)
  | cons d more =>
      rw [spaceBy]
      split
      · rw [letterRuns_cons_alone hc (by simp [hblank]), letterRuns_cons_separator hblank]
      · next hnone =>
          have hd : isLetterOrNumber d = false := by simpa [goesOn, hc, hnone] using hends
          obtain ⟨l, hl⟩ := exists_spaceBy_cons isHump d more
          rw [hl, letterRuns_cons_alone hc (by simp [hd])]

/-- With blanks at its humps, the runs of a name are what its spans cover. -/
theorem letterRuns_spaceBy (cs : List Char) :
    letterRuns (spaceBy isHump cs) = (spans cs).map fun s => cs.extract s.1 s.2 := by
  have hlater : ∀ (c : Char) (rest : List Char) (l : List (ℕ × ℕ)),
      ((later l).map fun s => (c :: rest).extract s.1 s.2) = l.map fun s => rest.extract s.1 s.2 := fun c rest l => by
    simp [later, List.extract, Function.comp_def]
  induction cs with
  | nil => rfl
  | cons c rest ih =>
      rcases spans_cons c rest with ⟨hc, h⟩ | ⟨hc, hgoes, h⟩ | ⟨hc, hgoes, stop, more, hrest, h⟩
      · have hnone : ∀ d more, rest = d :: more → isHump c d more.head? = false := fun d more _ =>
          Bool.eq_false_iff.2 fun hhump => by simp [(isLetterOrNumber_of_isHump hhump).1] at hc
        rw [spaceBy_isHump_cons hnone, letterRuns_cons_separator hc, ih, h, hlater]
      · rw [letterRuns_spaceBy_alone hc hgoes, ih, h, List.map_cons, hlater]
        simp [List.extract]
      · obtain ⟨-, d, rest, rfl, hd⟩ := exists_of_goesOn hgoes
        obtain ⟨l, hl⟩ := exists_spaceBy_cons isHump d rest
        obtain ⟨w, ws, hruns, hmore⟩ := letterRuns_cons_letter hc hd l
        have hnone : isHump c d rest.head? = false := by simpa [goesOn, hc, hd] using hgoes
        rw [hl, hruns, hrest, List.map_cons, List.cons_eq_cons] at ih
        rw [spaceBy, if_neg (by simp [hnone]), hl, hmore, h, List.map_cons, hlater, ih.1, ih.2]
        simp [List.extract]

theorem filter_spaceBy (cs : List Char) :
    (spaceBy isHump cs).filter isLetterOrNumber = cs.filter isLetterOrNumber := by
  have hblank : isLetterOrNumber ' ' = false := by decide
  fun_induction spaceBy isHump cs with
  | case1 x y rest h ih => simp [List.filter_cons, hblank, ih]
  | case2 x y rest h ih => simp [List.filter_cons, ih]
  | case3 l h => rfl

/-! ## Segments in lower case -/

theorem lower_ofList_eq_empty_iff (l : List Char) : lower (String.ofList l) = "" ↔ l = [] := by
  cases l with
  | nil => simp [lower, lowerFrom]
  | cons c rest =>
      rw [lower, String.toList_ofList, lowerFrom]
      split
      · simp
      · split <;> simp

theorem nameSegments_eq (name : String) :
    nameSegments name = (letterRuns (spaceBy isHump name.toList)).map fun w => lower (String.ofList w) := by
  have hkept : ∀ w : List Char, decide (lower (String.ofList w) ≠ "") = decide (w ≠ []) := fun w => by
    simp [lower_ofList_eq_empty_iff]
  simp only [nameSegments, runs, split, String.toList_ofList, spaceRuns_spaceHumps, letterRuns, List.map_map,
    List.filter_map, Function.comp_def, hkept]

/-- **A name is split into its segments.** What it is split into are, in lower case and in their order, the stretches of
    letters and digits that no hump cuts and that cannot be made longer. None of them is empty, and together they hold
    the letters and digits of the name, each once and in the order of the name. -/
theorem nameSegments_eq_spans (name : String) : ∃ l : List (ℕ × ℕ),
    (∀ start stop, (start, stop) ∈ l ↔ IsSegment name.toList start stop) ∧
    (l.Pairwise fun s t => s.2 ≤ t.1) ∧
    nameSegments name = l.map (fun s => lower (String.ofList (name.toList.extract s.1 s.2))) ∧
    "" ∉ nameSegments name ∧
    (l.flatMap fun s => name.toList.extract s.1 s.2) = name.toList.filter isLetterOrNumber := by
  have hruns := letterRuns_spaceBy name.toList
  refine ⟨spans name.toList, fun _ _ => mem_spans_iff, (ordered_spans _).pairwise, ?_, fun hempty => ?_, ?_⟩
  · rw [nameSegments_eq, hruns, List.map_map]
    rfl
  · simp [nameSegments] at hempty
  · rw [← filter_spaceBy, ← flatten_letterRuns, hruns]
    rfl

example : nameSegments "parseHTTPResponse_v2" = ["parse", "http", "response", "v2"] := by decide +kernel

end CodeAtlas.Search
