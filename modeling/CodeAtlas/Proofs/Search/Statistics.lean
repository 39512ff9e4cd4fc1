import CodeAtlas.Proofs.ExactScore
import CodeAtlas.Proofs.Number.Signs
import CodeAtlas.Proofs.Search.Corpus

set_option autoImplicit false

/-! # What a search divides by

The norm of a document divides by the average length, which is zero for documents without terms, and nothing checks it.
It need not be checked. A term counts for a document only where the document has it; then the document has a length,
the average is above zero, and so is the count with the norm added to it (`Defined`). A norm that is not defined belongs
to a document to which no term ever counts.

`Guarded` makes that a statement about the search itself: it is the same arithmetic, in which a quotient has a value
only where the divisor is above zero, and a logarithm only where its argument is. In it every document gets the score
that it gets without the guards, and every search gives the same (`guardsIdle_of_defined`). What has to be above zero is
so over the rationals (`defined_exact`) and, for as many documents and terms as doubles count one by one, over the
doubles, whatever is rounded on the way (`defined_float`). -/

namespace CodeAtlas

/-- Is a score above zero? -/
def Scoring.IsPositive {α : Type} [Scoring α] (x : α) : Prop := Scoring.less (Scoring.ofNat 0) x = true

instance {α : Type} [Scoring α] (x : α) : Decidable (Scoring.IsPositive x) :=
  inferInstanceAs (Decidable (Scoring.less (Scoring.ofNat 0) x = true))

/-! ## Guarded arithmetic -/

/-- A score, or none where something was divided by what is not above zero, or its logarithm taken. -/
structure Guarded (α : Type) where
  value? : Option α

namespace Guarded

open Scoring

variable {α : Type}

/-- A score that is there. -/
def of (x : α) : Guarded α := ⟨some x⟩

/-- An operation on two scores that are there. -/
def combine (f : α → α → Option α) (x y : Guarded α) : Guarded α := ⟨x.value?.bind fun a => y.value?.bind (f a)⟩

/-- A score that is there, with its id. -/
def scored (s : Scored α) : Scored (Guarded α) := ⟨s.id, of s.score⟩

variable [Scoring α]

instance : Scoring (Guarded α) where
  add := combine fun a b => some (a + b)
  sub := combine fun a b => some (a - b)
  mul := combine fun a b => some (a * b)
  div := combine fun a b => if IsPositive b then some (a / b) else none
  ofRat r := of (ofRat r)
  less x y := (x.value?.bind fun a => y.value?.map (less a)).getD false

instance [Logarithm α] : Logarithm (Guarded α) where
  log x := ⟨x.value?.bind fun a => if IsPositive a then some (Logarithm.log a) else none⟩

theorem of_add (a b : α) : of a + of b = of (a + b) := rfl

theorem of_sub (a b : α) : of a - of b = of (a - b) := rfl

theorem of_mul (a b : α) : of a * of b = of (a * b) := rfl

theorem ofRat_eq (r : ℚ) : (ofRat r : Guarded α) = of (ofRat r) := rfl

theorem ofNat_eq (n : ℕ) : (ofNat n : Guarded α) = of (ofNat n) := rfl

theorem of_div (a : α) {b : α} (h : IsPositive b) : of a / of b = of (a / b) :=
  congrArg Guarded.mk (if_pos h)

theorem log_of [Logarithm α] {a : α} (h : IsPositive a) : Logarithm.log (of a) = of (Logarithm.log a) :=
  congrArg Guarded.mk (if_pos h)

/-- Scores that are there are ranked as without guards. -/
theorem rank_map_scored (l : List (Scored α)) : Scored.rank (l.map scored) = (Scored.rank l).map scored :=
  (List.map_mergeSort (f := scored) (r := Scored.ranksBefore) fun _ _ _ _ => rfl).symm

end Guarded

namespace Search

open Scoring

/-! ## Counts -/

theorem get?_termFrequencies (terms : List String) (t : String) :
    (termFrequencies terms).get? t = if t ∈ terms then some (terms.count t) else none := by
  have htally := Dict.get?_tally id terms t
  rwa [List.map_id] at htally

/-- The counts of the terms add up to the number of the terms. -/
theorem sum_values_termFrequencies (terms : List String) : (termFrequencies terms).values.sum = terms.length := by
  have hvalues : (termFrequencies terms).values = (termFrequencies terms).keys.map fun t => terms.count t := by
    rw [Dict.values, Dict.keys, List.map_map]
    refine List.map_congr_left fun e he => ?_
    have hget := (Dict.mem_entries_iff (nodup_keys_termFrequencies terms) e.1 e.2).1 he
    rw [get?_termFrequencies] at hget
    split_ifs at hget
    exact (Option.some.inj hget).symm
  have hkeys : (termFrequencies terms).keys.Perm terms.dedup :=
    (List.perm_ext_iff_of_nodup (nodup_keys_termFrequencies terms) terms.nodup_dedup).2 fun t => by
      rw [mem_keys_termFrequencies, List.mem_dedup]
  rw [hvalues, (hkeys.map _).sum_eq]
  exact List.sum_map_count_dedup_eq_length terms

/-- A corpus has the statistics of the documents. -/
structure Counted {α : Type} (documents : List Document) (c : Corpus α) : Prop where
  frequencies : c.frequencies = documents.map fun d => termFrequencies (tokenize d.text)
  counts : ∀ d ∈ documents, ∀ t, (termFrequencies (tokenize d.text)).get? t =
    if t ∈ tokenize d.text then some ((tokenize d.text).count t) else none
  lengths : c.lengths = c.frequencies.map fun tf => tf.values.sum
  df : ∀ t, c.df.get? t = if ∃ d ∈ documents, t ∈ tokenize d.text then
    some (documents.countP fun d => t ∈ tokenize d.text) else none
  df_bounds : ∀ t n, c.df.get? t = some n → 1 ≤ n ∧ n ≤ documents.length

variable {α : Type} [Scoring α] [Logarithm α]

theorem df_ofDocuments (documents : List Document) : (Corpus.ofDocuments documents : Corpus α).df =
    documentFrequencies ((documents.map fun d => tokenize d.text).map termFrequencies) := rfl

theorem counted_ofDocuments (documents : List Document) :
    Counted documents (Corpus.ofDocuments documents : Corpus α) where
  frequencies := by simp only [Corpus.ofDocuments, List.map_map, Function.comp_def]
  counts d _ t := get?_termFrequencies (tokenize d.text) t
  lengths := by
    simp only [Corpus.ofDocuments, List.map_map, Function.comp_def, sum_values_termFrequencies]
  df t := by
    rw [df_ofDocuments, get?_documentFrequencies, List.countP_map]
    simp only [List.mem_map, exists_exists_and_eq_and, Function.comp_def]
  df_bounds t n h := by
    rw [df_ofDocuments] at h
    have hbounds := (bounds_of_get?_documentFrequencies h).2
    rwa [List.length_map] at hbounds

/-! ## What has to be above zero -/

/-- What is divided by, and what a logarithm is taken of, is above zero wherever it counts for a score. -/
structure Defined (α : Type) [Scoring α] [Logarithm α] (o : Bm25Options) (documents : List Document) : Prop where
  total : documents ≠ [] → IsPositive (ofNat documents.length : α)
  weights : ∀ t n, (Corpus.ofDocuments documents : Corpus α).df.get? t = some n →
    IsPositive (ofNat n + ofRat 0.5 : α) ∧
    IsPositive ((ofNat documents.length - ofNat n + ofRat 0.5) / (ofNat n + ofRat 0.5) : α)
  contributions : ∀ d ∈ documents, ∀ t count, (termFrequencies (tokenize d.text)).get? t = some count → count ≠ 0 →
    IsPositive (Corpus.ofDocuments documents : Corpus α).averageLength ∧
    IsPositive (ofNat count + Bm25.norm o (tokenize d.text).length
      (Corpus.ofDocuments documents : Corpus α).averageLength)

section Guards

variable {o : Bm25Options} {documents : List Document}

theorem df_guarded : (Corpus.ofDocuments documents : Corpus (Guarded α)).df =
    (Corpus.ofDocuments documents : Corpus α).df := rfl

section

omit [Logarithm α]

theorem norm_guarded (o : Bm25Options) (length : ℕ) {averageLength : α} (h : IsPositive averageLength) :
    (Bm25.norm o length (.of averageLength) : Guarded α) = .of (Bm25.norm o length averageLength) := by
  simp only [Bm25.norm, Guarded.ofNat_eq, Guarded.ofRat_eq, Guarded.of_sub, Guarded.of_mul, Guarded.of_div _ h,
    Guarded.of_add]

theorem contribution_guarded (o : Bm25Options) (idf : α) {norm : α} {count : ℕ} (h : IsPositive (ofNat count + norm)) :
    (Bm25.contribution o (.of idf) (.of norm) count : Guarded α) = .of (Bm25.contribution o idf norm count) := by
  simp only [Bm25.contribution, Guarded.ofNat_eq, Guarded.ofRat_eq, Guarded.of_mul, Guarded.of_add, Guarded.of_div _ h]

end

theorem averageLength_guarded (h : Defined α o documents) :
    (Corpus.ofDocuments documents : Corpus (Guarded α)).averageLength =
      .of (Corpus.ofDocuments documents : Corpus α).averageLength := by
  rw [averageLength_ofDocuments, averageLength_ofDocuments]
  split_ifs with hempty
  · rfl
  · have htotal := h.total fun hnil => hempty (List.length_eq_zero_iff.2 hnil)
    rw [Guarded.ofNat_eq, Guarded.ofNat_eq, Guarded.of_div _ htotal]

theorem inverseFrequency_guarded (h : Defined α o documents) {t : String} {n : ℕ}
    (ht : (Corpus.ofDocuments documents : Corpus α).df.get? t = some n) :
    (Corpus.inverseFrequency documents.length n : Guarded α) = .of (Corpus.inverseFrequency documents.length n) := by
  obtain ⟨hdivisor, hargument⟩ := h.weights t n ht
  simp only [Corpus.inverseFrequency, Guarded.ofNat_eq, Guarded.ofRat_eq, Guarded.of_sub, Guarded.of_add,
    Guarded.of_div _ hdivisor, Guarded.log_of hargument]

theorem get?_idf_ofDocuments (documents : List Document) (t : String) :
    (Corpus.ofDocuments documents : Corpus α).idf.get? t =
      ((Corpus.ofDocuments documents : Corpus α).df.get? t).map (Corpus.inverseFrequency documents.length) :=
  Dict.get?_map_values _ _ t

theorem idf_guarded (h : Defined α o documents) (t : String) :
    (Corpus.ofDocuments documents : Corpus (Guarded α)).idf.get? t =
      ((Corpus.ofDocuments documents : Corpus α).idf.get? t).map Guarded.of := by
  rw [get?_idf_ofDocuments, get?_idf_ofDocuments, df_guarded]
  cases ht : (Corpus.ofDocuments documents : Corpus α).df.get? t with
  | none => rfl
  | some n => exact congrArg some (inverseFrequency_guarded h ht)

omit [Logarithm α] in
theorem documentScore_guarded {c : Corpus α} {c' : Corpus (Guarded α)}
    (haverage : c'.averageLength = .of c.averageLength)
    (hidf : ∀ t, c'.idf.get? t = (c.idf.get? t).map Guarded.of) {tf : Dict String ℕ} {length : ℕ}
    (h : ∀ t count, tf.get? t = some count → count ≠ 0 →
      IsPositive c.averageLength ∧ IsPositive (ofNat count + Bm25.norm o length c.averageLength))
    (terms : List String) :
    Bm25.documentScore o c' tf length terms = .of (Bm25.documentScore o c tf length terms) := by
  simp only [Bm25.documentScore]
  induction terms using List.reverseRecOn with
  | nil => rfl
  | append_singleton rest t ih =>
      rw [List.foldl_append, List.foldl_append, ih, List.foldl_cons, List.foldl_cons, List.foldl_nil, List.foldl_nil]
      cases hcount : tf.get? t with
      | none => rfl
      | some count =>
          cases count with
          | zero => rfl
          | succ n =>
              obtain ⟨hpos, hdivisor⟩ := h t (n + 1) hcount n.succ_ne_zero
              simp only [haverage, norm_guarded _ _ hpos, hidf, Guarded.ofNat_eq, Option.getD_map,
                contribution_guarded _ _ hdivisor, Guarded.of_add]

/-- The scores of the documents, one after another. -/
theorem scores_ofDocuments (o : Bm25Options) (documents : List Document) (terms : List String) :
    Bm25.scores o (Corpus.ofDocuments documents : Corpus α) terms = documents.map fun d =>
      ⟨d.id, Bm25.documentScore o (Corpus.ofDocuments documents) (termFrequencies (tokenize d.text))
        (tokenize d.text).length terms⟩ := by
  have hzip : documents.zip ((Corpus.ofDocuments documents : Corpus α).frequencies.zip
      (Corpus.ofDocuments documents : Corpus α).lengths) =
      documents.map fun d => (d, termFrequencies (tokenize d.text), (tokenize d.text).length) := by
    simp only [Corpus.ofDocuments, List.map_map, List.zip_map', List.map_prod_left_eq_zip, Function.comp_def]
  rw [Bm25.scores, show (Corpus.ofDocuments documents : Corpus α).documents = documents from rfl, hzip, List.map_map]
  rfl

/-- The guards are never in the way: neither of a score nor of a search. -/
structure GuardsIdle (α : Type) [Scoring α] [Logarithm α] (o : Bm25Options) (documents : List Document) : Prop where
  scores : ∀ terms, Bm25.scores o (Corpus.ofDocuments documents : Corpus (Guarded α)) terms =
    (Bm25.scores o (Corpus.ofDocuments documents) terms).map Guarded.scored
  search : ∀ query topK, (Bm25.build o documents : Bm25 (Guarded α)).search query topK =
    ((Bm25.build o documents).search query topK).map (List.map Guarded.scored)

theorem scores_guarded (h : Defined α o documents) (terms : List String) :
    Bm25.scores o (Corpus.ofDocuments documents : Corpus (Guarded α)) terms =
      (Bm25.scores o (Corpus.ofDocuments documents) terms).map Guarded.scored := by
  rw [scores_ofDocuments, scores_ofDocuments, List.map_map]
  exact List.map_congr_left fun d hd => congrArg (Scored.mk d.id)
    (documentScore_guarded (averageLength_guarded h) (idf_guarded h) (h.contributions d hd) terms)

/-- **Where all of it is above zero, the guards are never in the way.** -/
theorem guardsIdle_of_defined (h : Defined α o documents) : GuardsIdle α o documents where
  scores := scores_guarded h
  search query topK := by
    simp only [Bm25.search, Bm25.build, Bm25.requireCorpus, bind, Except.bind, scores_guarded h]
    split_ifs
    · rfl
    · rw [List.filter_map, Guarded.rank_map_scored]
      exact congrArg Except.ok List.map_take.symm

end Guards

/-! ## Where all of it is above zero -/

section Positivity

variable {o : Bm25Options} {documents : List Document} {d : Document} {t : String} {count : ℕ}

/-- Where a term counts, the document has terms, so there are documents and terms. -/
theorem pos_of_get?_termFrequencies (hd : d ∈ documents)
    (hcount : (termFrequencies (tokenize d.text)).get? t = some count) :
    count ≤ (tokenize d.text).length ∧ 0 < (tokenize d.text).length ∧
      0 < (documents.map fun d => (tokenize d.text).length).sum ∧ 0 < documents.length := by
  rw [get?_termFrequencies] at hcount
  split_ifs at hcount with ht
  have hpos := List.length_pos_of_mem ht
  have hle : (tokenize d.text).length ≤ (documents.map fun d => (tokenize d.text).length).sum :=
    List.single_le_sum (fun n _ => n.zero_le) _ (List.mem_map_of_mem hd)
  exact ⟨Option.some.inj hcount ▸ List.count_le_length, hpos, hpos.trans_le hle, List.length_pos_of_mem hd⟩

theorem isPositive_exact_iff (x : ℚ) : IsPositive x ↔ 0 < x := by
  rw [IsPositive, less_exact, decide_eq_true_iff, ofNat_exact, Nat.cast_zero]

theorem Bm25.norm_nonneg (hk1 : 0 < o.k1) (hb : 0 ≤ o.b ∧ o.b ≤ 1) (length : ℕ) {averageLength : ℚ}
    (haverage : 0 ≤ averageLength) : 0 ≤ norm o length averageLength := by
  obtain ⟨hb, hb'⟩ := hb
  have hrest : 0 ≤ 1 - o.b := sub_nonneg.2 hb'
  simp only [norm, ofNat_exact, ofRat_exact, Nat.cast_one]
  positivity

/-- Over the rationals. -/
theorem defined_exact [Logarithm ℚ] (hk1 : 0 < o.k1) (hb : 0 ≤ o.b ∧ o.b ≤ 1) : Defined ℚ o documents where
  total hne := by
    rw [isPositive_exact_iff, ofNat_exact]
    exact_mod_cast List.length_pos_of_ne_nil hne
  weights t n ht := by
    have hbounds := (counted_ofDocuments (α := ℚ) documents).df_bounds t n ht
    have hle : (n : ℚ) ≤ documents.length := by exact_mod_cast hbounds.2
    simp only [isPositive_exact_iff, ofNat_exact, ofRat_exact]
    have hdivisor : (0 : ℚ) < n + 0.5 := by positivity
    exact ⟨hdivisor, div_pos (by linarith) hdivisor⟩
  contributions d hd t count hcount hne := by
    obtain ⟨-, -, hsum, htotal⟩ := pos_of_get?_termFrequencies hd hcount
    have haverage : 0 < (Corpus.ofDocuments documents : Corpus ℚ).averageLength := by
      rw [averageLength_ofDocuments, if_neg htotal.ne', ofNat_exact, ofNat_exact]
      exact div_pos (by exact_mod_cast hsum) (by exact_mod_cast htotal)
    exact ⟨(isPositive_exact_iff _).2 haverage, (isPositive_exact_iff _).2
      (add_pos_of_pos_of_nonneg (Nat.cast_pos.2 (Nat.pos_of_ne_zero hne)) (Bm25.norm_nonneg hk1 hb _ haverage.le))⟩

open Number

theorem isPositive_of_above {x : Float} (h : Above x) : IsPositive x := less_zero_of_above h

/-- Over the doubles. -/
theorem defined_float (hk1 : Positive (toFloat o.k1)) (hb : 0 ≤ o.b ∧ o.b ≤ 1) (hlength : documents.length < 2 ^ 53)
    (hterms : ∀ d ∈ documents, (tokenize d.text).length < 2 ^ 53) : Defined Float o documents where
  total hne := by
    have hpos := List.length_pos_of_ne_nil hne
    exact isPositive_of_above (above_of_positive (isNormal_natCast hpos (hlength.trans (by decide))).positive)
  weights t n ht := by
    have hbounds := (counted_ofDocuments (α := Float) documents).df_bounds t n ht
    obtain ⟨hdivisor, hquotient⟩ := isNormal_odds hbounds.1 hbounds.2 hlength
    exact ⟨isPositive_of_above (above_of_positive hdivisor.positive),
      isPositive_of_above (above_of_positive hquotient.positive)⟩
  contributions d hd t count hcount hne := by
    obtain ⟨hle, hpos, hsum, htotal⟩ := pos_of_get?_termFrequencies hd hcount
    have hsmall : (tokenize d.text).length < 2 ^ 106 := (hterms d hd).trans (by decide)
    have haverage : Positive (Corpus.ofDocuments documents : Corpus Float).averageLength := by
      rw [averageLength_ofDocuments, if_neg htotal.ne']
      exact ((isNormal_natCast hsum (sum_lengths_lt hlength hterms)).div
        (isNormal_natCast htotal (hlength.trans (by decide))) (by decide)).positive
    have hownLength := (isNormal_natCast hpos hsmall).positive
    have hown := (isNormal_natCast (Nat.pos_of_ne_zero hne) (hle.trans_lt hsmall)).positive
    -- the norm may overflow or be rounded to zero, but not below it
    obtain ⟨hshare, hrest⟩ := nonNegative_share hb
    have hnorm : NonNegative (Bm25.norm o (tokenize d.text).length
        (Corpus.ofDocuments documents : Corpus Float).averageLength) :=
      .positive_mul hk1 (hrest.add ((hshare.mul_positive hownLength).div_positive haverage))
    exact ⟨isPositive_of_above (above_of_positive haverage), isPositive_of_above (hnorm.above_add hown)⟩

end Positivity

/-! ## The index of any documents -/

/-- **The statistics of an index are right, and its arithmetic is defined.** For any documents, a saturation above zero
    and a weight of the length between 0 and 1: each frequency is the number of documents with the term, at least one
    and at most all, and each length adds up the counts of the terms. What a logarithm is taken of is above zero, and so
    is what is divided by wherever a term counts for a document; and every score and every search stays the same when
    nothing else has a quotient or a logarithm. This is so over the rationals and over the doubles, where the saturation
    is a positive double and the documents and their terms are no more than doubles count. -/
theorem build_counted_defined (documents : List Document) {o : Bm25Options} (hk1 : 0 < o.k1)
    (hb : 0 ≤ o.b ∧ o.b ≤ 1) :
    (∀ (α : Type) [Scoring α] [Logarithm α], Counted documents (Corpus.ofDocuments documents : Corpus α)) ∧
    (∀ [Logarithm ℚ], Defined ℚ o documents ∧ GuardsIdle ℚ o documents) ∧
    (Number.Positive (Number.toFloat o.k1) → documents.length < 2 ^ 53 →
      (∀ d ∈ documents, (tokenize d.text).length < 2 ^ 53) →
      Defined Float o documents ∧ GuardsIdle Float o documents) := by
  refine ⟨fun _ => counted_ofDocuments documents, ?_, fun hpositive hlength hterms => ?_⟩
  · intro log
    have h : Defined ℚ o documents := defined_exact hk1 hb
    exact ⟨h, guardsIdle_of_defined h⟩
  · have h := defined_float hpositive hb hlength hterms
    exact ⟨h, guardsIdle_of_defined h⟩

/-- A document that repeats a term, one that shares it, and one without terms. -/
def echoes : List Document := [⟨"a.py", "alpha beta alpha"⟩, ⟨"b.py", "alpha"⟩, ⟨"c.py", "--"⟩]

theorem build_echoes : (Corpus.ofDocuments echoes : Corpus Float).df.get? "alpha" = some 2 ∧
    (Corpus.ofDocuments echoes : Corpus Float).lengths = [3, 1, 0] ∧
    Defined Float ⟨1.2, 0.75⟩ echoes ∧ GuardsIdle Float ⟨1.2, 0.75⟩ echoes := by
  have hk1 : Number.Positive (Number.toFloat 1.2) :=
    Number.positive_toFloat (by norm_num) (by decide +kernel) (by decide +kernel)
  obtain ⟨hcounted, -, hdoubles⟩ :=
    build_counted_defined echoes (o := ⟨1.2, 0.75⟩) (by norm_num) ⟨by norm_num, by norm_num⟩
  refine ⟨((hcounted Float).df "alpha").trans (by decide +kernel), ?_, hdoubles hk1 (by decide) (by decide +kernel)⟩
  rw [(hcounted Float).lengths, (hcounted Float).frequencies]
  decide +kernel

end Search

end CodeAtlas
