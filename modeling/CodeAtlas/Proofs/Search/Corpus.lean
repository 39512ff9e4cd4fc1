import CodeAtlas.Proofs.Dict
import CodeAtlas.Proofs.Json.Strings
import CodeAtlas.Proofs.Number.Arithmetic
import CodeAtlas.Proofs.Path
import CodeAtlas.Search.Bm25
import Mathlib.Algebra.Order.BigOperators.Group.List

set_option autoImplicit false

/-! # The statistics of a corpus

What the terms of a text are made of, how often a document frequency can count, and that the weights and the average
that are computed from the counts are finite. -/

namespace CodeAtlas

/-! ## Terms -/

namespace Unicode

theorem rank_eq_of_forall_le {t : RangeTable} {c : ℕ} (h : ∀ b ∈ t.bounds, b ≤ c) {lo hi : ℕ} (hle : lo ≤ hi)
    (hhi : hi ≤ t.bounds.size) : t.rank c lo hi = hi := by
  fun_induction RangeTable.rank t c lo hi with
  | case1 lo hi hlt mid b hmid hbc ih => exact ih (by omega) hhi
  | case2 lo hi hlt mid b hmid hbc ih => exact absurd (h b (Array.mem_of_getElem? hmid)) hbc
  | case3 lo hi hlt mid hmid ih => exact absurd (Array.getElem?_eq_none_iff.1 hmid) (by omega)
  | case4 lo hi hlt => omega

/-- Nothing at or above all boundaries of a set of ranges belongs to it. -/
theorem contains_eq_false {t : RangeTable} {c : ℕ} (h : ∀ b ∈ t.bounds, b ≤ c) (hsize : t.bounds.size % 2 = 0) :
    t.contains c = false := by
  rw [RangeTable.contains, rank_eq_of_forall_le h (Nat.zero_le _) le_rfl, hsize]
  rfl

/-- The letters and digits end before the characters that carry surrogates. -/
theorem isLetterOrNumber_of_isCarrier {c : Char} (h : Text.isCarrier c = true) : isLetterOrNumber c = false := by
  have hbase : Text.carrierBase = 0x10f800 := rfl
  have hcarrier : Text.carrierBase ≤ c.toNat := of_decide_eq_true h
  -- part by part: the joined table takes long to compute
  have hbounds : ∀ b ∈ letterNumber.bounds.toList, b ≤ Text.carrierBase := by
    simp only [letterNumber, Array.toList_append, List.forall_mem_append]
    refine ⟨⟨⟨⟨?_, ?_⟩, ?_⟩, ?_⟩, ?_⟩ <;> decide +kernel
  have hsize : letterNumber.bounds.size % 2 = 0 := by
    simp only [letterNumber, Array.size_append]
    decide +kernel
  have hall : ∀ b ∈ letterNumber.bounds, b ≤ c.toNat := fun b hb =>
    (hbounds b (Array.mem_toList_iff.2 hb)).trans hcarrier
  rw [isLetterOrNumber, if_neg (by omega)]
  exact contains_eq_false hall hsize

end Unicode

namespace Search

/-- A term is made of letters and digits, so it has no halves of characters. -/
theorem composed_of_mem_tokenize {text t : String} (h : t ∈ tokenize text) : Text.Composed t := by
  obtain ⟨w, hw, rfl⟩ := List.mem_map.1 (List.mem_filter.1 h).1
  refine Text.composed_of_no_carrier fun c hc => ?_
  rw [String.toList_ofList] at hc
  have hletter := Text.not_of_mem_splitList w hw c hc
  by_contra hcarrier
  rw [Unicode.isLetterOrNumber_of_isCarrier (Bool.of_not_eq_false hcarrier)] at hletter
  exact absurd hletter (by decide)

/-! ## Document frequencies -/

theorem nodup_keys_termFrequencies (terms : List String) : (termFrequencies terms).keys.Nodup :=
  Dict.nodup_keys_tally id terms

theorem mem_keys_termFrequencies {terms : List String} {t : String} :
    t ∈ (termFrequencies terms).keys ↔ t ∈ terms := by
  have hget : (termFrequencies terms).get? t = if t ∈ terms.map id then some ((terms.map id).count t) else none :=
    Dict.get?_tally id terms t
  rw [← Dict.contains_iff_mem_keys, Dict.contains_eq_isSome_get?, hget, List.map_id]
  split_ifs with h <;> simp [h]

theorem documentFrequencies_eq (l : List (Dict String ℕ)) :
    documentFrequencies l = (l.flatMap Dict.keys).foldl (fun d t => d.update (id t) 0 (· + 1)) .empty := by
  rw [documentFrequencies, List.foldl_flatMap]
  rfl

theorem nodup_keys_documentFrequencies (l : List (Dict String ℕ)) : (documentFrequencies l).keys.Nodup := by
  rw [documentFrequencies_eq]
  exact Dict.nodup_keys_tally id _

/-- A key is counted once in each dictionary that has it. -/
theorem count_flatMap_keys {l : List (Dict String ℕ)} (h : ∀ d ∈ l, d.keys.Nodup) (t : String) :
    (l.flatMap Dict.keys).count t = l.countP fun d => t ∈ d.keys := by
  induction l with
  | nil => rfl
  | cons d rest ih =>
      have hrest := ih fun d' hd' => h d' (List.mem_cons_of_mem _ hd')
      rw [List.flatMap_cons, List.count_append, hrest, List.countP_cons, Nat.add_comm,
        (h d (List.mem_cons_self ..)).count]
      by_cases ht : t ∈ d.keys <;> simp [ht]

/-- The frequency of a term is the number of the texts that have it. -/
theorem get?_documentFrequencies (terms : List (List String)) (t : String) :
    (documentFrequencies (terms.map termFrequencies)).get? t =
      if ∃ l ∈ terms, t ∈ l then some (terms.countP fun l => t ∈ l) else none := by
  have hcount : ((terms.map termFrequencies).flatMap Dict.keys).count t = terms.countP fun l => t ∈ l := by
    rw [count_flatMap_keys, List.countP_map]
    · exact List.countP_congr fun l _ => by simp [mem_keys_termFrequencies]
    · rintro d hd
      obtain ⟨l, -, rfl⟩ := List.mem_map.1 hd
      exact nodup_keys_termFrequencies l
  have hmem : t ∈ (terms.map termFrequencies).flatMap Dict.keys ↔ ∃ l ∈ terms, t ∈ l := by
    simp [mem_keys_termFrequencies]
  rw [documentFrequencies_eq, Dict.get?_tally, List.map_id, hcount]
  simp only [hmem]

/-- A term counts at least one text and at most all. -/
theorem bounds_of_get?_documentFrequencies {terms : List (List String)} {t : String} {n : ℕ}
    (h : (documentFrequencies (terms.map termFrequencies)).get? t = some n) :
    (∃ l ∈ terms, t ∈ l) ∧ 1 ≤ n ∧ n ≤ terms.length := by
  rw [get?_documentFrequencies] at h
  split_ifs at h with hmem
  obtain rfl := Option.some.inj h
  refine ⟨hmem, List.countP_pos_iff.2 ?_, List.countP_le_length⟩
  simpa using hmem

/-! ## Weights and averages -/

open Number

/-- The weight of a term is the logarithm of a quotient of positive numbers. -/
theorem isNormal_odds {total count : ℕ} (hpos : 1 ≤ count) (hle : count ≤ total) (htotal : total < 2 ^ 53) :
    IsNormal 57 (toFloat count + toFloat 0.5) ∧
      IsNormal 271 ((toFloat total - toFloat count + toFloat 0.5) / (toFloat count + toFloat 0.5)) := by
  have hothers := isNormal_sub_add_half hpos hle htotal
  have hown := (isNormal_natCast hpos ((hle.trans_lt htotal).trans (by decide))).add
    (isNormal_half.mono (by decide)) (by decide)
  exact ⟨hown, hothers.div (hown.mono (by decide)) (by decide)⟩

theorem isNumber_inverseFrequency [Logarithm Float] (hlog : ∀ x : Float, Positive x → IsNumber (Logarithm.log x))
    {total count : ℕ} (hpos : 1 ≤ count) (hle : count ≤ total) (htotal : total < 2 ^ 53) :
    IsNumber (Corpus.inverseFrequency total count) :=
  hlog _ (isNormal_odds hpos hle htotal).2.positive

/-- The average length is that of the lists of terms. -/
theorem averageLength_ofDocuments {α : Type} [Scoring α] [Logarithm α] (documents : List Document) :
    (Corpus.ofDocuments documents : Corpus α).averageLength =
      if documents.length = 0 then Scoring.ofNat 0
      else Scoring.ofNat (documents.map fun d => (tokenize d.text).length).sum / Scoring.ofNat documents.length := by
  simp only [Corpus.ofDocuments, ← List.sum_eq_foldl, List.map_map]
  rfl

theorem sum_lengths_lt {documents : List Document} (hlength : documents.length < 2 ^ 53)
    (hterms : ∀ d ∈ documents, (tokenize d.text).length < 2 ^ 53) :
    (documents.map fun d => (tokenize d.text).length).sum < 2 ^ 106 := by
  have hsum := List.sum_le_card_nsmul (documents.map fun d => (tokenize d.text).length) (2 ^ 53) fun n hn => by
    obtain ⟨d, hd, rfl⟩ := List.mem_map.1 hn
    exact (hterms d hd).le
  rw [List.length_map, nsmul_eq_mul, Nat.cast_id] at hsum
  calc (documents.map fun d => (tokenize d.text).length).sum ≤ documents.length * 2 ^ 53 := hsum
    _ < 2 ^ 53 * 2 ^ 53 := Nat.mul_lt_mul_of_pos_right hlength (by decide)
    _ = 2 ^ 106 := by rw [← Nat.pow_add]

section Documents

variable [Logarithm Float] {documents : List Document}

/-- A term of the records is a term of a document, and counts at least one document and at most all. -/
theorem mem_df_ofDocuments {e : String × ℕ} (h : e ∈ (Corpus.ofDocuments documents : Corpus Float).df.entries) :
    Text.Composed e.1 ∧ 1 ≤ e.2 ∧ e.2 ≤ documents.length := by
  obtain ⟨⟨terms, hterms, hmem⟩, hone, hle⟩ := bounds_of_get?_documentFrequencies
    ((Dict.mem_entries_iff (nodup_keys_documentFrequencies _) e.1 e.2).1 h)
  obtain ⟨d, -, rfl⟩ := List.mem_map.1 hterms
  exact ⟨composed_of_mem_tokenize hmem, hone, by rwa [List.length_map] at hle⟩

theorem mem_idf_ofDocuments {e : String × Float} (h : e ∈ (Corpus.ofDocuments documents : Corpus Float).idf.entries) :
    ∃ n, (e.1, n) ∈ (Corpus.ofDocuments documents : Corpus Float).df.entries ∧
      e.2 = Corpus.inverseFrequency documents.length n := by
  obtain ⟨f, hf, rfl⟩ := List.mem_map.1 h
  exact ⟨f.2, hf, rfl⟩

theorem nodup_df_ofDocuments : ((Corpus.ofDocuments documents : Corpus Float).df.entries.map (·.1)).Nodup :=
  nodup_keys_documentFrequencies _

theorem nodup_idf_ofDocuments : ((Corpus.ofDocuments documents : Corpus Float).idf.entries.map (·.1)).Nodup := by
  have h : ((Corpus.ofDocuments documents : Corpus Float).df.entries.map (·.1)).Nodup := nodup_df_ofDocuments
  simpa [Corpus.ofDocuments, Function.comp_def] using h

/-- The average length of documents that are counted exactly. -/
theorem exists_averageLength (hlength : documents.length < 2 ^ 53)
    (hterms : ∀ d ∈ documents, (tokenize d.text).length < 2 ^ 53) :
    ∃ r, ofFloat? (Corpus.ofDocuments documents : Corpus Float).averageLength = some r ∧
      toFloat r = (Corpus.ofDocuments documents : Corpus Float).averageLength ∧ 0 ≤ r := by
  rw [averageLength_ofDocuments]
  split_ifs with hempty
  · have hzero : (Scoring.ofNat 0 : Float).toModel.unpack = unpacked .positive (Binary.ofQuotient 0 1) :=
      unpack_toFloat_natCast 0 (by decide)
    exact ⟨0, by rw [ofFloat?_eq, hzero]; rfl, rfl, le_rfl⟩
  · exact exists_quotient (sum_lengths_lt hlength hterms) (Nat.pos_of_ne_zero hempty) (hlength.trans (by decide))

end Documents

end Search

end CodeAtlas
