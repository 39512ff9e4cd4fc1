import CodeAtlas.Proofs.Ranking
import CodeAtlas.Proofs.Search.Statistics

set_option autoImplicit false

/-! # Documents in another order

A corpus keeps its documents in the order they came in, and with them the counts and lengths of each. The statistics
that a score is made of are counts over all documents and an average, so every document has the same score in every
order of the list (`scores_perm`). Only the order of the scores is left, and the ranking forgets it: what is ranked are
scores above zero, so there is no NaN among them, whatever the options are (`search_eq_of_perm`). -/

namespace CodeAtlas.Search

open Scoring

variable {documents documents' : List Document}

/-! ## Statistics -/

section Statistics

variable {α : Type} [Scoring α] [Logarithm α]

theorem averageLength_eq_of_perm (h : documents.Perm documents') :
    (Corpus.ofDocuments documents : Corpus α).averageLength = (Corpus.ofDocuments documents').averageLength := by
  rw [averageLength_ofDocuments, averageLength_ofDocuments, h.length_eq, (h.map _).sum_eq]

theorem get?_df_eq_of_perm (h : documents.Perm documents') (t : String) :
    (Corpus.ofDocuments documents : Corpus α).df.get? t = (Corpus.ofDocuments documents' : Corpus α).df.get? t := by
  rw [(counted_ofDocuments documents).df, (counted_ofDocuments documents').df, h.countP_eq]
  simp only [h.mem_iff]

theorem get?_idf_eq_of_perm (h : documents.Perm documents') (t : String) :
    (Corpus.ofDocuments documents : Corpus α).idf.get? t = (Corpus.ofDocuments documents').idf.get? t := by
  rw [get?_idf_ofDocuments, get?_idf_ofDocuments, get?_df_eq_of_perm h, h.length_eq]

/-- Each document has the score that it has in another order of the list. -/
theorem scores_perm (h : documents.Perm documents') (o : Bm25Options) (terms : List String) :
    (Bm25.scores o (Corpus.ofDocuments documents : Corpus α) terms).Perm
      (Bm25.scores o (Corpus.ofDocuments documents') terms) := by
  have hscore (tf : Dict String ℕ) (length : ℕ) :
      Bm25.documentScore o (Corpus.ofDocuments documents : Corpus α) tf length terms =
        Bm25.documentScore o (Corpus.ofDocuments documents') tf length terms := by
    simp only [Bm25.documentScore, averageLength_eq_of_perm h, get?_idf_eq_of_perm h]
  rw [scores_ofDocuments, scores_ofDocuments]
  simp only [hscore]
  exact h.map _

theorem map_id_scores (o : Bm25Options) (documents : List Document) (terms : List String) :
    (Bm25.scores o (Corpus.ofDocuments documents : Corpus α) terms).map Scored.id = documents.map Document.id := by
  rw [scores_ofDocuments, List.map_map]
  rfl

end Statistics

/-! ## Results -/

/-- What is above zero is a number. -/
theorem isNaN_of_isPositive {x : Float} (h : IsPositive x) : x.isNaN = false :=
  ((Number.less_iff (ofNat 0) x).1 h).2.1

/-- **A search does not depend on the order of the documents.** For documents of distinct ids and whatever options,
    query and limit, the indexes of the documents in two orders find the same ids, with the same scores, in the same
    order. -/
theorem search_eq_of_perm [Logarithm Float] (hids : (documents.map Document.id).Nodup)
    (hperm : documents.Perm documents') (o : Bm25Options) (query : String) (topK : ℚ) :
    ∃ results : List (Scored Float), (Bm25.build o documents).search query topK = .ok results ∧
      (Bm25.build o documents').search query topK = .ok results := by
  have hscores := scores_perm (α := Float) hperm o (tokenize query)
  have hranks : Scored.rank ((Bm25.scores o (Corpus.ofDocuments documents : Corpus Float) (tokenize query)).filter
        fun s => less (ofNat 0) s.score) =
      Scored.rank ((Bm25.scores o (Corpus.ofDocuments documents' : Corpus Float) (tokenize query)).filter
        fun s => less (ofNat 0) s.score) := by
    refine Scored.rank_eq_of_perm (fun s hs => ?_) ?_ (hscores.filter _)
    · exact isNaN_of_isPositive (List.mem_filter.1 hs).2
    · have hnodup := hids
      rw [← map_id_scores (α := Float) o documents (tokenize query)] at hnodup
      exact hnodup.sublist (List.filter_sublist.map _)
  simp only [Bm25.search, Bm25.build, Bm25.requireCorpus, bind, Except.bind, hranks]
  split_ifs
  · exact ⟨[], rfl, rfl⟩
  · exact ⟨_, rfl, rfl⟩

/-- Documents that share a term, found alike from either end of the list. -/
theorem search_echoes_reverse : (echoes.map Document.id).Nodup ∧ echoes.Perm echoes.reverse ∧
    ∃ results : List (Scored Float), (Bm25.build ⟨1.2, 0.75⟩ echoes).search "Alpha beta" 10 = .ok results ∧
      (Bm25.build ⟨1.2, 0.75⟩ echoes.reverse).search "Alpha beta" 10 = .ok results := by
  have hids : (echoes.map Document.id).Nodup := by decide
  have hperm : echoes.Perm echoes.reverse := (List.reverse_perm echoes).symm
  exact ⟨hids, hperm, search_eq_of_perm hids hperm _ _ _⟩

end CodeAtlas.Search
