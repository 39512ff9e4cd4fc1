import CodeAtlas.Proofs.Graph.NameSearch
import CodeAtlas.Search.Retriever

set_option autoImplicit false

/-! # The fusion of two rankings

A hybrid search takes two rankings, one of the documents by their terms and one of the entities by their names, and
gives every id that comes up in at least one of them a single score: the weighted score of the ranking that has it, or
the sum of both and a bonus. Fusing goes through the two rankings one after the other and keeps a score for each id.
Since neither of them has an id twice, the second pass meets what the first one left and nothing of its own
(`Dict.get?_foldl_insert`), so that the fused scores are those of three rules, one for each way to be found
(`FusedFrom`, `mem_fuse_iff`).

What comes out is ranked again and cut off: `rank_hybrid_isFusion`. Scores are exact. -/

namespace CodeAtlas

open Scored

/-! ## The two rankings -/

namespace Search.Bm25

/-- The ids with a score are ids of documents, in their order. -/
theorem map_id_scores_sublist (o : Bm25Options) (c : Corpus ℚ) (terms : List String) :
    ((scores o c terms).map Scored.id).Sublist (c.documents.map Document.id) := by
  obtain ⟨rest, hrest⟩ : ∃ rest, rest = c.frequencies.zip c.lengths := ⟨_, rfl⟩
  have hids : (scores o c terms).map Scored.id = ((c.documents.zip rest).map Prod.fst).map Document.id := by
    rw [scores, hrest, List.map_map, List.map_map]
    rfl
  rw [hids, List.zip_eq_zip_take_min, List.map_fst_zip (by simp)]
  exact (List.take_sublist _ _).map _

/-- The documents that score above zero, ranked. -/
def ranked (o : Bm25Options) (c : Corpus ℚ) (terms : List String) : List (Scored ℚ) :=
  rank ((scores o c terms).filter fun s => 0 < s.score)

theorem mem_ranked_iff (o : Bm25Options) (c : Corpus ℚ) (terms : List String) (s : Scored ℚ) :
    s ∈ ranked o c terms ↔ s ∈ scores o c terms ∧ 0 < s.score := by
  rw [ranked, (rank_perm _).mem_iff, List.mem_filter, decide_eq_true_iff]

theorem isRanking_ranked (o : Bm25Options) {c : Corpus ℚ} (hids : (c.documents.map Document.id).Nodup)
    (terms : List String) : IsRanking (ranked o c terms) :=
  isRanking_rank (((hids.sublist (map_id_scores_sublist o c terms))).sublist (List.filter_sublist.map _))

/-- Without a term to look for, nothing scores above zero. -/
theorem ranked_nil (o : Bm25Options) (c : Corpus ℚ) : ranked o c [] = [] := by
  refine List.eq_nil_iff_forall_not_mem.2 fun s hs => ?_
  obtain ⟨hmem, hpos⟩ := (mem_ranked_iff o c [] s).1 hs
  obtain ⟨_, -, rfl⟩ := List.mem_map.1 hmem
  exact absurd hpos (by simp [documentScore])

/-- A search gives as much of the ranking as the limit allows. -/
theorem search_eq_take {ix : Bm25 ℚ} {c : Corpus ℚ} (hcorpus : ix.corpus = some c) (query : String) {limit : ℚ}
    (hlimit : 0 < limit) :
    ix.search query limit = .ok ((ranked ix.options c (tokenize query)).take limit.floor.toNat) := by
  have hrequire : ix.requireCorpus = .ok c := by rw [requireCorpus, hcorpus]
  simp only [search, hrequire, bind, Except.bind, not_le.2 hlimit, or_false]
  split_ifs with hterms
  · rw [hterms, ranked_nil, List.take_nil]
    rfl
  · simp only [Scoring.ofNat_exact, Nat.cast_zero, Scoring.less_exact]
    rfl

/-- A limit that is no smaller than the corpus leaves nothing out. -/
theorem mem_take_ranked_iff (o : Bm25Options) {c : Corpus ℚ} (terms : List String) {limit : ℕ}
    (hlimit : c.documents.length ≤ limit) (s : Scored ℚ) :
    s ∈ (ranked o c terms).take limit ↔ s ∈ scores o c terms ∧ 0 < s.score := by
  have hlength : (ranked o c terms).length ≤ c.documents.length :=
    calc (ranked o c terms).length ≤ (scores o c terms).length :=
          (rank_perm _).length_eq.trans_le (List.length_filter_le _ _)
      _ ≤ c.documents.length := by simpa using (map_id_scores_sublist o c terms).length_le
  rw [List.take_of_length_le (hlength.trans hlimit), mem_ranked_iff]

end Search.Bm25

namespace GraphIndex

variable {g : Graph}

/-- A search for related entities gives a ranking of scores above zero that is as short as the limit asks. -/
theorem searchRelated_spec (hg : Graph.Valid g) (query : String) (limit threshold : ℚ) :
    IsRanking ((ofGraph g).searchRelated query limit threshold) ∧
    (∀ s ∈ (ofGraph g).searchRelated query limit threshold, 0 < s.score) ∧
    ((ofGraph g).searchRelated query limit threshold).length ≤ limit.floor.toNat := by
  by_cases hblank : Unicode.lower (Text.trim query) = ""
  · have hnone : (ofGraph g).searchRelated query limit threshold = [] := by simp [searchRelated, hblank]
    rw [hnone]
    exact ⟨⟨List.nodup_nil, List.Pairwise.nil⟩, by simp, Nat.zero_le _⟩
  · rw [searchRelated_eq_take hg rfl hblank]
    refine ⟨(rankIds_spec hg _).1.take _, fun s hs => ?_, List.length_take_le _ _⟩
    obtain ⟨e, -, -, rfl⟩ := (mem_rankIds_relatedScore_iff hg _ _ s).1 (List.mem_of_mem_take hs)
    exact (relatedness_bounds _ _ e).1

/-- A limit that is no smaller than the graph leaves nothing out. -/
theorem mem_searchRelated_iff (hg : Graph.Valid g) {query needle : String}
    (hneedle : Unicode.lower (Text.trim query) = needle) (hsome : needle ≠ "") {limit : ℚ}
    (hlimit : g.entities.length ≤ limit.floor.toNat) (threshold : ℚ) (s : Scored ℚ) :
    s ∈ (ofGraph g).searchRelated query limit threshold ↔
      ∃ e ∈ g.entities, NameMatches needle threshold (Unicode.lower e.name) ∧
        s = ⟨e.id, (ofGraph g).relatedness needle e⟩ := by
  rw [searchRelated_eq_take hg hneedle hsome, List.take_of_length_le ((length_rankIds_le hg _).trans hlimit),
    mem_rankIds_relatedScore_iff hg]

end GraphIndex

namespace Search.Retriever

/-! ## Fusing -/

/-- The three rules of fusion: an id has its weighted score if one ranking has it, and the sum of both and a bonus if
    both do. -/
inductive FusedFrom (w : Weights) (text graph : List (Scored ℚ)) : Scored ℚ → Prop
  | text {id : String} {t : ℚ} (htext : ⟨id, t⟩ ∈ text) (hgraph : id ∉ graph.map Scored.id) :
      FusedFrom w text graph ⟨id, t * w.text⟩
  | graph {id : String} {s : ℚ} (htext : id ∉ text.map Scored.id) (hgraph : ⟨id, s⟩ ∈ graph) :
      FusedFrom w text graph ⟨id, s * w.graph⟩
  | both {id : String} {t s : ℚ} (htext : ⟨id, t⟩ ∈ text) (hgraph : ⟨id, s⟩ ∈ graph) :
      FusedFrom w text graph ⟨id, t * w.text + s * w.graph + w.agreementBonus⟩

/-- What the first pass leaves: the weighted scores of the one ranking. -/
def weighted (w : Weights) (text : List (Scored ℚ)) : Dict String ℚ :=
  text.foldl (fun d s => d.insert s.id (s.score * w.text)) .empty

/-- The score an id gets in the second pass, from what it had before it. -/
def joined (w : Weights) (before : Option ℚ) (s : Scored ℚ) : ℚ :=
  match before with
  | none => s.score * w.graph
  | some t => t + s.score * w.graph + w.agreementBonus

/-- What both passes leave. -/
def fusedScores (w : Weights) (text graph : List (Scored ℚ)) : Dict String ℚ :=
  graph.foldl (fun d s => d.insert s.id (joined w (d.get? s.id) s)) (weighted w text)

variable {w : Weights} {text graph : List (Scored ℚ)}

theorem fuse_eq : fuse w text graph = (fusedScores w text graph).entries.map fun e => ⟨e.1, e.2⟩ := by
  have hfirst : Dict.ofList (text.map fun s => (s.id, s.score * Scoring.ofRat w.text)) = weighted w text := by
    rw [Dict.ofList, List.foldl_map]
    rfl
  rw [fuse, hfirst]
  refine congrArg (fun d : Dict String ℚ => d.entries.map _) (List.foldl_ext _ _ _ fun d s _ => ?_)
  refine congrArg (d.insert s.id) ?_
  cases d.get? s.id <;> rfl

theorem nodup_keys_fusedScores : (fusedScores w text graph).keys.Nodup :=
  Dict.nodup_keys_foldl_insert Scored.id (joined w) graph
    (Dict.nodup_keys_foldl_insert Scored.id (fun _ s => s.score * w.text) text List.nodup_nil)

theorem get?_weighted (htext : (text.map Scored.id).Nodup) (id : String) :
    (weighted w text).get? id = (text.find? (·.id = id)).map (·.score * w.text) := by
  rw [weighted, Dict.get?_foldl_insert (fun _ s => s.score * w.text) htext]
  cases text.find? (·.id = id) <;> rfl

theorem get?_fusedScores (htext : (text.map Scored.id).Nodup) (hgraph : (graph.map Scored.id).Nodup) (id : String) :
    (fusedScores w text graph).get? id =
      match graph.find? (·.id = id) with
      | none => (text.find? (·.id = id)).map (·.score * w.text)
      | some s => some (joined w ((text.find? (·.id = id)).map (·.score * w.text)) s) := by
  rw [fusedScores, Dict.get?_foldl_insert (joined w) hgraph, get?_weighted htext]
  cases graph.find? (·.id = id) <;> rfl

theorem find?_id_eq_none_iff (l : List (Scored ℚ)) (id : String) :
    l.find? (·.id = id) = none ↔ id ∉ l.map Scored.id := by
  simp [List.find?_eq_none]

/-- A rule holds of an id and a score where the passes leave that score. -/
theorem get?_fusedScores_eq_some_iff (htext : (text.map Scored.id).Nodup) (hgraph : (graph.map Scored.id).Nodup)
    (s : Scored ℚ) : (fusedScores w text graph).get? s.id = some s.score ↔ FusedFrom w text graph s := by
  obtain ⟨id, score⟩ := s
  have hfound {l : List (Scored ℚ)} (hl : (l.map Scored.id).Nodup) {x : ℚ} (hx : ⟨id, x⟩ ∈ l) :
      l.find? (·.id = id) = some ⟨id, x⟩ := (Dict.find?_eq_some_iff_of_nodup hl id _).2 ⟨hx, rfl⟩
  rw [get?_fusedScores htext hgraph]
  constructor
  · intro hscore
    cases ht : text.find? (·.id = id) with
    | none =>
        have htext' := (find?_id_eq_none_iff text id).1 ht
        cases hs : graph.find? (·.id = id) with
        | none => simp [ht, hs] at hscore
        | some s =>
            obtain ⟨hmem, rfl⟩ := (Dict.find?_eq_some_iff_of_nodup hgraph id s).1 hs
            simp only [ht, hs, joined, Option.map_none, Option.some_inj] at hscore
            exact hscore ▸ .graph htext' hmem
    | some t =>
        obtain ⟨hmem, rfl⟩ := (Dict.find?_eq_some_iff_of_nodup htext id t).1 ht
        cases hs : graph.find? (·.id = t.id) with
        | none =>
            simp only [ht, hs, Option.map_some, Option.some_inj] at hscore
            exact hscore ▸ .text hmem ((find?_id_eq_none_iff graph t.id).1 hs)
        | some s =>
            obtain ⟨hmem', hid⟩ := (Dict.find?_eq_some_iff_of_nodup hgraph t.id s).1 hs
            simp only [ht, hs, joined, Option.map_some, Option.some_inj] at hscore
            exact hscore ▸ .both hmem (hid ▸ hmem')
  · rintro (⟨ht, hs⟩ | ⟨ht, hs⟩ | ⟨ht, hs⟩)
    · rw [hfound htext ht, (find?_id_eq_none_iff graph id).2 hs]
      rfl
    · rw [hfound hgraph hs, (find?_id_eq_none_iff text id).2 ht]
      rfl
    · rw [hfound htext ht, hfound hgraph hs]
      rfl

theorem mem_fuse_iff (htext : (text.map Scored.id).Nodup) (hgraph : (graph.map Scored.id).Nodup) (s : Scored ℚ) :
    s ∈ fuse w text graph ↔ FusedFrom w text graph s := by
  rw [← get?_fusedScores_eq_some_iff htext hgraph, ← Dict.mem_entries_iff nodup_keys_fusedScores, fuse_eq]
  simp only [List.mem_map]
  constructor
  · rintro ⟨e, he, rfl⟩
    exact he
  · exact fun h => ⟨_, h, rfl⟩

/-- The rules give a score to the ids of both rankings. -/
theorem exists_fusedFrom_iff (id : String) : (∃ x, FusedFrom w text graph ⟨id, x⟩) ↔
    id ∈ text.map Scored.id ∨ id ∈ graph.map Scored.id := by
  constructor
  · rintro ⟨x, ⟨ht, -⟩ | ⟨-, hs⟩ | ⟨ht, -⟩⟩
    · exact .inl (List.mem_map_of_mem ht)
    · exact .inr (List.mem_map_of_mem hs)
    · exact .inl (List.mem_map_of_mem ht)
  · intro h
    by_cases ht : id ∈ text.map Scored.id <;> by_cases hs : id ∈ graph.map Scored.id
    · obtain ⟨⟨_, t⟩, ht', rfl⟩ := List.mem_map.1 ht
      obtain ⟨⟨_, s⟩, hs', rfl⟩ := List.mem_map.1 hs
      exact ⟨_, .both ht' hs'⟩
    · obtain ⟨⟨_, t⟩, ht', rfl⟩ := List.mem_map.1 ht
      exact ⟨_, .text ht' hs⟩
    · obtain ⟨⟨_, s⟩, hs', rfl⟩ := List.mem_map.1 hs
      exact ⟨_, .graph ht hs'⟩
    · exact absurd h (by simp only [ht, hs, or_self, not_false_iff])

theorem nodup_ids_fuse : ((fuse w text graph).map Scored.id).Nodup := by
  rw [fuse_eq, List.map_map]
  exact nodup_keys_fusedScores

/-- Where no weight and no score is negative, no id is fused to less than a ranking gives it. -/
theorem FusedFrom.weighted_le {s : Scored ℚ} (h : FusedFrom w text graph s)
    (hw : 0 ≤ w.text ∧ 0 ≤ w.graph ∧ 0 ≤ w.agreementBonus) (htext : IsRanking text) (hgraph : IsRanking graph)
    (htpos : ∀ t ∈ text, 0 < t.score) (hgpos : ∀ t ∈ graph, 0 < t.score) :
    (∀ t ∈ text, t.id = s.id → t.score * w.text ≤ s.score) ∧
    ∀ t ∈ graph, t.id = s.id → t.score * w.graph ≤ s.score := by
  obtain ⟨hwt, hwg, hbonus⟩ := hw
  have hsame {l : List (Scored ℚ)} (hl : IsRanking l) {id : String} {x : ℚ} (hx : ⟨id, x⟩ ∈ l) {t : Scored ℚ}
      (ht : t ∈ l) (hid : t.id = id) : t.score = x :=
    congrArg Scored.score (List.inj_on_of_nodup_map hl.nodup ht hx hid)
  cases h with
  | text ht hs =>
      refine ⟨fun t htmem hid => (hsame htext ht htmem hid ▸ le_rfl), fun t htmem hid => absurd ?_ hs⟩
      exact List.mem_map.2 ⟨t, htmem, hid⟩
  | graph ht hs =>
      refine ⟨fun t htmem hid => absurd ?_ ht, fun t htmem hid => (hsame hgraph hs htmem hid ▸ le_rfl)⟩
      exact List.mem_map.2 ⟨t, htmem, hid⟩
  | both ht hs =>
      have htw := mul_nonneg (htpos _ ht).le hwt
      have hgw := mul_nonneg (hgpos _ hs).le hwg
      refine ⟨fun t htmem hid => ?_, fun t htmem hid => ?_⟩
      · rw [hsame htext ht htmem hid]
        linarith
      · rw [hsame hgraph hs htmem hid]
        linarith

/-! ## The search -/

theorem length_le_of_floor {α : Type} {l : List α} {limit : ℚ} (hlimit : 0 ≤ limit)
    (h : l.length ≤ limit.floor.toNat) : (l.length : ℚ) ≤ limit := by
  have hfloor : 0 ≤ limit.floor := Rat.le_floor_iff.2 hlimit
  have hlength : (l.length : ℤ) ≤ limit.floor := by omega
  exact_mod_cast Rat.le_floor_iff.1 hlength

/-- **A hybrid search is the fusion of the text and the graph ranking.** For the index of the graph of any changes,
    frozen or not, documents whose ids differ and weights that are not negative, and for a limit of at least 1: the two
    rankings under twice the limit exist and are as short as that. There is one ranking of exactly the ids that come up
    in either, each with the score that the rules of fusion give it, none below a weighted score; and the hybrid search
    gives as much of it as the limit allows, so that what it keeps stands before all that it leaves out. -/
theorem rank_hybrid_isFusion {changes : List Graph.Change} {reached g : Graph} (hrun : Graph.run changes = .ok reached)
    (hg : g = reached ∨ g = reached.freeze) {r : Retriever ℚ} (hindex : r.index = .ofGraph g) {c : Corpus ℚ}
    (hcorpus : r.text.corpus = some c) (hids : (c.documents.map Document.id).Nodup)
    (hw : 0 ≤ r.config.weights.text ∧ 0 ≤ r.config.weights.graph ∧ 0 ≤ r.config.weights.agreementBonus)
    (query : String) {topK : ℚ} (htopK : 1 ≤ topK) :
    ∃ text graph fused : List (Scored ℚ),
      r.rank query .text (topK * 2) = .ok text ∧ IsRanking text ∧ text.length ≤ topK * 2 ∧
      r.rank query .graph (topK * 2) = .ok graph ∧ IsRanking graph ∧ graph.length ≤ topK * 2 ∧
      r.rank query .hybrid topK = .ok (fused.take topK.floor.toNat) ∧ IsRanking fused ∧
      (∀ id, id ∈ fused.map Scored.id ↔ id ∈ text.map Scored.id ∨ id ∈ graph.map Scored.id) ∧
      (∀ s, s ∈ fused ↔ FusedFrom r.config.weights text graph s) ∧
      (∀ s ∈ fused, (∀ t ∈ text, t.id = s.id → t.score * r.config.weights.text ≤ s.score) ∧
        ∀ t ∈ graph, t.id = s.id → t.score * r.config.weights.graph ≤ s.score) ∧
      ∀ kept ∈ fused.take topK.floor.toNat, ∀ out ∈ fused.drop topK.floor.toNat,
        out.score < kept.score ∨ kept.score = out.score ∧ Text.before kept.id out.id = true := by
  obtain ⟨hvalid, -⟩ := GraphIndex.valid_of_run_freeze hrun hg
  have hdouble : 0 < topK * 2 := by linarith
  obtain ⟨text, htext⟩ : ∃ text, text =
    (Bm25.ranked r.text.options c (tokenize query)).take (topK * 2).floor.toNat := ⟨_, rfl⟩
  obtain ⟨graph, hgraph⟩ : ∃ graph, graph =
    (GraphIndex.ofGraph g).searchRelated query (topK * 2) r.config.fuzzyThreshold := ⟨_, rfl⟩
  have htextRank : r.rank query .text (topK * 2) = .ok text := by
    rw [Retriever.rank.eq_def, if_neg (not_le.2 hdouble), htext]
    exact Bm25.search_eq_take hcorpus query hdouble
  have hgraphRank : r.rank query .graph (topK * 2) = .ok graph := by
    rw [Retriever.rank.eq_def, if_neg (not_le.2 hdouble), hgraph, ← hindex]
    rfl
  have hhybridRank : r.rank query .hybrid topK =
      .ok ((Scored.rank (fuse r.config.weights text graph)).take topK.floor.toNat) := by
    rw [Retriever.rank.eq_def, if_neg (not_le.2 (zero_lt_one.trans_le htopK)), htext, hgraph, ← hindex]
    simp only [hybridSearch, Bm25.search_eq_take hcorpus query hdouble]
    rfl
  have htextRanking : IsRanking text := htext ▸ (Bm25.isRanking_ranked _ hids _).take _
  have htpos : ∀ t ∈ text, 0 < t.score := fun t ht =>
    ((Bm25.mem_ranked_iff ..).1 (List.mem_of_mem_take (htext ▸ ht))).2
  obtain ⟨hgraphRanking, hgpos, hglength⟩ :=
    GraphIndex.searchRelated_spec hvalid query (topK * 2) r.config.fuzzyThreshold
  rw [← hgraph] at hgraphRanking hgpos hglength
  have hfused (s : Scored ℚ) : s ∈ Scored.rank (fuse r.config.weights text graph) ↔
      FusedFrom r.config.weights text graph s := by
    rw [(rank_perm _).mem_iff, mem_fuse_iff htextRanking.nodup hgraphRanking.nodup]
  have hranking : IsRanking (Scored.rank (fuse r.config.weights text graph)) := isRanking_rank nodup_ids_fuse
  refine ⟨text, graph, Scored.rank (fuse r.config.weights text graph), htextRank, htextRanking, ?_, hgraphRank,
    hgraphRanking, length_le_of_floor hdouble.le hglength, hhybridRank, hranking, fun id => ?_, hfused, fun s hs => ?_,
    fun kept hkept out hout => hranking.sorted.rel_of_mem_take_of_mem_drop hkept hout⟩
  · exact length_le_of_floor hdouble.le (htext ▸ List.length_take_le _ _)
  · rw [← exists_fusedFrom_iff (w := r.config.weights), List.mem_map]
    constructor
    · rintro ⟨s, hs, rfl⟩
      exact ⟨s.score, (hfused s).1 hs⟩
    · rintro ⟨x, hx⟩
      exact ⟨⟨id, x⟩, (hfused _).2 hx, rfl⟩
  · exact ((hfused s).1 hs).weighted_le hw htextRanking hgraphRanking htpos hgpos

/-- Two documents about loading, two about something else and an empty one: every term is in two of five. -/
def loadDocuments : List Document :=
  [⟨"load", "load"⟩, ⟨"parse", "load the text"⟩, ⟨"Load", "the text"⟩, ⟨"notes", "other"⟩, ⟨"other", "other"⟩]

/-- Their statistics, with a weight of every term that is close to the logarithm of 7/5. -/
def loadCorpus : Corpus ℚ := @Corpus.ofDocuments ℚ _ ⟨fun _ => 0.3364722366212129⟩ loadDocuments

/-- Queries over them and the graph of `GraphIndex.cased`, with no weight on the text ranking. -/
def weightless : Retriever ℚ where
  index := .ofGraph GraphIndex.casedGraph.freeze
  text := ⟨⟨1.2, 0.75⟩, some loadCorpus⟩
  config := { Config.defaultRetrieval with weights := ⟨0, 0.5, 0.1⟩ }

theorem rank_hybrid_weightless : ∃ fused : List (Scored ℚ),
    weightless.rank "load" .hybrid 4 = .ok (fused.take 4) ∧ IsRanking fused ∧
    (∀ id, id ∈ fused.map Scored.id ↔ id ∈ ["load", "parse", "Load", "unload"]) ∧ ⟨"parse", 0⟩ ∈ fused := by
  obtain ⟨text, graph, fused, htext, -, -, hgraph, -, -, hhybrid, hranking, hids, hfused, -⟩ :=
    rank_hybrid_isFusion GraphIndex.run_cased (.inr rfl) (r := weightless) rfl rfl (by decide +kernel)
      (by decide +kernel) "load" (show (1 : ℚ) ≤ 4 by norm_num)
  rw [Retriever.rank.eq_def, if_neg (by norm_num)] at htext hgraph
  have htextIds (id : String) : id ∈ text.map Scored.id ↔ id ∈ ["load", "parse"] := by
    have htake := (@Bm25.search_eq_take weightless.text loadCorpus rfl "load" (4 * 2) (by norm_num)).symm.trans htext
    have hpositive : ((Bm25.scores ⟨1.2, 0.75⟩ loadCorpus (tokenize "load")).filter fun s =>
        0 < s.score).map Scored.id = ["load", "parse"] := by decide +kernel
    have hlimit : loadCorpus.documents.length ≤ (4 * 2 : ℚ).floor.toNat := by decide +kernel
    have hfound := Bm25.mem_take_ranked_iff ⟨1.2, 0.75⟩ (tokenize "load") hlimit
    rw [← hpositive, ← Except.ok.inj htake]
    simp only [List.mem_map, List.mem_filter, decide_eq_true_eq]
    exact exists_congr fun s => and_congr_left fun _ => hfound s
  have hgraphIds (id : String) : id ∈ graph.map Scored.id ↔ id ∈ ["load", "Load", "unload"] := by
    have hneedle : Unicode.lower (Text.trim "load") = "load" := by decide +kernel
    have hvalid := (Graph.valid_of_run GraphIndex.run_cased).1.freeze
    have hnamed : (GraphIndex.casedGraph.freeze.entities.filter fun e =>
        GraphIndex.NameMatches "load" 0.6 (Unicode.lower e.name)).map Entity.id = ["load", "Load", "unload"] := by
      decide +kernel
    have hlimit : GraphIndex.casedGraph.freeze.entities.length ≤ (4 * 2 : ℚ).floor.toNat := by decide +kernel
    have hfound := GraphIndex.mem_searchRelated_iff hvalid hneedle (by decide) hlimit 0.6
    rw [← hnamed, ← Except.ok.inj hgraph]
    simp only [List.mem_map, List.mem_filter, decide_eq_true_eq]
    constructor
    · rintro ⟨s, hs, rfl⟩
      obtain ⟨e, he, hmatch, rfl⟩ := (hfound s).1 hs
      exact ⟨e, ⟨he, hmatch⟩, rfl⟩
    · rintro ⟨e, ⟨he, hmatch⟩, rfl⟩
      exact ⟨_, (hfound _).2 ⟨e, he, hmatch, rfl⟩, rfl⟩
  refine ⟨fused, hhybrid, hranking, fun id => ?_, ?_⟩
  · rw [hids, htextIds, hgraphIds]
    simp only [List.mem_cons, List.not_mem_nil, or_false]
    tauto
  · obtain ⟨t, ht, hid⟩ := List.mem_map.1 ((htextIds "parse").2 (by decide))
    have hzero := (hfused ⟨t.id, t.score * 0⟩).2 (.text ht (hid ▸ fun h => absurd ((hgraphIds _).1 h) (by decide)))
    rwa [mul_zero, hid] at hzero

end Search.Retriever

end CodeAtlas
