import CodeAtlas.Proofs.Graph.Answers
import CodeAtlas.Proofs.Ranking
import CodeAtlas.Search.Retriever

set_option autoImplicit false

/-! # Searches that see entities only

Search by text sees the documents, search by structure and the listing of a kind see the entities of the graph. None
of them sees relationships or the order in which the entities came: over graphs of the same entities, with the same
lexical index, they give the same hits (`search_eq`, `searchByKind_eq`). Candidates of a kind are taken from the
tables of the index, which are filled in source order; a search by structure that names no kind goes through all
entities in the order of the graph, and its ranking forgets that order. -/

namespace CodeAtlas.Search.Retriever

open CodeAtlas.Graph GraphIndex

variable {g h : Graph}

/-- The queries of a graph and a lexical index. -/
abbrev onGraph (g : Graph) (text : Bm25 Float) (config : RetrievalConfig) : Retriever Float :=
  ⟨ofGraph g, text, config⟩

section

variable (hg : Valid g) (hh : Valid h) (hsame : ∀ e, e ∈ g.entities ↔ e ∈ h.entities)

include hg hh hsame

theorem entity?_ofGraph_eq : (ofGraph g).graph.entity? = (ofGraph h).graph.entity? := by
  rw [graph_ofGraph, graph_ofGraph]
  exact funext (entity?_eq_of_mem hg hh hsame)

theorem byKind_ofGraph_eq (kind : EntityKind) : (ofGraph g).byKind kind = (ofGraph h).byKind kind := by
  rw [ofGraph_eq_of_mem hg hh hsame]
  rfl

theorem entitiesOfKind_ofGraph_eq : (ofGraph g).entitiesOfKind = (ofGraph h).entitiesOfKind := by
  funext kind
  rw [entitiesOfKind, entitiesOfKind, byKind_ofGraph_eq hg hh hsame, entity?_ofGraph_eq hg hh hsame]

theorem hits_eq (text text' : Bm25 Float) (config : RetrievalConfig) (source : Source) (l : List (Scored Float)) :
    (onGraph g text config).hits source l = (onGraph h text' config).hits source l := by
  simp only [hits, entity?_ofGraph_eq hg hh hsame]

end

/-! ## Search by structure -/

/-- The scored ids of entities, those above zero. -/
def scoredBy (weight : Float) (score : Entity → Float) (l : List Entity) : List (Scored Float) :=
  l.filterMap fun e => if Scoring.less (Scoring.ofNat 0) (score e) then some ⟨e.id, score e * weight⟩ else none

theorem mem_scoredBy {weight : Float} {score : Entity → Float} {l : List Entity} {s : Scored Float}
    (hs : s ∈ scoredBy weight score l) :
    ∃ e ∈ l, Scoring.less (Scoring.ofNat 0) (score e) = true ∧ s = ⟨e.id, score e * weight⟩ := by
  obtain ⟨e, he, hscore⟩ := List.mem_filterMap.1 hs
  split at hscore
  · next hless => exact ⟨e, he, hless, (Option.some.inj hscore).symm⟩
  · exact absurd hscore (by simp)

/-- The ids of scored entities are ids of the entities, in their order. -/
theorem ids_scoredBy (weight : Float) (score : Entity → Float) (l : List Entity) :
    ((scoredBy weight score l).map Scored.id).Sublist (l.map Entity.id) := by
  induction l with
  | nil => exact .slnil
  | cons e rest ih =>
      rw [scoredBy, List.filterMap_cons]
      split
      · exact ih.cons _
      · next s hs =>
          split at hs
          · obtain rfl := Option.some.inj hs
            exact ih.cons_cons _
          · exact absurd hs (by simp)

/-- Scores above zero, halved, are numbers. -/
theorem isNaN_of_mem_scoredBy {score : Entity → Float} {l : List Entity} {s : Scored Float}
    (hs : s ∈ scoredBy (Scoring.ofRat 0.5) score l) : s.score.isNaN = false := by
  obtain ⟨e, -, hless, rfl⟩ := mem_scoredBy hs
  exact Number.isNaN_mul ((Number.less_iff _ _).1 hless).2.1 (by decide +kernel) (by decide +kernel)

/-- The ranking of the scored entities of a graph forgets their order. -/
theorem rank_scoredBy_eq (hg : Valid g) (hh : Valid h) (hsame : ∀ e, e ∈ g.entities ↔ e ∈ h.entities)
    (score : Entity → Float) : Scored.rank (scoredBy (Scoring.ofRat 0.5) score g.entities)
      = Scored.rank (scoredBy (Scoring.ofRat 0.5) score h.entities) := by
  refine Scored.rank_eq_of_perm (fun s hs => isNaN_of_mem_scoredBy hs) ?_
    ((entities_perm_of_mem hg hh hsame).filterMap _)
  exact hg.nodup_entities.sublist (ids_scoredBy _ _ _)

theorem structureSearch_eq (hg : Valid g) (hh : Valid h) (hsame : ∀ e, e ∈ g.entities ↔ e ∈ h.entities)
    (text text' : Bm25 Float) (config : RetrievalConfig) (query : String) (topK : Rat) :
    (onGraph g text config).structureSearch query topK = (onGraph h text' config).structureSearch query topK := by
  unfold structureSearch
  simp only [entitiesOfKind_ofGraph_eq hg hh hsame, graph_ofGraph]
  generalize distinct ((tokenize query).filterMap steeredKinds).flatten = kinds
  generalize ((tokenize query).filter fun t => (steeredKinds t).isNone) = terms
  split
  · rfl
  · by_cases hkinds : kinds = []
    · -- without a kind all entities are candidates
      simp only [hkinds, if_true]
      exact congrArg (upTo topK) (rank_scoredBy_eq hg hh hsame fun e => share terms (Unicode.lower e.name))
    · simp only [hkinds, if_false]

/-! ## Whole answers -/

/-- **Searches by text and by structure see the entities only.** -/
theorem search_eq (hg : Valid g) (hh : Valid h) (hsame : ∀ e, e ∈ g.entities ↔ e ∈ h.entities) (text : Bm25 Float)
    (config : RetrievalConfig) (query : String) {mode : Mode} (hmode : mode = .text ∨ mode = .structural)
    (topK : Option Rat) :
    (onGraph g text config).search query mode.name topK = (onGraph h text config).search query mode.name topK := by
  have hrank : ∀ k : Rat, (onGraph g text config).rank query mode k = (onGraph h text config).rank query mode k := by
    intro k
    unfold rank
    rcases hmode with rfl | rfl
    · rfl
    · simp only [structureSearch_eq hg hh hsame text text]
  unfold search
  have hname : Mode.ofName? mode.name = some mode := by
    rcases hmode with rfl | rfl <;> decide
  simp only [hname, hrank, hits_eq hg hh hsame text text]

/-- **The listing of a kind sees the entities only.** -/
theorem searchByKind_eq (hg : Valid g) (hh : Valid h) (hsame : ∀ e, e ∈ g.entities ↔ e ∈ h.entities)
    (text text' : Bm25 Float) (config : RetrievalConfig) (kind : String) (filter : Option String)
    (topK : Option Rat) :
    (onGraph g text config).searchByKind kind filter topK = (onGraph h text' config).searchByKind kind filter topK := by
  unfold searchByKind
  simp only [entitiesOfKind_ofGraph_eq hg hh hsame, byKind_ofGraph_eq hg hh hsame, hits_eq hg hh hsame text text']

end CodeAtlas.Search.Retriever
