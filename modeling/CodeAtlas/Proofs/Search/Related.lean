import CodeAtlas.Proofs.Graph.Neighbourhood
import CodeAtlas.Search.Retriever

set_option autoImplicit false

/-! # The neighbourhood of an entity, part by part

The neighbours of an entity are collected from its two lists at once. Its dependencies, its dependents, what it contains
and what contains it are four views, each of one list and of some kinds only. A relationship of an entity is a
containment or none, and it leaves the entity or enters it, so the four views have the neighbours among them and nothing
else (`mem_neighbors_iff_mem_views`), also where one entity is linked to another one in several ways or to itself.

The listing of related entities goes through the views and gives each id once: `relatedEntities_lists_view`. -/

namespace CodeAtlas

namespace GraphIndex

open CodeAtlas.Graph

variable {ix : GraphIndex} {id other : String}

/-- What a relation stands for: all neighbours of an entity, or one of the four views. -/
def view (ix : GraphIndex) (id : String) : Search.Relation → List String
  | .all => ix.neighbors id none .both
  | .dependencies => (ix.dependencies id).flatMap (·.2)
  | .dependents => (ix.dependents id).flatMap (·.2)
  | .contained => ix.contained id
  | .container => ix.containers id

/-- The neighbours are what the four views have between them. -/
theorem mem_neighbors_iff_mem_views (hg : Valid ix.graph) : other ∈ ix.view id .all ↔
    other ∈ ix.view id .dependencies ∨ other ∈ ix.view id .dependents ∨ other ∈ ix.view id .contained ∨
      other ∈ ix.view id .container := by
  simp only [view, contained, containers, mem_neighbors_iff hg, mem_dependencies_iff hg, mem_dependents_iff hg]
  constructor
  · rintro ⟨r, hr, -, ⟨-, hsource, htarget⟩ | ⟨-, htarget, hsource⟩⟩ <;> by_cases hkind : r.kind = .contains
    · exact .inr (.inr (.inl ⟨r, hr, by simp [hkind], .inl ⟨by decide, hsource, htarget⟩⟩))
    · exact .inl ⟨r, hr, hkind, hsource, htarget⟩
    · exact .inr (.inr (.inr ⟨r, hr, by simp [hkind], .inr ⟨by decide, htarget, hsource⟩⟩))
    · exact .inr (.inl ⟨r, hr, hkind, htarget, hsource⟩)
  · rintro (⟨r, hr, -, hends⟩ | ⟨r, hr, -, hends⟩ | ⟨r, hr, -, hends⟩ | ⟨r, hr, -, hends⟩)
    · exact ⟨r, hr, by simp, .inl ⟨by decide, hends⟩⟩
    · exact ⟨r, hr, by simp, .inr ⟨by decide, hends⟩⟩
    · exact ⟨r, hr, by simp, hends.imp (.imp_left fun _ => by decide) (.imp_left fun _ => by decide)⟩
    · exact ⟨r, hr, by simp, hends.imp (.imp_left fun _ => by decide) (.imp_left fun _ => by decide)⟩

theorem hasEntity_of_mem_view (hg : Valid ix.graph) {relation : Search.Relation} (h : other ∈ ix.view id relation) :
    ix.graph.hasEntity other = true := by
  have hall : other ∈ ix.view id .all := by
    cases relation with
    | all => exact h
    | dependencies => exact (mem_neighbors_iff_mem_views hg).2 (.inl h)
    | dependents => exact (mem_neighbors_iff_mem_views hg).2 (.inr (.inl h))
    | contained => exact (mem_neighbors_iff_mem_views hg).2 (.inr (.inr (.inl h)))
    | container => exact (mem_neighbors_iff_mem_views hg).2 (.inr (.inr (.inr h)))
  exact ((mem_inSourceOrder_iff hg _).1 hall).2

end GraphIndex

namespace Search.Retriever

open CodeAtlas.Graph

variable {α : Type} {r : Retriever α} {id other : String}

/-- Known ids are all hits. -/
theorem map_entityId_hits {source : Source} {l : List (Scored α)}
    (hknown : ∀ s ∈ l, r.index.graph.hasEntity s.id = true) : (r.hits source l).map Hit.entityId = l.map Scored.id := by
  induction l with
  | nil => rfl
  | cons s rest ih =>
      have hs := hknown s (List.mem_cons_self ..)
      rw [hasEntity_eq_isSome_entity?] at hs
      obtain ⟨e, he⟩ := Option.isSome_iff_exists.1 hs
      have hrest := ih fun s' hs' => hknown s' (List.mem_cons_of_mem _ hs')
      rw [hits] at hrest ⊢
      simp [he, hrest]

theorem mem_relatedIds_iff (hg : Valid r.index.graph) (relation : Relation) :
    other ∈ r.relatedIds id relation ↔ other ∈ r.index.view id relation := by
  rw [relatedIds, Dict.mem_distinct]
  cases relation with
  | all =>
      rw [GraphIndex.mem_neighbors_iff_mem_views hg]
      simp [Relation.wants, GraphIndex.view]
  | dependencies => simp [Relation.wants, GraphIndex.view]
  | dependents => simp [Relation.wants, GraphIndex.view]
  | contained => simp [Relation.wants, GraphIndex.view]
  | container => simp [Relation.wants, GraphIndex.view]

variable [Scoring α]

theorem relatedEntities_name (hknown : r.index.graph.hasEntity id = true) (relation : Relation)
    (maxResults : Option ℚ) : r.relatedEntities id relation.name maxResults =
      ⟨r.hits .related ((upTo (maxResults.getD r.config.topK) (r.relatedIds id relation)).map fun id =>
        ⟨id, Scoring.ofNat 1⟩), none⟩ := by
  have hname : Relation.ofName? relation.name = some relation := by cases relation <;> rfl
  rw [relatedEntities, hname]
  exact if_pos hknown

/-- **The listing of related entities and the views of the neighbourhood agree.** On the graph of any changes, frozen or
    not, and for a known entity: for every relation there is one list that has no id twice and has exactly the ids of
    the relation's view, and the listing gives as many of its first ids as the limit allows, without a diagnostic, so
    all of them for a limit that is large enough. The view of all relations at once is the neighbours of the entity in
    both directions, and they are what the four single views have between them. -/
theorem relatedEntities_lists_view {changes : List Change} {reached : Graph} (hrun : run changes = .ok reached)
    {r : Retriever α} (hr : r.index.graph = reached ∨ r.index.graph = reached.freeze) {id : String}
    (hid : ∃ e ∈ reached.entities, e.id = id) :
    (∀ relation : Relation, ∃ listed : List String, listed.Nodup ∧
      (∀ other, other ∈ listed ↔ other ∈ r.index.view id relation) ∧
      ∀ maxResults : Option ℚ, (r.relatedEntities id relation.name maxResults).diagnostic = none ∧
        (r.relatedEntities id relation.name maxResults).results.map Hit.entityId =
          listed.take (maxResults.getD r.config.topK).floor.toNat) ∧
    ∀ other, other ∈ r.index.neighbors id none .both ↔
      other ∈ (r.index.dependencies id).flatMap (·.2) ∨ other ∈ (r.index.dependents id).flatMap (·.2) ∨
        other ∈ r.index.contained id ∨ other ∈ r.index.containers id := by
  obtain ⟨hg, hents, -⟩ := GraphIndex.valid_of_run_freeze hrun hr
  have hknown : r.index.graph.hasEntity id = true := (hg.hasEntity_iff id).2 (hents ▸ hid)
  refine ⟨fun relation => ⟨r.relatedIds id relation, Dict.nodup_distinct _, fun other => mem_relatedIds_iff hg relation,
    fun maxResults => ?_⟩, fun other => GraphIndex.mem_neighbors_iff_mem_views hg⟩
  rw [relatedEntities_name hknown]
  refine ⟨rfl, ?_⟩
  rw [map_entityId_hits, List.map_map]
  · exact List.map_id _
  · intro s hs
    obtain ⟨other, hother, rfl⟩ := List.mem_map.1 hs
    exact GraphIndex.hasEntity_of_mem_view hg ((mem_relatedIds_iff hg relation).1 (List.mem_of_mem_take hother))

/-! ## A function linked in many ways -/

/-- `node` is called and contained by `file`, calls and extends `base`, calls and contains `walk`, and contains itself;
    `walk` calls `far`. -/
def knot : List Change :=
  [corner "file", corner "node", corner "base", corner "walk", corner "far", side "file" "node", side "node" "base",
    side "node" "walk", side "walk" "far", .addRelationship (Relationship.create "node" .inherits "base"),
    .addRelationship (Relationship.create "file" .contains "node"),
    .addRelationship (Relationship.create "node" .contains "node"),
    .addRelationship (Relationship.create "node" .contains "walk")]

/-- What the changes lead to. -/
def knotGraph : Graph := (run knot).toOption.getD .empty

theorem run_knot : run knot = .ok knotGraph := rfl

/-- Queries over the frozen graph, without documents. -/
def knotRetriever : Retriever Float := ⟨.ofGraph knotGraph.freeze, .unbuilt ⟨1.2, 0.75⟩, Config.defaultRetrieval⟩

theorem relatedEntities_knot :
    (∃ listed : List String, listed.Nodup ∧ (∀ other, other ∈ listed ↔ other ∈ ["file", "node", "base", "walk"]) ∧
      ∀ n : ℚ, (knotRetriever.relatedEntities "node" "all" n).results.map Hit.entityId = listed.take n.floor.toNat) ∧
    ∃ listed : List String, listed.Nodup ∧ (∀ other, other ∈ listed ↔ other ∈ ["node", "walk"]) ∧
      ∀ n : ℚ, (knotRetriever.relatedEntities "node" "contained" n).results.map Hit.entityId =
        listed.take n.floor.toNat := by
  have hgraph : knotRetriever.index.graph = knotGraph.freeze := GraphIndex.graph_ofGraph _
  have hg : Valid knotRetriever.index.graph := hgraph ▸ (valid_of_run run_knot).1.freeze
  have hrels : knotRetriever.index.graph.relationships = knotGraph.relationships := by rw [hgraph]; rfl
  have hnode : ∃ e ∈ knotGraph.entities, e.id = "node" := by decide +kernel
  obtain ⟨hlists, -⟩ := relatedEntities_lists_view run_knot (.inr hgraph) hnode
  obtain ⟨listed, hnodup, hmem, hall⟩ := hlists .all
  obtain ⟨parts, hnodup', hmem', hparts⟩ := hlists .contained
  refine ⟨⟨listed, hnodup, fun other => ?_, fun n => (hall n).2⟩,
    parts, hnodup', fun other => ?_, fun n => (hparts n).2⟩
  · have hends : (knotGraph.relationships.filter (·.source = "node")).map Relationship.target ++
        (knotGraph.relationships.filter (·.target = "node")).map Relationship.source =
        ["base", "walk", "base", "node", "walk", "file", "file", "node"] := by decide +kernel
    rw [hmem, GraphIndex.view, GraphIndex.mem_neighbors_iff hg, hrels]
    have hother : other ∈ ["file", "node", "base", "walk"] ↔
        other ∈ ["base", "walk", "base", "node", "walk", "file", "file", "node"] := by
      simp only [List.mem_cons, List.not_mem_nil, or_false]
      tauto
    rw [hother, ← hends]
    simp [and_assoc, and_or_left, exists_or]
  · have hends : (knotGraph.relationships.filter fun r => r.kind = .contains ∧ r.source = "node").map
        Relationship.target = ["node", "walk"] := by decide +kernel
    rw [hmem', GraphIndex.view, GraphIndex.contained, GraphIndex.mem_neighbors_iff hg, hrels, ← hends]
    simp [and_assoc]

end Search.Retriever

end CodeAtlas
