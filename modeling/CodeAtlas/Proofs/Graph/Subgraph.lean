import CodeAtlas.Proofs.Graph.Neighbourhood
import CodeAtlas.Proofs.Graph.Restoration

set_option autoImplicit false

/-! # Induced subgraphs

A subgraph is put together like any graph: the selected entities are added, then, entity by entity, those of the
relationships that leave it whose target is selected too. On a valid graph every relationship stands in the list of its
source and in no other one, so going through the selection meets each relationship between selected entities, once
(`mem_linksWithin_iff`, `nodup_linksWithin`). Each of them is therefore new when it is added, and its ends are there:
`subgraph_isInduced`. -/

namespace CodeAtlas

/-- Does a relationship join an id to one of a list, whichever way it runs? -/
def Graph.Adjoins (g : Graph) (ids : List String) (id : String) : Prop :=
  ∃ r ∈ g.relationships, r.source = id ∧ r.target ∈ ids ∨ r.target = id ∧ r.source ∈ ids

instance (g : Graph) (ids : List String) (id : String) : Decidable (g.Adjoins ids id) :=
  inferInstanceAs (Decidable (∃ r ∈ g.relationships, _))

namespace GraphIndex

open CodeAtlas.Graph

variable {ix : GraphIndex} {ids : List String} {widen : Bool} {id : String}

/-! ## The selection -/

/-- The ids that a subgraph is made of: the known ones of a list and, widened, their neighbours. -/
def selection (ix : GraphIndex) (ids : List String) (widen : Bool) : List String :=
  let known := distinct (ids.filter ix.graph.hasEntity)
  if widen then distinct (known ++ known.flatMap fun id => ix.neighbors id none .both) else known

/-- The entities that are added to a subgraph, in this order. -/
def selectedEntities (ix : GraphIndex) (ids : List String) (widen : Bool) : List Entity :=
  (ix.selection ids widen).filterMap ix.graph.entity?

/-- The relationships that are added to a subgraph, in this order. -/
def linksWithin (ix : GraphIndex) (ids : List String) (widen : Bool) : List Relationship :=
  (ix.selection ids widen).flatMap fun id => (ix.graph.outgoing id).filter fun r => r.target ∈ ix.selection ids widen

theorem subgraph_eq (ix : GraphIndex) (ids : List String) (widen : Bool) : ix.subgraph ids widen =
    ((ix.linksWithin ids widen).foldl linkIfKnown ((ix.selectedEntities ids widen).foldl insertEntity empty)).freeze :=
  rfl

theorem nodup_selection (ix : GraphIndex) (ids : List String) (widen : Bool) : (ix.selection ids widen).Nodup := by
  unfold selection
  split <;> exact Dict.nodup_distinct _

/-- Selected are the known ids of the list and, widened, what adjoins one of them. -/
theorem mem_selection_iff (hg : Valid ix.graph) : id ∈ ix.selection ids widen ↔
    ix.graph.hasEntity id = true ∧ (id ∈ ids ∨ widen = true ∧ ix.graph.Adjoins ids id) := by
  have hneighbor : (∃ near, (near ∈ ids ∧ ix.graph.hasEntity near = true) ∧ id ∈ ix.neighbors near none .both) ↔
      ix.graph.Adjoins ids id := by
    constructor
    · rintro ⟨near, ⟨hnear, -⟩, hid⟩
      obtain ⟨r, hr, -, ⟨-, rfl, rfl⟩ | ⟨-, rfl, rfl⟩⟩ := (mem_neighbors_iff hg _ _).1 hid
      exacts [⟨r, hr, .inr ⟨rfl, hnear⟩⟩, ⟨r, hr, .inl ⟨rfl, hnear⟩⟩]
    · rintro ⟨r, hr, ⟨rfl, hnear⟩ | ⟨rfl, hnear⟩⟩
      · exact ⟨r.target, ⟨hnear, hg.target_known r hr⟩, (mem_neighbors_iff hg _ _).2 ⟨r, hr, by simp⟩⟩
      · exact ⟨r.source, ⟨hnear, hg.source_known r hr⟩, (mem_neighbors_iff hg _ _).2 ⟨r, hr, by simp⟩⟩
  have hknown : ix.graph.Adjoins ids id → ix.graph.hasEntity id = true := by
    rintro ⟨r, hr, ⟨rfl, -⟩ | ⟨rfl, -⟩⟩
    exacts [hg.source_known r hr, hg.target_known r hr]
  cases widen with
  | false => simp [selection, Dict.mem_distinct, and_comm]
  | true =>
      simp only [selection, if_true, Dict.mem_distinct, List.mem_append, List.mem_flatMap, List.mem_filter, hneighbor,
        true_and]
      rw [and_or_left, and_iff_right_of_imp hknown, and_comm]

theorem map_id_selectedEntities (hg : Valid ix.graph) :
    (ix.selectedEntities ids widen).map Entity.id = ix.selection ids widen := by
  rw [selectedEntities, map_id_filterMap_entity? hg, List.filter_eq_self]
  exact fun id hid => ((mem_selection_iff hg).1 hid).1

theorem mem_selectedEntities_iff (hg : Valid ix.graph) (e : Entity) :
    e ∈ ix.selectedEntities ids widen ↔ e ∈ ix.graph.entities ∧ e.id ∈ ix.selection ids widen := by
  rw [selectedEntities, List.mem_filterMap]
  constructor
  · rintro ⟨id, hid, hentity⟩
    obtain ⟨he, rfl⟩ := (hg.entity?_eq_some_iff id e).1 hentity
    exact ⟨he, hid⟩
  · rintro ⟨he, hid⟩
    exact ⟨e.id, hid, (hg.entity?_eq_some_iff e.id e).2 ⟨he, rfl⟩⟩

/-! ## The relationships within -/

theorem mem_linksWithin_iff (hg : Valid ix.graph) (r : Relationship) : r ∈ ix.linksWithin ids widen ↔
    r ∈ ix.graph.relationships ∧ r.source ∈ ix.selection ids widen ∧ r.target ∈ ix.selection ids widen := by
  simp only [linksWithin, hg.outgoing_eq, List.mem_flatMap, List.mem_filter, decide_eq_true_eq]
  constructor
  · rintro ⟨id, hid, ⟨hr, rfl⟩, htarget⟩
    exact ⟨hr, hid, htarget⟩
  · rintro ⟨hr, hsource, htarget⟩
    exact ⟨r.source, hsource, ⟨hr, rfl⟩, htarget⟩

theorem nodup_linksWithin (hg : Valid ix.graph) : ((ix.linksWithin ids widen).map Relationship.id).Nodup := by
  have hnodup : (ix.linksWithin ids widen).Nodup := by
    rw [linksWithin, List.nodup_flatMap]
    refine ⟨fun id _ => ?_, (nodup_selection ix ids widen).imp fun {id id'} hne r hr hr' => hne ?_⟩
    · rw [hg.outgoing_eq]
      exact ((List.Nodup.of_map _ hg.nodup_relationships).filter _).filter _
    · -- a relationship leaves one entity only
      simp only [hg.outgoing_eq, List.mem_filter, decide_eq_true_eq] at hr hr'
      exact hr.1.2.symm.trans hr'.1.2
  refine hnodup.map_on fun r hr r' hr' hid => ?_
  exact hg.relationship_ext ((mem_linksWithin_iff hg r).1 hr).1 ((mem_linksWithin_iff hg r').1 hr').1 hid

/-! ## Putting it together -/

/-- After the entities and the first so many relationships the graph holds just these. -/
theorem run_selected (hg : Valid ix.graph) {before after : List Relationship}
    (hlinks : ix.linksWithin ids widen = before ++ after) :
    ∃ k, run ((ix.selectedEntities ids widen).map .addEntity ++ before.map .addRelationship) = .ok k ∧
      k.entities = ix.selectedEntities ids widen ∧ k.relationships = before := by
  have hids := @map_id_selectedEntities ix ids widen hg
  have hnodup := @nodup_linksWithin ix ids widen hg
  rw [hlinks, List.map_append] at hnodup
  have hends : ∀ r ∈ before, (∃ e ∈ empty.entities ++ ix.selectedEntities ids widen, e.id = r.source) ∧
      ∃ e ∈ empty.entities ++ ix.selectedEntities ids widen, e.id = r.target := fun r hr => by
    have hr : r ∈ ix.linksWithin ids widen := hlinks ▸ List.mem_append_left _ hr
    rw [entities_empty, List.nil_append, ← List.mem_map, ← List.mem_map, hids]
    exact ((mem_linksWithin_iff hg r).1 hr).2
  obtain ⟨k, hrun, -, hents, hrels⟩ := addAll_spec Valid.empty rfl (hids ▸ nodup_selection ix ids widen)
    (fun _ _ => rfl) hnodup.of_append_left (fun _ _ => rfl) hends
  exact ⟨k, hrun, hents, hrels⟩

theorem subgraph_eq_freeze {k : Graph} (hrun : run ((ix.selectedEntities ids widen).map .addEntity ++
    (ix.linksWithin ids widen).map .addRelationship) = .ok k) : ix.subgraph ids widen = k.freeze := by
  obtain ⟨hadded, hopen⟩ := addEntities_eq (ix.selectedEntities ids widen) (g := empty) rfl
  rw [run, List.foldlM_append, hadded] at hrun
  rw [subgraph_eq, ← Except.ok.inj ((addRelationships_eq _ hopen).symm.trans hrun)]

/-- Adding a relationship that is not there between entities that are succeeds. -/
theorem addRelationship_new {k : Graph} (hk : Valid k) (hopen : k.frozen = false) {r : Relationship}
    (hsource : ∃ e ∈ k.entities, e.id = r.source) (htarget : ∃ e ∈ k.entities, e.id = r.target)
    (hnew : ∀ r' ∈ k.relationships, r'.id ≠ r.id) : k.addRelationship r = .ok (k.append r, .ok r) := by
  have hends : k.knowsEnds r = true := by
    rw [knowsEnds, Bool.and_eq_true, hk.hasEntity_iff, hk.hasEntity_iff]
    exact ⟨hsource, htarget⟩
  unfold addRelationship whileOpen
  rw [hopen]
  rcases link_cases k r with ⟨hno, -⟩ | ⟨-, known, hknown, -⟩ | ⟨-, -, he⟩
  · rw [hends] at hno
    exact absurd hno (by decide)
  · obtain ⟨hmem, hid⟩ := (hk.relationship?_eq_some_iff _ _).1 hknown
    exact absurd hid (hnew known hmem)
  · simp [he]

/-- **A subgraph is the graph induced by its selection.** On the graph of any changes, frozen or not: the subgraph is
    frozen; its entities are the entities of the graph whose id is listed and, widened, those that a relationship joins
    to a listed one, whichever way it runs; its relationships are those of the graph with both ends among them. All are
    as they are in the graph, and none comes twice. It is what adding these entities and then these relationships to a
    new graph gives, and no call that adds a relationship fails on the way or finds it there already. -/
theorem subgraph_isInduced {changes : List Change} {reached : Graph} (hrun : run changes = .ok reached)
    {ix : GraphIndex} (hix : ix.graph = reached ∨ ix.graph = reached.freeze) (ids : List String) (widen : Bool) :
    (ix.subgraph ids widen).frozen = true ∧
    (((ix.subgraph ids widen).entities.map Entity.id).Nodup ∧
      ∀ e, e ∈ (ix.subgraph ids widen).entities ↔
        e ∈ reached.entities ∧ (e.id ∈ ids ∨ widen = true ∧ reached.Adjoins ids e.id)) ∧
    (((ix.subgraph ids widen).relationships.map Relationship.id).Nodup ∧
      ∀ r, r ∈ (ix.subgraph ids widen).relationships ↔ r ∈ reached.relationships ∧
        (∃ e ∈ (ix.subgraph ids widen).entities, e.id = r.source) ∧
        ∃ e ∈ (ix.subgraph ids widen).entities, e.id = r.target) ∧
    (∃ k, run ((ix.selectedEntities ids widen).map .addEntity ++
        (ix.linksWithin ids widen).map .addRelationship) = .ok k ∧ ix.subgraph ids widen = k.freeze) ∧
    ∀ before r after, ix.linksWithin ids widen = before ++ r :: after → ∃ k k',
      run ((ix.selectedEntities ids widen).map .addEntity ++ before.map .addRelationship) = .ok k ∧
        k.addRelationship r = .ok (k', .ok r) := by
  obtain ⟨hg, hgents, hgrels⟩ := valid_of_run_freeze hrun hix
  have hall : ix.linksWithin ids widen = ix.linksWithin ids widen ++ [] := (List.append_nil _).symm
  obtain ⟨whole, hwhole, hents, hrels⟩ := run_selected hg hall
  have hsub := subgraph_eq_freeze hwhole
  have hsubents : (ix.subgraph ids widen).entities = ix.selectedEntities ids widen := by rw [hsub, ← hents]; rfl
  have hsubrels : (ix.subgraph ids widen).relationships = ix.linksWithin ids widen := by rw [hsub, ← hrels]; rfl
  have hids := @map_id_selectedEntities ix ids widen hg
  have hselected (id : String) : (∃ e ∈ ix.selectedEntities ids widen, e.id = id) ↔ id ∈ ix.selection ids widen := by
    rw [← hids, List.mem_map]
  have hadjoins : ix.graph.Adjoins = reached.Adjoins := by
    unfold Adjoins
    rw [hgrels]
  rw [hsubents, hsubrels, ← hgents, ← hgrels, ← hadjoins]
  refine ⟨by rw [hsub]; rfl, ⟨hids ▸ nodup_selection ix ids widen, fun e => ?_⟩, ⟨nodup_linksWithin hg, fun r => ?_⟩,
    ⟨whole, hwhole, hsub⟩, fun before r after hlinks => ?_⟩
  · rw [mem_selectedEntities_iff hg, mem_selection_iff hg]
    refine and_congr_right fun he => and_iff_right ?_
    exact (hg.hasEntity_iff _).2 ⟨e, he, rfl⟩
  · rw [mem_linksWithin_iff hg, hselected, hselected]
  · obtain ⟨k, hk, hkents, hkrels⟩ := run_selected hg hlinks
    obtain ⟨hv, hopen⟩ := valid_of_run hk
    have hr : r ∈ ix.linksWithin ids widen := hlinks ▸ List.mem_append_right _ (List.mem_cons_self ..)
    obtain ⟨-, hsource, htarget⟩ := (mem_linksWithin_iff hg r).1 hr
    refine ⟨k, _, hk, addRelationship_new hv hopen ?_ ?_ fun r' hr' hid => ?_⟩
    · rw [hkents, hselected]
      exact hsource
    · rw [hkents, hselected]
      exact htarget
    · have hnodup := @nodup_linksWithin ix ids widen hg
      rw [hlinks, List.map_append, List.map_cons, List.nodup_append] at hnodup
      rw [hkrels] at hr'
      exact hnodup.2.2 _ (List.mem_map_of_mem hr') _ (List.mem_cons_self ..) hid

/-! ## Two functions and their links -/

/-- `a` calls itself, calls and extends `b`, and is extended by `b`; `b` calls `c`, and that calls `d`. -/
def braid : List Change :=
  [corner "a", corner "b", corner "c", corner "d", side "a" "a", side "a" "b",
    .addRelationship (Relationship.create "b" .inherits "a"), .addRelationship (Relationship.create "a" .inherits "b"),
    side "b" "c", side "c" "d"]

/-- What the changes lead to. -/
def braidGraph : Graph := (run braid).toOption.getD .empty

theorem run_braid : run braid = .ok braidGraph := rfl

theorem subgraph_braid :
    (∀ id, (∃ e ∈ ((ofGraph braidGraph.freeze).subgraph ["a", "x", "a"] true).entities, e.id = id) ↔ id ∈ ["a", "b"]) ∧
    ∀ r, r ∈ ((ofGraph braidGraph.freeze).subgraph ["a", "x", "a"] true).relationships ↔
      r ∈ [Relationship.create "a" .calls "a", Relationship.create "a" .calls "b", Relationship.create "b" .inherits "a",
        Relationship.create "a" .inherits "b"] := by
  obtain ⟨-, ⟨-, hents⟩, ⟨-, hrels⟩, -⟩ :=
    subgraph_isInduced run_braid (.inr (graph_ofGraph braidGraph.freeze)) ["a", "x", "a"] true
  have hids : (braidGraph.entities.filter fun e =>
      e.id ∈ ["a", "x", "a"] ∨ true = true ∧ braidGraph.Adjoins ["a", "x", "a"] e.id).map Entity.id = ["a", "b"] := by
    decide +kernel
  have hmem (id : String) : (∃ e ∈ ((ofGraph braidGraph.freeze).subgraph ["a", "x", "a"] true).entities, e.id = id) ↔
      id ∈ ["a", "b"] := by
    rw [← hids]
    simp [hents, and_assoc]
  have hwithin : braidGraph.relationships.filter (fun r => r.source ∈ ["a", "b"] ∧ r.target ∈ ["a", "b"]) =
      [Relationship.create "a" .calls "a", Relationship.create "a" .calls "b", Relationship.create "b" .inherits "a",
        Relationship.create "a" .inherits "b"] := by
    decide +kernel
  refine ⟨hmem, fun r => ?_⟩
  rw [hrels, hmem, hmem, ← hwithin, List.mem_filter, decide_eq_true_eq]

end GraphIndex

end CodeAtlas
