import CodeAtlas.Proofs.Graph.Run
import CodeAtlas.Proofs.Graph.ShortestPath
import CodeAtlas.Proofs.Graph.Stored
import Mathlib.Tactic.Tauto

set_option autoImplicit false

/-! # Answers do not depend on the order of insertion

A graph that was stored and read back lists its contents in another order than the one that was built. What
the index answers is the same all the same. The tables of names, kinds and paths are filled in source order,
which is one order for all graphs of the same contents (`ofGraph_eq`); lists of neighbours are taken from
sets of ids and put into source order; a search for a chain may find another chain, of the same length.

The section *Another graph under the same tables* compares an index with the one that has the graph exchanged,
query by query; `run_answers_alike` puts them together for the graphs that changes reach. -/

namespace CodeAtlas.GraphIndex

open CodeAtlas.Graph

/-! ## Answering alike -/

/-- The counts are the same; the kinds of relationships may come in another order. -/
structure SameCounts (s t : GraphStats) : Prop where
  entities : s.entities = t.entities
  relationships : s.relationships = t.relationships
  files : s.files = t.files
  entitiesByKind : s.entitiesByKind = t.entitiesByKind
  relationshipsByKind : s.relationshipsByKind.Perm t.relationshipsByKind

/-- Two indexes give the same answers to every question. Of the shortest chains between two ids they may give
    different ones. -/
structure SameAnswers (ix jx : GraphIndex) : Prop where
  byName : ∀ name, ix.byName name = jx.byName name
  byKind : ∀ kind, ix.byKind kind = jx.byKind kind
  byPath : ∀ path, ix.byPath path = jx.byPath path
  fuzzyByName : ∀ (α : Type) [Scoring α] (query : String) (threshold : α),
    ix.fuzzyByName query threshold = jx.fuzzyByName query threshold
  neighbors : ∀ id kind direction, ix.neighbors id kind direction = jx.neighbors id kind direction
  dependencies : ∀ id, ix.dependencies id = jx.dependencies id
  dependents : ∀ id, ix.dependents id = jx.dependents id
  contained : ∀ id, ix.contained id = jx.contained id
  containers : ∀ id, ix.containers id = jx.containers id
  entitiesInFile : ∀ path, ix.entitiesInFile path = jx.entitiesInFile path
  searchRelated : ∀ (α : Type) [Scoring α] (query : String) (maxResults : Rat) (threshold : α),
    ix.searchRelated query maxResults threshold = jx.searchRelated query maxResults threshold
  stats : SameCounts ix.stats jx.stats
  shortestPath_length : ∀ start goal maxLength,
    (ix.shortestPath start goal maxLength).map List.length = (jx.shortestPath start goal maxLength).map List.length

/-! ## The tables -/

/-- The tables with another graph. -/
def withGraph (ix : GraphIndex) (h : Graph) : GraphIndex := { ix with graph := h }

theorem foldl_record_withGraph (l : List Entity) (ix : GraphIndex) (h : Graph) :
    l.foldl record (ix.withGraph h) = (l.foldl record ix).withGraph h := by
  induction l generalizing ix with
  | nil => rfl
  | cons e rest ih => exact ih (ix.record e)

theorem graph_ofGraph (g : Graph) : (ofGraph g).graph = g := by
  have hfold : ∀ (l : List Entity) (ix : GraphIndex), (l.foldl record ix).graph = ix.graph := by
    intro l
    induction l with
    | nil => intro ix; rfl
    | cons e rest ih => intro ix; exact ih (ix.record e)
  exact hfold _ _

/-- Graphs of the same entities have the same tables. -/
theorem ofGraph_eq_of_mem {g h : Graph} (hg : Valid g) (hh : Valid h)
    (hsame : ∀ e, e ∈ g.entities ↔ e ∈ h.entities) : ofGraph h = (ofGraph g).withGraph h := by
  rw [ofGraph, ← Entity.sortByLocation_eq_of_perm hg.nodup_entities (entities_perm_of_mem hg hh hsame)]
  exact foldl_record_withGraph _ ⟨g, .empty, .empty, .empty⟩ h

/-- Graphs of the same contents have the same tables. -/
theorem ofGraph_eq {g h : Graph} (hg : Valid g) (hh : Valid h) (hsame : SameContents g h) :
    ofGraph h = (ofGraph g).withGraph h :=
  ofGraph_eq_of_mem hg hh hsame.mem_entities

/-! ## Another graph under the same tables -/

section Exchange

variable {ix : GraphIndex} {h : Graph}

theorem entity?_withGraph (hg : Valid ix.graph) (hh : Valid h) (hsame : SameContents ix.graph h) :
    (ix.withGraph h).graph.entity? = ix.graph.entity? :=
  funext fun id => (hsame.entity?_eq hg hh id).symm

/-- The entities of some ids have those of the ids that are known. -/
theorem map_id_filterMap_entity? (hg : Valid ix.graph) (ids : List String) :
    (ids.filterMap ix.graph.entity?).map (·.id) = ids.filter ix.graph.hasEntity := by
  induction ids with
  | nil => rfl
  | cons id rest ih =>
      rw [List.filterMap_cons, List.filter_cons, hasEntity_eq_isSome_entity?]
      cases he : ix.graph.entity? id with
      | none => simpa using ih
      | some e => simp [ih, ((hg.entity?_eq_some_iff id e).1 he).2]

/-- What is put into source order may come in any order. -/
theorem inSourceOrder_eq (hg : Valid ix.graph) (hh : Valid h) (hsame : SameContents ix.graph h)
    {ids ids' : List String} (hnodup : ids.Nodup) (hperm : ids.Perm ids') :
    (ix.withGraph h).inSourceOrder ids' = ix.inSourceOrder ids := by
  have hids : ((ids.filterMap ix.graph.entity?).map Entity.id).Nodup := by
    rw [map_id_filterMap_entity? hg]
    exact hnodup.filter _
  rw [inSourceOrder, entity?_withGraph hg hh hsame, inSourceOrder,
    Entity.sortByLocation_eq_of_perm hids (hperm.filterMap _)]

theorem inSourceOrder_distinct_eq (hg : Valid ix.graph) (hh : Valid h) (hsame : SameContents ix.graph h)
    {ids ids' : List String} (hperm : ids.Perm ids') :
    (ix.withGraph h).inSourceOrder (distinct ids') = ix.inSourceOrder (distinct ids) :=
  inSourceOrder_eq hg hh hsame (Dict.nodup_distinct ids) (Dict.distinct_perm hperm)

theorem neighbors_withGraph (hg : Valid ix.graph) (hh : Valid h) (hsame : SameContents ix.graph h) (id : String)
    (kind : Option RelationKind) (direction : Direction) :
    (ix.withGraph h).neighbors id kind direction = ix.neighbors id kind direction := by
  refine inSourceOrder_distinct_eq hg hh hsame (.append ?_ ?_)
  · split
    · exact .refl _
    · exact ((hsame.outgoing_perm hg hh id).filter _).map _
  · split
    · exact .refl _
    · exact ((hsame.incoming_perm hg hh id).filter _).map _

theorem groupByKind_withGraph (hg : Valid ix.graph) (hh : Valid h) (hsame : SameContents ix.graph h)
    {rs rs' : List Relationship} (hperm : rs.Perm rs') (far : Relationship → String) :
    (ix.withGraph h).groupByKind rs' far = ix.groupByKind rs far := by
  have hlinked := hperm.filter (·.kind ≠ .contains)
  have hkinds := sortKinds_eq_of_perm (Dict.distinct_perm (hlinked.map (·.kind)))
  unfold groupByKind
  dsimp only
  rw [← hkinds]
  refine List.map_congr_left fun k _ => ?_
  rw [inSourceOrder_distinct_eq hg hh hsame ((hlinked.filter (·.kind = k)).map far)]

theorem collect_withGraph (hg : Valid ix.graph) (hh : Valid h) (hsame : SameContents ix.graph h) (fuel : Nat) :
    ∀ visited stack found, (ix.withGraph h).collect fuel visited stack found = ix.collect fuel visited stack found := by
  have hmeet : meet (ix.withGraph h).graph = meet ix.graph := by
    funext state child
    simp only [meet, entity?_withGraph hg hh hsame]
  induction fuel with
  | zero => intro visited stack found; rfl
  | succ fuel ih =>
      intro visited stack found
      cases stack with
      | nil => rfl
      | cons id stack =>
          have hcontained : (ix.withGraph h).contained id = ix.contained id := neighbors_withGraph hg hh hsame ..
          rw [collect, collect, hcontained, hmeet]
          exact ih _ _ _

theorem size_entityMap_eq {g h : Graph} (hg : Valid g) (hh : Valid h) (hsame : SameContents g h) :
    h.entityMap.size = g.entityMap.size := by
  have hlen := (hsame.entities_perm hg hh).length_eq
  rw [entities, entities, Dict.values, Dict.values, List.length_map, List.length_map] at hlen
  exact hlen.symm

theorem entitiesInFile_withGraph (hg : Valid ix.graph) (hh : Valid h) (hsame : SameContents ix.graph h)
    (path : String) : (ix.withGraph h).entitiesInFile path = ix.entitiesInFile path := by
  have hpath : (ix.withGraph h).byPath path = ix.byPath path := rfl
  have hsize : (ix.withGraph h).graph.entityMap.size = ix.graph.entityMap.size := size_entityMap_eq hg hh hsame
  simp only [entitiesInFile, hpath, entity?_withGraph hg hh hsame, hsize, collect_withGraph hg hh hsame]

theorem degree_withGraph (hg : Valid ix.graph) (hh : Valid h) (hsame : SameContents ix.graph h) (id : String) :
    (ix.withGraph h).degree id = ix.degree id := by
  have hout := ((hsame.outgoing_perm hg hh id).filter (·.kind ≠ .contains)).length_eq
  have hin := ((hsame.incoming_perm hg hh id).filter (·.kind ≠ .contains)).length_eq
  rw [degree, degree, hout, hin]
  rfl

theorem searchRelated_withGraph {α : Type} [Scoring α] (hg : Valid ix.graph) (hh : Valid h)
    (hsame : SameContents ix.graph h) (query : String) (maxResults : Rat) (threshold : α) :
    (ix.withGraph h).searchRelated query maxResults threshold = ix.searchRelated query maxResults threshold := by
  have hnames : (ix.withGraph h).names = ix.names := rfl
  have hrelevance : ∀ (score : α) e, (ix.withGraph h).relevance score e = ix.relevance score e := fun score e => by
    simp only [relevance, connectivity, degree_withGraph hg hh hsame]
  simp only [searchRelated, entity?_withGraph hg hh hsame, hnames, hrelevance]

theorem stats_withGraph (hg : Valid ix.graph) (hh : Valid h) (hsame : SameContents ix.graph h) :
    SameCounts (ix.withGraph h).stats ix.stats where
  entities := size_entityMap_eq hg hh hsame
  relationships := by
    have hlen := (hsame.relationships_perm hg hh).length_eq
    rw [relationships, relationships, Dict.values, Dict.values, List.length_map, List.length_map] at hlen
    exact hlen.symm
  files := rfl
  entitiesByKind := rfl
  relationshipsByKind := by
    have hkinds := (hsame.relationships_perm hg hh).map Relationship.kind
    refine Dict.entries_perm (Dict.nodup_keys_tally ..) (Dict.nodup_keys_tally ..) fun k => ?_
    rw [Dict.get?_tally, Dict.get?_tally]
    show (if k ∈ h.relationships.map Relationship.kind then some ((h.relationships.map Relationship.kind).count k)
      else none) = _
    simp only [hkinds.mem_iff, hkinds.count_eq]

/-- Distances depend on the relationships only. -/
theorem distance_iff {g : Graph} (hsame : SameContents g h) (start : String) (n : Nat) (id : String) :
    Distance g start n id ↔ Distance h start n id := by
  have hwalk : ∀ {g h : Graph}, SameContents g h → ∀ {n id}, Walk g start n id → Walk h start n id := by
    intro g h hsame n id hw
    induction hw with
    | here => exact .here
    | step _ hab ih =>
        obtain ⟨r, hr, hs, ht⟩ := hab
        exact .step ih ⟨r, (hsame.mem_relationships r).1 hr, hs, ht⟩
  exact ⟨fun hd => ⟨hwalk hsame hd.walk, fun m hm => hd.least m (hwalk hsame.symm hm)⟩,
    fun hd => ⟨hwalk hsame.symm hd.walk, fun m hm => hd.least m (hwalk hsame hm)⟩⟩

theorem shortestPath_length_withGraph (hg : Valid ix.graph) (hh : Valid h) (hsame : SameContents ix.graph h)
    (start goal : String) (maxLength : Nat) :
    ((ix.withGraph h).shortestPath start goal maxLength).map List.length
      = (ix.shortestPath start goal maxLength).map List.length := by
  have hknown := hsame.hasEntity_eq hg hh
  rcases @shortestPath_spec (ix.withGraph h) hh start goal maxLength with
    ⟨hnone, hfar⟩ | ⟨chain, n, hsome, hs, ht, hn, hd, hchain⟩
  · rcases shortestPath_spec hg start goal maxLength with ⟨hnone', -⟩ | ⟨chain', n', -, hs, ht, hn', hd', -⟩
    · rw [hnone, hnone']
    · exact absurd ⟨hknown start ▸ hs, hknown goal ▸ ht⟩ (hfar n' hn' ((distance_iff hsame ..).1 hd'))
  · rcases shortestPath_spec hg start goal maxLength with ⟨-, hfar⟩ | ⟨chain', n', hsome', -, -, -, hd', hchain'⟩
    · exact absurd ⟨(hknown start).trans hs, (hknown goal).trans ht⟩ (hfar n hn ((distance_iff hsame ..).2 hd))
    · obtain rfl := hd.unique ((distance_iff hsame ..).1 hd')
      rw [hsome, hsome', Option.map_some, Option.map_some, hchain.length_eq, hchain'.length_eq]

end Exchange

/-! ## Graphs of the same contents -/

/-- The indexes of two graphs of the same contents answer alike. -/
theorem sameAnswers_of_sameContents {g h : Graph} (hg : Valid g) (hh : Valid h) (hsame : SameContents g h) :
    SameAnswers (ofGraph h) (ofGraph g) := by
  have hgraph := graph_ofGraph g
  rw [← hgraph] at hg hsame
  rw [ofGraph_eq (hgraph ▸ hg) hh (hgraph ▸ hsame)]
  exact {
    byName := fun _ => rfl
    byKind := fun _ => rfl
    byPath := fun _ => rfl
    fuzzyByName := fun _ _ _ _ => rfl
    neighbors := neighbors_withGraph hg hh hsame
    dependencies := fun id => groupByKind_withGraph hg hh hsame (hsame.outgoing_perm hg hh id) _
    dependents := fun id => groupByKind_withGraph hg hh hsame (hsame.incoming_perm hg hh id) _
    contained := fun id => neighbors_withGraph hg hh hsame id _ _
    containers := fun id => neighbors_withGraph hg hh hsame id _ _
    entitiesInFile := entitiesInFile_withGraph hg hh hsame
    searchRelated := fun _ _ => searchRelated_withGraph hg hh hsame
    stats := stats_withGraph hg hh hsame
    shortestPath_length := shortestPath_length_withGraph hg hh hsame }

end CodeAtlas.GraphIndex

namespace CodeAtlas.Graph

/-- **Answers do not depend on the order of insertion.** A graph reached by changes is read back from its
    stored form as a graph that is stored alike and answers alike, and any two graphs reached by changes that
    end up with the same entities and relationships answer alike. -/
theorem run_answers_alike {changes changes' : List Change} {g h : Graph} (hg : run changes = .ok g)
    (hh : run changes' = .ok h) :
    (∃ k, ofSnapshot g.toSnapshot = .ok k ∧ k.toSnapshot = g.toSnapshot ∧
      GraphIndex.SameAnswers (.ofGraph k) (.ofGraph g)) ∧
    (SameContents g h → GraphIndex.SameAnswers (.ofGraph h) (.ofGraph g)) := by
  have hvalid : ∀ {changes : List Change} {g : Graph}, run changes = .ok g → Valid g := fun {changes g} hrun => by
    obtain ⟨g', hrun', hv, -⟩ := run_spec changes Valid.empty rfl
    rw [run, hrun'] at hrun
    cases hrun
    exact hv
  have hvg := hvalid hg
  refine ⟨?_, GraphIndex.sameAnswers_of_sameContents hvg (hvalid hh)⟩
  obtain ⟨k, hk, hvk, hsame⟩ := ofSnapshot_toSnapshot hvg
  exact ⟨k, hk, ((toSnapshot_eq_iff hvg hvk).2 hsame).symm,
    GraphIndex.sameAnswers_of_sameContents hvg hvk hsame⟩

/-! ## Two ways round -/

/-- A function of one line. -/
def corner (name : String) : Change :=
  .addEntity ⟨name, .functionDecl, "m.x", name, 1, 1, none, none, [], none⟩

/-- A call. -/
def side (source target : String) : Change :=
  .addRelationship (Relationship.create source .calls target)

/-- `a` calls `b` and `c`, which both call `d`; `b` comes first. -/
def overB : List Change :=
  [corner "a", corner "b", corner "c", corner "d", side "a" "b", side "b" "d", side "a" "c", side "c" "d"]

/-- The same with `c` first. -/
def overC : List Change :=
  [corner "d", corner "c", corner "b", corner "a", side "a" "c", side "c" "d", side "a" "b", side "b" "d"]

theorem overB_overC_answer_alike :
    ∃ g h, run overB = .ok g ∧ run overC = .ok h ∧ SameContents g h ∧
      (∃ k, ofSnapshot g.toSnapshot = .ok k ∧ k.toSnapshot = g.toSnapshot ∧
        GraphIndex.SameAnswers (.ofGraph k) (.ofGraph g)) ∧
      GraphIndex.SameAnswers (.ofGraph h) (.ofGraph g) := by
  obtain ⟨g, hg⟩ : ∃ g, run overB = .ok g := ⟨_, rfl⟩
  obtain ⟨h, hh⟩ : ∃ h, run overC = .ok h := ⟨_, rfl⟩
  have hsame : SameContents g h := by
    cases hg
    cases hh
    constructor
    · intro e
      show e ∈ [_, _, _, _] ↔ e ∈ [_, _, _, _]
      simp only [List.mem_cons, List.not_mem_nil, or_false]
      tauto
    · intro r
      show r ∈ [_, _, _, _] ↔ r ∈ [_, _, _, _]
      simp only [List.mem_cons, List.not_mem_nil, or_false]
      tauto
  obtain ⟨hread, halike⟩ := run_answers_alike hg hh
  exact ⟨g, h, hg, hh, hsame, hread, halike hsame⟩

-- the chains are different ones of the same length; the tables play no part in them
example : ((run overB).toOption.map fun g => GraphIndex.shortestPath ⟨g, .empty, .empty, .empty⟩ "a" "d" 5)
    = some (some ["a", "b", "d"]) := by decide +kernel

example : ((run overC).toOption.map fun g => GraphIndex.shortestPath ⟨g, .empty, .empty, .empty⟩ "a" "d" 5)
    = some (some ["a", "c", "d"]) := by decide +kernel

end CodeAtlas.Graph
