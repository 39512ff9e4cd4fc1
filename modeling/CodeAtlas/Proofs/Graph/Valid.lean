import CodeAtlas.Graph.Basic
import CodeAtlas.Proofs.Dict

set_option autoImplicit false

/-! # The four tables of a graph stay in step

A graph keeps its entities, its relationships and, for each entity, the lists of the relationships that
leave and enter it. `Graph.Valid` says that the four agree: every table is keyed by ids, both ends of
every relationship are entities, and the two lists of an id are the relationship list filtered by source
and by target, order included.

Each operation preserves it. Beside that, every operation gets one lemma on what it does to the list of
entities and one on the list of relationships; later proofs use these two views only. The main statement
is `Graph.run_keeps_lists_in_step`, over every sequence of changes to a new graph. -/

namespace CodeAtlas.Graph

/-! ## The invariant -/

/-- The tables of a graph agree with each other. -/
structure Valid (g : Graph) : Prop where
  entityMap : g.entityMap.KeyedBy Entity.id
  relationshipMap : g.relationshipMap.KeyedBy Relationship.id
  source_known : ∀ r ∈ g.relationships, g.hasEntity r.source = true
  target_known : ∀ r ∈ g.relationships, g.hasEntity r.target = true
  outgoing_eq : ∀ id, g.outgoing id = g.relationships.filter (·.source = id)
  incoming_eq : ∀ id, g.incoming id = g.relationships.filter (·.target = id)
  leaving_keys : ∀ id, g.leaving.contains id = g.hasEntity id
  entering_keys : ∀ id, g.entering.contains id = g.hasEntity id

@[simp] theorem entities_empty : empty.entities = [] := rfl

@[simp] theorem relationships_empty : empty.relationships = [] := rfl

@[simp] theorem hasEntity_empty (id : String) : empty.hasEntity id = false := rfl

/-- A graph without entities or relationships. -/
theorem Valid.empty : Valid empty where
  entityMap := .empty
  relationshipMap := .empty
  source_known := by simp
  target_known := by simp
  outgoing_eq _ := rfl
  incoming_eq _ := rfl
  leaving_keys _ := rfl
  entering_keys _ := rfl

namespace Valid

variable {g : Graph}

theorem entity?_eq_some_iff (h : Valid g) (id : String) (e : Entity) :
    g.entity? id = some e ↔ e ∈ g.entities ∧ e.id = id :=
  h.entityMap.get?_eq_some_iff id e

theorem hasEntity_iff (h : Valid g) (id : String) : g.hasEntity id = true ↔ ∃ e ∈ g.entities, e.id = id :=
  h.entityMap.contains_iff id

theorem relationship?_eq_some_iff (h : Valid g) (id : String) (r : Relationship) :
    g.relationship? id = some r ↔ r ∈ g.relationships ∧ r.id = id :=
  h.relationshipMap.get?_eq_some_iff id r

theorem relationship?_eq_none_iff (h : Valid g) (id : String) :
    g.relationship? id = none ↔ ∀ r ∈ g.relationships, r.id ≠ id := by
  rw [relationship?, Dict.get?_eq_none_iff, ← Bool.not_eq_true, h.relationshipMap.contains_iff]
  simp [relationships]

theorem nodup_entities (h : Valid g) : (g.entities.map Entity.id).Nodup := h.entityMap.nodup_values

theorem nodup_relationships (h : Valid g) : (g.relationships.map Relationship.id).Nodup :=
  h.relationshipMap.nodup_values

/-- Entities of one id are one entity. -/
theorem entity_ext (h : Valid g) {e e' : Entity} (he : e ∈ g.entities) (he' : e' ∈ g.entities)
    (hid : e.id = e'.id) : e = e' :=
  List.inj_on_of_nodup_map h.nodup_entities he he' hid

/-- Relationships of one id are one relationship. -/
theorem relationship_ext (h : Valid g) {r r' : Relationship} (hr : r ∈ g.relationships)
    (hr' : r' ∈ g.relationships) (hid : r.id = r'.id) : r = r' :=
  List.inj_on_of_nodup_map h.nodup_relationships hr hr' hid

end Valid

theorem hasEntity_eq_isSome_entity? (g : Graph) (id : String) : g.hasEntity id = (g.entity? id).isSome :=
  g.entityMap.contains_eq_isSome_get? id

/-! ## Inserting entities -/

@[simp] theorem relationships_insertEntity (g : Graph) (e : Entity) :
    (g.insertEntity e).relationships = g.relationships := rfl

theorem entity?_insertEntity (g : Graph) (e : Entity) (id : String) :
    (g.insertEntity e).entity? id = if id = e.id then some e else g.entity? id :=
  g.entityMap.get?_insert e.id id e

theorem hasEntity_insertEntity (g : Graph) (e : Entity) (id : String) :
    (g.insertEntity e).hasEntity id = (decide (id = e.id) || g.hasEntity id) :=
  g.entityMap.contains_insert e.id id e

/-- The entities after a new id was inserted. -/
theorem entities_insertEntity_new (g : Graph) (e : Entity) (he : g.hasEntity e.id = false) :
    (g.insertEntity e).entities = g.entities ++ [e] :=
  Dict.KeyedBy.values_insert_new e he

/-- The entities after a known id was inserted. -/
theorem entities_insertEntity_known {g : Graph} (h : Valid g) (e : Entity)
    (he : g.hasEntity e.id = true) :
    (g.insertEntity e).entities = g.entities.map fun e' => if e'.id = e.id then e else e' :=
  h.entityMap.values_insert_known e he

theorem Valid.insertEntity {g : Graph} (h : Valid g) (e : Entity) : Valid (g.insertEntity e) where
  entityMap := h.entityMap.insert e
  relationshipMap := h.relationshipMap
  source_known r hr := by simp [hasEntity_insertEntity, h.source_known r hr]
  target_known r hr := by simp [hasEntity_insertEntity, h.target_known r hr]
  outgoing_eq id := by
    rw [relationships_insertEntity, ← h.outgoing_eq id]
    simp only [outgoing, Graph.insertEntity, Dict.get?_insertNew]
    split
    · next hid => subst hid; cases g.leaving.get? e.id <;> rfl
    · rfl
  incoming_eq id := by
    rw [relationships_insertEntity, ← h.incoming_eq id]
    simp only [incoming, Graph.insertEntity, Dict.get?_insertNew]
    split
    · next hid => subst hid; cases g.entering.get? e.id <;> rfl
    · rfl
  leaving_keys id := by
    rw [hasEntity_insertEntity, ← h.leaving_keys id]
    exact g.leaving.contains_insertNew e.id id []
  entering_keys id := by
    rw [hasEntity_insertEntity, ← h.entering_keys id]
    exact g.entering.contains_insertNew e.id id []

theorem mem_entities_insertEntity {g : Graph} (h : Valid g) (e e' : Entity) :
    e' ∈ (g.insertEntity e).entities ↔ e' = e ∨ (e' ∈ g.entities ∧ e'.id ≠ e.id) := by
  have hiff := (h.insertEntity e).entity?_eq_some_iff e'.id e'
  rw [entity?_insertEntity] at hiff
  simp only [and_true] at hiff
  rw [← hiff]
  by_cases hid : e'.id = e.id
  · simp [hid, eq_comm]
  · have hne : e' ≠ e := fun he => hid (by rw [he])
    simp [hid, hne, h.entity?_eq_some_iff]

/-! ## Linking entities -/

/-- The graph with a relationship whose id is new and whose ends are known. -/
def append (g : Graph) (r : Relationship) : Graph :=
  { g with
    relationshipMap := g.relationshipMap.insert r.id r
    leaving := g.leaving.update r.source [] (· ++ [r])
    entering := g.entering.update r.target [] (· ++ [r]) }

/-- Are both ends of a relationship entities of the graph? -/
def knowsEnds (g : Graph) (r : Relationship) : Bool :=
  g.hasEntity r.source && g.hasEntity r.target

/-- Everything that linking can do. -/
theorem link_cases (g : Graph) (r : Relationship) :
    (g.knowsEnds r = false ∧ ∃ id, g.link r = .error (.unknownEndpoint r.id id)) ∨
    (g.knowsEnds r = true ∧ ∃ known, g.relationship? r.id = some known ∧ g.link r = .ok (g, known)) ∨
    (g.knowsEnds r = true ∧ g.relationship? r.id = none ∧ g.link r = .ok (g.append r, r)) := by
  unfold link missingEndpoint? knowsEnds
  cases hs : g.hasEntity r.source with
  | false => exact .inl ⟨rfl, r.source, by simp [hs]⟩
  | true =>
      cases ht : g.hasEntity r.target with
      | false => exact .inl ⟨rfl, r.target, by simp [hs, ht]⟩
      | true =>
          cases hr : g.relationship? r.id with
          | some known => exact .inr (.inl ⟨rfl, known, rfl, by simp [hs, ht]⟩)
          | none => exact .inr (.inr ⟨rfl, rfl, by simp [hs, ht, append]⟩)

@[simp] theorem entityMap_append (g : Graph) (r : Relationship) : (g.append r).entityMap = g.entityMap := rfl

theorem relationships_append (g : Graph) (r : Relationship) (hr : g.relationship? r.id = none) :
    (g.append r).relationships = g.relationships ++ [r] :=
  Dict.KeyedBy.values_insert_new r ((g.relationshipMap.get?_eq_none_iff r.id).1 hr)

theorem Valid.append {g : Graph} (h : Valid g) (r : Relationship) (hends : g.knowsEnds r = true)
    (hr : g.relationship? r.id = none) : Valid (g.append r) := by
  have hrels := relationships_append g r hr
  simp only [knowsEnds, Bool.and_eq_true] at hends
  refine ⟨h.entityMap, h.relationshipMap.insert r, ?_, ?_, ?_, ?_, ?_, ?_⟩
  · intro r' hr'
    rw [hrels, List.mem_append, List.mem_singleton] at hr'
    rcases hr' with hr' | rfl
    · exact h.source_known r' hr'
    · exact hends.1
  · intro r' hr'
    rw [hrels, List.mem_append, List.mem_singleton] at hr'
    rcases hr' with hr' | rfl
    · exact h.target_known r' hr'
    · exact hends.2
  · intro id
    rw [hrels, List.filter_append, ← h.outgoing_eq id]
    simp only [outgoing, Graph.append, Dict.get?_update]
    by_cases hid : id = r.source
    · subst hid
      simp
    · simp [hid, Ne.symm hid]
  · intro id
    rw [hrels, List.filter_append, ← h.incoming_eq id]
    simp only [incoming, Graph.append, Dict.get?_update]
    by_cases hid : id = r.target
    · subst hid
      simp
    · simp [hid, Ne.symm hid]
  · intro id
    have hid : (decide (id = r.source) || g.leaving.contains id) = g.leaving.contains id := by
      by_cases hs : id = r.source
      · subst hs
        simp [h.leaving_keys, hends.1]
      · simp [hs]
    exact (g.leaving.contains_insert r.source id _).trans (hid.trans (h.leaving_keys id))
  · intro id
    have hid : (decide (id = r.target) || g.entering.contains id) = g.entering.contains id := by
      by_cases ht : id = r.target
      · subst ht
        simp [h.entering_keys, hends.2]
      · simp [ht]
    exact (g.entering.contains_insert r.target id _).trans (hid.trans (h.entering_keys id))

theorem linkIfKnown_eq (g : Graph) (r : Relationship) :
    g.linkIfKnown r = if g.knowsEnds r = true ∧ g.relationship? r.id = none then g.append r else g := by
  unfold linkIfKnown
  rcases link_cases g r with ⟨hends, id, he⟩ | ⟨-, k, hk, he⟩ | ⟨hends, hnew, he⟩
  · simp [he, hends]
  · simp [he, hk]
  · simp [he, hends, hnew]

@[simp] theorem entityMap_linkIfKnown (g : Graph) (r : Relationship) :
    (g.linkIfKnown r).entityMap = g.entityMap := by
  rw [linkIfKnown_eq]
  split <;> rfl

@[simp] theorem entities_linkIfKnown (g : Graph) (r : Relationship) :
    (g.linkIfKnown r).entities = g.entities := by simp [entities]

@[simp] theorem hasEntity_linkIfKnown (g : Graph) (r : Relationship) (id : String) :
    (g.linkIfKnown r).hasEntity id = g.hasEntity id := by simp [hasEntity]

theorem relationships_linkIfKnown (g : Graph) (r : Relationship) :
    (g.linkIfKnown r).relationships
      = if g.knowsEnds r = true ∧ g.relationship? r.id = none then g.relationships ++ [r]
        else g.relationships := by
  rw [linkIfKnown_eq]
  split
  · next hr => exact relationships_append g r hr.2
  · rfl

theorem mem_relationships_linkIfKnown {g : Graph} {r r' : Relationship}
    (hr : r' ∈ (g.linkIfKnown r).relationships) : r' ∈ g.relationships ∨ r' = r := by
  rw [relationships_linkIfKnown] at hr
  split at hr
  · simpa using hr
  · exact .inl hr

theorem Valid.linkIfKnown {g : Graph} (h : Valid g) (r : Relationship) : Valid (g.linkIfKnown r) := by
  rw [linkIfKnown_eq]
  split
  · next hr => exact h.append r hr.1 hr.2
  · exact h

end CodeAtlas.Graph
