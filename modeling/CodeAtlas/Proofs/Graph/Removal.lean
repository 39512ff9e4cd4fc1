import CodeAtlas.Proofs.Graph.Valid

set_option autoImplicit false

/-! # Removing the entities of a file

Removing an entity walks its two lists of relationships and detaches each of them from the graph. A
relationship from an entity to itself stands in both lists, and one between two entities of the file is
met again from its other end; by then its id is gone, and detaching it changes nothing. The whole walk is
therefore a filter: `entities_dropFile` and `relationships_dropFile` say which entities and relationships
are left, in their old order. -/

namespace CodeAtlas.Graph

/-! ## Detaching one relationship -/

theorem get?_dropFrom (r : Relationship) (d : Dict String (List Relationship)) (k id : String) :
    ((detach.dropFrom r d k).get? id).getD []
      = if id = k then ((d.get? k).getD []).filter (·.id ≠ r.id) else (d.get? id).getD [] := by
  unfold detach.dropFrom
  cases hk : d.get? k with
  | none =>
      by_cases hid : id = k
      · subst hid; simp [hk]
      · simp [hid]
  | some l => by_cases hid : id = k <;> simp [Dict.get?_insert, hid]

theorem contains_dropFrom (r : Relationship) (d : Dict String (List Relationship)) (k id : String) :
    (detach.dropFrom r d k).contains id = d.contains id := by
  unfold detach.dropFrom
  cases hk : d.get? k with
  | none => rfl
  | some l =>
      have hc : d.contains k = true := by rw [d.contains_eq_isSome_get?, hk]; rfl
      simp only [Dict.contains_insert]
      by_cases hid : id = k
      · subst hid; simp [hc]
      · simp [hid]

@[simp] theorem entityMap_detach (g : Graph) (r : Relationship) : (g.detach r).entityMap = g.entityMap := by
  unfold detach
  split <;> rfl

/-- A relationship of the graph, or one whose id the graph does not know. -/
def OwnOrForeign (g : Graph) (r : Relationship) : Prop := ∀ r' ∈ g.relationships, r'.id = r.id → r' = r

theorem relationships_detach {g : Graph} (h : Valid g) (r : Relationship) :
    (g.detach r).relationships = g.relationships.filter (·.id ≠ r.id) := by
  unfold detach
  by_cases hc : g.relationshipMap.contains r.id = true
  · rw [if_pos hc]
    simpa [relationships] using h.relationshipMap.values_erase r.id
  · rw [if_neg hc]
    have hnone : g.relationship? r.id = none :=
      (g.relationshipMap.get?_eq_none_iff r.id).2 (by simpa using hc)
    have hall := (h.relationship?_eq_none_iff r.id).1 hnone
    exact (List.filter_eq_self.2 fun r' hr' => by simpa using hall r' hr').symm

/-- In the list of the end that the relationship has, it is left out; it stands in no other list. -/
theorem filter_end_detach {g : Graph} {r : Relationship} (hr : OwnOrForeign g r)
    (endOf : Relationship → String) (id : String) :
    (if id = endOf r then (g.relationships.filter (endOf · = endOf r)).filter (·.id ≠ r.id)
      else g.relationships.filter (endOf · = id))
      = (g.relationships.filter (·.id ≠ r.id)).filter (endOf · = id) := by
  by_cases hid : id = endOf r
  · subst hid
    simp [List.filter_filter, Bool.and_comm]
  · rw [if_neg hid, List.filter_filter]
    refine List.filter_congr (fun r' hr' => ?_)
    by_cases hend : endOf r' = id
    · have hne : r'.id ≠ r.id := fun he => hid (by rw [← hend, hr r' hr' he])
      simp [hend, hne]
    · simp [hend]

theorem Valid.detach {g : Graph} (h : Valid g) {r : Relationship} (hr : OwnOrForeign g r) :
    Valid (g.detach r) := by
  have hrels := relationships_detach h r
  have hmap := entityMap_detach g r
  have hknown : ∀ id, (g.detach r).hasEntity id = g.hasEntity id := fun id => by simp [hasEntity]
  by_cases hc : g.relationshipMap.contains r.id = true
  · have hout : ∀ id, (g.detach r).outgoing id
        = ((detach.dropFrom r g.leaving r.source).get? id).getD [] := fun id => by
      simp only [outgoing, Graph.detach, if_pos hc]
    have hin : ∀ id, (g.detach r).incoming id
        = ((detach.dropFrom r g.entering r.target).get? id).getD [] := fun id => by
      simp only [incoming, Graph.detach, if_pos hc]
    refine ⟨hmap ▸ h.entityMap, ?_, ?_, ?_, ?_, ?_, ?_, ?_⟩
    · simpa only [Graph.detach, if_pos hc] using h.relationshipMap.erase r.id
    · intro r' hr'
      rw [hrels, List.mem_filter] at hr'
      rw [hknown, h.source_known r' hr'.1]
    · intro r' hr'
      rw [hrels, List.mem_filter] at hr'
      rw [hknown, h.target_known r' hr'.1]
    · intro id
      rw [hout, get?_dropFrom, hrels, ← filter_end_detach hr Relationship.source id,
        ← h.outgoing_eq r.source, ← h.outgoing_eq id]
      rfl
    · intro id
      rw [hin, get?_dropFrom, hrels, ← filter_end_detach hr Relationship.target id,
        ← h.incoming_eq r.target, ← h.incoming_eq id]
      rfl
    · intro id
      rw [hknown, ← h.leaving_keys id]
      simp only [Graph.detach, if_pos hc, contains_dropFrom]
    · intro id
      rw [hknown, ← h.entering_keys id]
      simp only [Graph.detach, if_pos hc, contains_dropFrom]
  · rw [Graph.detach, if_neg hc]
    exact h

/-! ## Detaching a list of relationships -/

theorem detachAll_spec (l : List Relationship) :
    ∀ {g : Graph}, Valid g → (∀ r ∈ l, OwnOrForeign g r) →
      Valid (l.foldl Graph.detach g) ∧ (l.foldl Graph.detach g).entityMap = g.entityMap ∧
      (l.foldl Graph.detach g).relationships = g.relationships.filter (·.id ∉ l.map Relationship.id) := by
  induction l with
  | nil => intro g h _; simp [h]
  | cons r rest ih =>
      intro g h hl
      have hrels := relationships_detach h r
      -- what is left of the graph's relationships after `r` still shares ids with nothing but itself
      have hrest : ∀ r' ∈ rest, OwnOrForeign (g.detach r) r' := fun r' hr' r'' hr'' hid => by
        rw [hrels, List.mem_filter] at hr''
        exact hl r' (List.mem_cons_of_mem _ hr') r'' hr''.1 hid
      obtain ⟨hv, hmap, hr⟩ := ih (h.detach (hl r (List.mem_cons_self ..))) hrest
      refine ⟨hv, by rw [List.foldl_cons, hmap, entityMap_detach], ?_⟩
      rw [List.foldl_cons, hr, hrels, List.filter_filter]
      refine List.filter_congr (fun r' _ => ?_)
      by_cases hid : r'.id = r.id <;> simp [hid]

/-! ## Removing one entity -/

/-- Does a relationship leave or enter an entity? -/
def touches (id : String) (r : Relationship) : Bool := r.source = id || r.target = id

/-- The graph without an entity and its two lists. -/
def eraseEntity (g : Graph) (id : String) : Graph :=
  { g with
    entityMap := g.entityMap.erase id
    leaving := g.leaving.erase id
    entering := g.entering.erase id }

@[simp] theorem relationships_eraseEntity (g : Graph) (id : String) :
    (g.eraseEntity id).relationships = g.relationships := rfl

theorem outgoing_eraseEntity (g : Graph) (id id' : String) :
    (g.eraseEntity id).outgoing id' = if id' = id then [] else g.outgoing id' := by
  simp only [outgoing, eraseEntity, Dict.get?_erase]
  split <;> rfl

theorem incoming_eraseEntity (g : Graph) (id id' : String) :
    (g.eraseEntity id).incoming id' = if id' = id then [] else g.incoming id' := by
  simp only [incoming, eraseEntity, Dict.get?_erase]
  split <;> rfl

/-- An entity that no relationship touches can be erased. -/
theorem Valid.eraseEntity {g : Graph} (h : Valid g) {id : String}
    (hfree : ∀ r ∈ g.relationships, touches id r = false) : Valid (g.eraseEntity id) := by
  have hknown : ∀ id', (g.eraseEntity id).hasEntity id' = (!decide (id' = id) && g.hasEntity id') :=
    fun id' => g.entityMap.contains_erase id id'
  have hfree' : ∀ r ∈ g.relationships, r.source ≠ id ∧ r.target ≠ id := fun r hr => by
    simpa [touches] using hfree r hr
  refine ⟨h.entityMap.erase id, h.relationshipMap, ?_, ?_, ?_, ?_, ?_, ?_⟩
  · intro r hr
    simp [hknown, (hfree' r hr).1, h.source_known r hr]
  · intro r hr
    simp [hknown, (hfree' r hr).2, h.target_known r hr]
  · intro id'
    rw [outgoing_eraseEntity, relationships_eraseEntity]
    split
    · next hid => subst hid; simpa using fun r hr => (hfree' r hr).1
    · exact h.outgoing_eq id'
  · intro id'
    rw [incoming_eraseEntity, relationships_eraseEntity]
    split
    · next hid => subst hid; simpa using fun r hr => (hfree' r hr).2
    · exact h.incoming_eq id'
  · intro id'
    rw [hknown, ← h.leaving_keys]
    exact g.leaving.contains_erase id id'
  · intro id'
    rw [hknown, ← h.entering_keys]
    exact g.entering.contains_erase id id'

/-- The relationships of an entity's two lists are those that touch it. -/
theorem mem_outgoing_append_incoming {g : Graph} (h : Valid g) (id : String) (r : Relationship) :
    r ∈ g.outgoing id ++ g.incoming id ↔ r ∈ g.relationships ∧ touches id r = true := by
  rw [h.outgoing_eq, h.incoming_eq]
  simp [touches, and_or_left]

theorem removeEntity_spec {g : Graph} (h : Valid g) (id : String) :
    Valid (g.removeEntity id) ∧ (g.removeEntity id).entities = g.entities.filter (·.id ≠ id) ∧
      (g.removeEntity id).relationships = g.relationships.filter (fun r => !touches id r) := by
  have hmem := mem_outgoing_append_incoming h id
  obtain ⟨hv, hmap, hrels⟩ := detachAll_spec (g.outgoing id ++ g.incoming id) h
    (fun r hr r' hr' hid => h.relationship_ext hr' ((hmem r).1 hr).1 hid)
  -- told by id or by end, the relationships that the walk detaches are the same
  have hleft : ((g.outgoing id ++ g.incoming id).foldl Graph.detach g).relationships
      = g.relationships.filter (fun r => !touches id r) := by
    rw [hrels]
    refine List.filter_congr (fun r hr => ?_)
    have hiff : r.id ∈ (g.outgoing id ++ g.incoming id).map Relationship.id ↔ touches id r = true := by
      rw [List.mem_map]
      constructor
      · rintro ⟨r', hr', hid⟩
        exact h.relationship_ext ((hmem r').1 hr').1 hr hid ▸ ((hmem r').1 hr').2
      · exact fun ht => ⟨r, (hmem r).2 ⟨hr, ht⟩, rfl⟩
    cases ht : touches id r <;> simp only [hiff, ht] <;> decide
  have hg : g.removeEntity id
      = ((g.outgoing id ++ g.incoming id).foldl Graph.detach g).eraseEntity id := rfl
  generalize (g.outgoing id ++ g.incoming id).foldl Graph.detach g = d at hv hmap hleft hg
  rw [hg]
  refine ⟨hv.eraseEntity fun r hr => ?_, ?_, hleft⟩
  · rw [hleft, List.mem_filter] at hr
    simpa using hr.2
  · rw [show g.entities = d.entities by simp [entities, hmap]]
    simpa [entities, Graph.eraseEntity] using hv.entityMap.values_erase id

/-! ## Removing a file -/

theorem removeAll_spec (ids : List String) :
    ∀ {g : Graph}, Valid g →
      Valid (ids.foldl removeEntity g) ∧
      (ids.foldl removeEntity g).entities = g.entities.filter (·.id ∉ ids) ∧
      (ids.foldl removeEntity g).relationships
        = g.relationships.filter (fun r => r.source ∉ ids ∧ r.target ∉ ids) := by
  induction ids with
  | nil => intro g h; simp [h]
  | cons id rest ih =>
      intro g h
      obtain ⟨hv, hents, hrels⟩ := removeEntity_spec h id
      obtain ⟨hv', hents', hrels'⟩ := ih hv
      refine ⟨hv', ?_, ?_⟩
      · rw [List.foldl_cons, hents', hents, List.filter_filter]
        refine List.filter_congr (fun e _ => ?_)
        by_cases he : e.id = id <;> simp [he]
      · rw [List.foldl_cons, hrels', hrels, List.filter_filter]
        refine List.filter_congr (fun r _ => ?_)
        by_cases hs : r.source = id <;> by_cases ht : r.target = id <;> simp [touches, hs, ht]

theorem Valid.dropFile {g : Graph} (h : Valid g) (path : String) : Valid (g.dropFile path).1 :=
  (removeAll_spec _ h).1

/-- What is left are the entities that are not in the file. -/
theorem entities_dropFile {g : Graph} (h : Valid g) (path : String) :
    (g.dropFile path).1.entities = g.entities.filter (fun e => !inFile path e) := by
  refine (removeAll_spec _ h).2.1.trans (List.filter_congr fun e he => ?_)
  by_cases hin : inFile path e = true
  · have hm : e.id ∈ (g.entities.filter (inFile path)).map (·.id) :=
      List.mem_map.2 ⟨e, List.mem_filter.2 ⟨he, hin⟩, rfl⟩
    simp only [hm, hin, not_true_eq_false, decide_false, Bool.not_true]
  · have hm : e.id ∉ (g.entities.filter (inFile path)).map (·.id) := by
      intro hm
      obtain ⟨e', he', hid⟩ := List.mem_map.1 hm
      rw [List.mem_filter] at he'
      exact hin (h.entity_ext he'.1 he hid ▸ he'.2)
    simp only [hm, hin, not_false_eq_true, decide_true, Bool.not_false]

/-- What is left are the relationships without an end among the removed ids. -/
theorem relationships_dropFile {g : Graph} (h : Valid g) (path : String) :
    (g.dropFile path).1.relationships
      = g.relationships.filter (fun r => r.source ∉ (g.dropFile path).2 ∧ r.target ∉ (g.dropFile path).2) :=
  (removeAll_spec _ h).2.2

end CodeAtlas.Graph
