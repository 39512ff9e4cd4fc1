import CodeAtlas.Proofs.Graph.Shows
import CodeAtlas.Proofs.Order

set_option autoImplicit false

/-! # Storing a graph and reading it back

The stored form of a graph lists entities and relationships by id. Two graphs of the same contents are
stored alike, whatever the order in which their contents came, and the stored form of a graph is read back
as a graph of the same contents. -/

namespace CodeAtlas.Graph

/-! ## Contents -/

/-- Graphs of the same entities list them in some order each. -/
theorem entities_perm_of_mem {g h : Graph} (hg : Valid g) (hh : Valid h)
    (hsame : ∀ e, e ∈ g.entities ↔ e ∈ h.entities) : g.entities.Perm h.entities :=
  (List.perm_ext_iff_of_nodup hg.nodup_entities.of_map hh.nodup_entities.of_map).2 hsame

/-- Graphs of the same entities find the same entity under an id. -/
theorem entity?_eq_of_mem {g h : Graph} (hg : Valid g) (hh : Valid h)
    (hsame : ∀ e, e ∈ g.entities ↔ e ∈ h.entities) (id : String) : g.entity? id = h.entity? id := by
  refine Option.ext fun e => ?_
  rw [hg.entity?_eq_some_iff, hh.entity?_eq_some_iff, hsame]

/-- The graphs have the same entities and the same relationships. -/
structure SameContents (g h : Graph) : Prop where
  mem_entities : ∀ e, e ∈ g.entities ↔ e ∈ h.entities
  mem_relationships : ∀ r, r ∈ g.relationships ↔ r ∈ h.relationships

namespace SameContents

variable {g h : Graph}

theorem symm (hsame : SameContents g h) : SameContents h g :=
  ⟨fun e => (hsame.mem_entities e).symm, fun r => (hsame.mem_relationships r).symm⟩

/-- No id comes twice, so the lists of one graph are those of the other in some order. -/
theorem entities_perm (hsame : SameContents g h) (hg : Valid g) (hh : Valid h) : g.entities.Perm h.entities :=
  entities_perm_of_mem hg hh hsame.mem_entities

theorem relationships_perm (hsame : SameContents g h) (hg : Valid g) (hh : Valid h) :
    g.relationships.Perm h.relationships :=
  (List.perm_ext_iff_of_nodup hg.nodup_relationships.of_map hh.nodup_relationships.of_map).2
    hsame.mem_relationships

theorem entity?_eq (hsame : SameContents g h) (hg : Valid g) (hh : Valid h) (id : String) :
    g.entity? id = h.entity? id :=
  entity?_eq_of_mem hg hh hsame.mem_entities id

theorem hasEntity_eq (hsame : SameContents g h) (hg : Valid g) (hh : Valid h) (id : String) :
    g.hasEntity id = h.hasEntity id := by
  rw [hasEntity_eq_isSome_entity?, hasEntity_eq_isSome_entity?, hsame.entity?_eq hg hh]

theorem outgoing_perm (hsame : SameContents g h) (hg : Valid g) (hh : Valid h) (id : String) :
    (g.outgoing id).Perm (h.outgoing id) := by
  rw [hg.outgoing_eq, hh.outgoing_eq]
  exact (hsame.relationships_perm hg hh).filter _

theorem incoming_perm (hsame : SameContents g h) (hg : Valid g) (hh : Valid h) (id : String) :
    (g.incoming id).Perm (h.incoming id) := by
  rw [hg.incoming_eq, hh.incoming_eq]
  exact (hsame.relationships_perm hg hh).filter _

end SameContents

/-- Valid graphs are stored alike exactly if their contents are the same. -/
theorem toSnapshot_eq_iff {g h : Graph} (hg : Valid g) (hh : Valid h) :
    g.toSnapshot = h.toSnapshot ↔ SameContents g h := by
  constructor
  · intro heq
    have hents : Entity.sortById g.entities = Entity.sortById h.entities := congrArg GraphSnapshot.entities heq
    have hrels : Relationship.sortById g.relationships = Relationship.sortById h.relationships :=
      congrArg GraphSnapshot.relationships heq
    refine ⟨fun e => ?_, fun r => ?_⟩
    · rw [← (Entity.sortById_perm g.entities).mem_iff, hents, (Entity.sortById_perm h.entities).mem_iff]
    · rw [← (Relationship.sortById_perm g.relationships).mem_iff, hrels,
        (Relationship.sortById_perm h.relationships).mem_iff]
  · intro hsame
    rw [toSnapshot, toSnapshot, Entity.sortById_eq_of_perm hg.nodup_entities (hsame.entities_perm hg hh),
      Relationship.sortById_eq_of_perm hg.nodup_relationships (hsame.relationships_perm hg hh)]

/-! ## Reading a stored graph -/

theorem link_of_knowsEnds {g : Graph} {r : Relationship} (hends : g.knowsEnds r = true) :
    (g.link r).map (·.1) = .ok (g.linkIfKnown r) := by
  unfold linkIfKnown
  rcases link_cases g r with ⟨hno, -⟩ | ⟨-, known, -, he⟩ | ⟨-, -, he⟩
  · rw [hends] at hno
    exact absurd hno (by decide)
  · rw [he]
    rfl
  · rw [he]
    rfl

/-- Relationships whose ends are known are linked one after another without a fault. -/
theorem linkAll_of_knowsEnds (rs : List Relationship) :
    ∀ {g : Graph}, (∀ r ∈ rs, g.knowsEnds r = true) →
      rs.foldlM (fun g r => (g.link r).map (·.1)) g = .ok (rs.foldl linkIfKnown g) := by
  induction rs with
  | nil => intro g _; rfl
  | cons r rest ih =>
      intro g hends
      have hrest : ∀ r' ∈ rest, (g.linkIfKnown r).knowsEnds r' = true := fun r' hr' => by
        simpa [knowsEnds] using hends r' (List.mem_cons_of_mem _ hr')
      rw [List.foldlM_cons, link_of_knowsEnds (hends r (List.mem_cons_self ..)), List.foldl_cons, ← ih hrest]
      rfl

/-- Entities and relationships of different ids, each relationship between two of the entities, make a graph
    that lists them in the order given. -/
theorem ofLists_spec {es : List Entity} {rs : List Relationship} (hes : (es.map Entity.id).Nodup)
    (hrs : (rs.map Relationship.id).Nodup)
    (hends : ∀ r ∈ rs, (∃ e ∈ es, e.id = r.source) ∧ ∃ e ∈ es, e.id = r.target) :
    ∃ g, ofLists es rs = .ok g ∧ Valid g ∧ g.entities = es ∧ g.relationships = rs := by
  obtain ⟨hv, hents, hrels⟩ := insertAll_spec es Valid.empty hes (fun _ _ => rfl)
  rw [entities_empty, List.nil_append] at hents
  rw [relationships_empty] at hrels
  have hknown : ∀ r ∈ rs, (es.foldl insertEntity empty).knowsEnds r = true := fun r hr => by
    rw [knowsEnds, Bool.and_eq_true, hv.hasEntity_iff, hv.hasEntity_iff, hents]
    exact hends r hr
  have hnew : rs.filter (es.foldl insertEntity empty).isNewLink = rs :=
    List.filter_eq_self.2 fun r _ => (isNewLink_iff hv r).2 (by simp [hrels])
  refine ⟨_, linkAll_of_knowsEnds rs hknown, Valid.linkAll rs hv, by rw [entities_linkAll, hents], ?_⟩
  rw [linkAll_spec rs hv hrs hknown, hrels, hnew, List.nil_append]

/-- A stored graph is read back as a graph of the same contents. -/
theorem ofSnapshot_toSnapshot {g : Graph} (h : Valid g) :
    ∃ k, ofSnapshot g.toSnapshot = .ok k ∧ Valid k ∧ SameContents g k := by
  have hents := Entity.sortById_perm g.entities
  have hrels := Relationship.sortById_perm g.relationships
  have hends : ∀ r ∈ Relationship.sortById g.relationships,
      (∃ e ∈ Entity.sortById g.entities, e.id = r.source) ∧
        ∃ e ∈ Entity.sortById g.entities, e.id = r.target := fun r hr => by
    have hr := hrels.mem_iff.1 hr
    simp only [hents.mem_iff]
    exact ⟨(h.hasEntity_iff _).1 (h.source_known r hr), (h.hasEntity_iff _).1 (h.target_known r hr)⟩
  obtain ⟨k, hk, hv, hkents, hkrels⟩ := ofLists_spec ((hents.map _).nodup_iff.2 h.nodup_entities)
    ((hrels.map _).nodup_iff.2 h.nodup_relationships) hends
  refine ⟨k, hk, hv, fun e => ?_, fun r => ?_⟩
  · rw [hkents, hents.mem_iff]
  · rw [hkrels, hrels.mem_iff]

end CodeAtlas.Graph
