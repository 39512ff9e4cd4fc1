import CodeAtlas.Proofs.Graph.Tables

set_option autoImplicit false

/-! # One relationship away

The neighbours of an entity are read off its two lists, as are its dependencies and dependents, which come in groups by
kind. On a valid graph the lists are the relationships filtered by source and by target, and both ends are known, so
nothing that a relationship leads to is dropped on the way into source order: `mem_neighbors_iff`,
`mem_dependencies_iff` and `mem_dependents_iff` say which relationships put an entity there. -/

namespace CodeAtlas.GraphIndex

open CodeAtlas.Graph

variable {ix : GraphIndex} {id other : String}

/-! ## Source order -/

theorem inSourceOrder_perm (hg : Valid ix.graph) (ids : List String) :
    (ix.inSourceOrder ids).Perm (ids.filter ix.graph.hasEntity) := by
  rw [← map_id_filterMap_entity? hg]
  exact (List.mergeSort_perm (ids.filterMap ix.graph.entity?) Entity.locationLe).map _

theorem mem_inSourceOrder_iff (hg : Valid ix.graph) (ids : List String) :
    id ∈ ix.inSourceOrder ids ↔ id ∈ ids ∧ ix.graph.hasEntity id = true := by
  rw [(inSourceOrder_perm hg ids).mem_iff, List.mem_filter]

/-! ## Neighbours -/

/-- The far ends of the wanted relationships whose near end is an entity, unless they are not followed. -/
theorem mem_farEnds_iff {skipped : Prop} [Decidable skipped] {rs : List Relationship} {wanted : Relationship → Bool}
    {near far : Relationship → String} :
    other ∈ (if skipped then [] else ((rs.filter (near · = id)).filter wanted).map far) ↔
      ∃ r ∈ rs, wanted r = true ∧ ¬ skipped ∧ near r = id ∧ far r = other := by
  split
  · next hskipped => simp [hskipped]
  · next hskipped =>
      simp only [List.mem_map, List.mem_filter, decide_eq_true_eq]
      exact exists_congr fun r => by tauto

/-- A neighbour is at the other end of a relationship of the kind that is followed the right way. -/
theorem mem_neighbors_iff (hg : Valid ix.graph) (kind : Option RelationKind) (d : Direction) :
    other ∈ ix.neighbors id kind d ↔ ∃ r ∈ ix.graph.relationships, (∀ k ∈ kind, r.kind = k) ∧
      (d ≠ .incoming ∧ r.source = id ∧ r.target = other ∨ d ≠ .outgoing ∧ r.target = id ∧ r.source = other) := by
  have hwanted (r : Relationship) : kind.all (r.kind = ·) = true ↔ ∀ k ∈ kind, r.kind = k := by
    cases kind <;> simp
  rw [neighbors, mem_inSourceOrder_iff hg, Dict.mem_distinct, List.mem_append, hg.outgoing_eq, hg.incoming_eq,
    mem_farEnds_iff, mem_farEnds_iff]
  simp only [hwanted, and_or_left, exists_or]
  refine and_iff_left_of_imp ?_
  -- both ends of a relationship are known
  rintro (⟨r, hr, -, -, -, rfl⟩ | ⟨r, hr, -, -, -, rfl⟩)
  exacts [hg.target_known r hr, hg.source_known r hr]

/-! ## Groups by kind -/

/-- The groups hold the far ends of the relationships that have an entity at their near end, but for containments. -/
theorem mem_groupByKind_iff (hg : Valid ix.graph) {near far : Relationship → String}
    (hknown : ∀ r ∈ ix.graph.relationships, ix.graph.hasEntity (far r) = true) :
    other ∈ (ix.groupByKind (ix.graph.relationships.filter (near · = id)) far).flatMap (·.2) ↔
      ∃ r ∈ ix.graph.relationships, r.kind ≠ .contains ∧ near r = id ∧ far r = other := by
  simp only [groupByKind, List.flatMap_map, List.mem_flatMap, List.mem_mergeSort, Dict.mem_distinct, List.mem_map,
    List.mem_filter, mem_inSourceOrder_iff hg, decide_eq_true_eq]
  constructor
  · rintro ⟨_, -, ⟨r, ⟨⟨⟨hr, hnear⟩, hkind⟩, -⟩, hfar⟩, -⟩
    exact ⟨r, hr, hkind, hnear, hfar⟩
  · rintro ⟨r, hr, hkind, hnear, rfl⟩
    have hlinked := And.intro (And.intro hr hnear) hkind
    exact ⟨r.kind, ⟨r, hlinked, rfl⟩, ⟨r, ⟨hlinked, rfl⟩, rfl⟩, hknown r hr⟩

/-- What an entity depends on is where its relationships other than containment lead. -/
theorem mem_dependencies_iff (hg : Valid ix.graph) : other ∈ (ix.dependencies id).flatMap (·.2) ↔
    ∃ r ∈ ix.graph.relationships, r.kind ≠ .contains ∧ r.source = id ∧ r.target = other := by
  rw [dependencies, hg.outgoing_eq]
  exact mem_groupByKind_iff hg hg.target_known

/-- What depends on an entity is where the relationships to it come from, other than containment. -/
theorem mem_dependents_iff (hg : Valid ix.graph) : other ∈ (ix.dependents id).flatMap (·.2) ↔
    ∃ r ∈ ix.graph.relationships, r.kind ≠ .contains ∧ r.target = id ∧ r.source = other := by
  rw [dependents, hg.incoming_eq]
  exact mem_groupByKind_iff hg hg.source_known

end CodeAtlas.GraphIndex
