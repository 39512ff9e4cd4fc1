import CodeAtlas.Proofs.Build.Merge
import Mathlib.Data.List.Basic
import Mathlib.Logic.Relation

set_option autoImplicit false

/-! # Placing what is parsed

The containments of a graph are meant to form a tree: whatever is not the top is contained once, and the way
up from every entity ends at the top (`Graph.ContainmentTree`). A merge places an entity below its structural
parent at the moment it adds the entity. If the parent is not known yet, because it is listed further down,
the containment is refused and nobody comes back to it.

So the part of a file is a tree below the file exactly if every entity can be placed when its turn comes
(`nested_iff`): its parent is listed before it, and no other containment has taken the id. -/

namespace CodeAtlas

/-! ## Trees of containments -/

namespace Graph

/-- The containments that enter an entity. -/
def containers (g : Graph) (id : String) : List Relationship := (g.incoming id).filter (·.kind = .contains)

/-- Is a relationship a containment that enters an entity? -/
structure Enters (g : Graph) (r : Relationship) (id : String) : Prop where
  mem : r ∈ g.relationships
  kind_eq : r.kind = .contains
  target_eq : r.target = id

/-- Is an entity contained in another one? -/
def HeldBy (g : Graph) (child parent : String) : Prop := ∃ r, g.Enters r child ∧ r.source = parent

/-- Does the way up lead from an entity to another one? -/
abbrev Climbs (g : Graph) : String → String → Prop := Relation.ReflTransGen g.HeldBy

/-- Every entity but the top is contained once, and the way up from every entity leads to the top. -/
structure ContainmentTree (g : Graph) (top : String) : Prop where
  one_container : ∀ e ∈ g.entities, e.id ≠ top → (g.containers e.id).length = 1
  climbs : ∀ e ∈ g.entities, g.Climbs e.id top

theorem mem_containers_iff {g : Graph} (h : Valid g) (id : String) (r : Relationship) :
    r ∈ g.containers id ↔ g.Enters r id := by
  rw [containers, h.incoming_eq, List.filter_filter, List.mem_filter, Bool.and_eq_true, decide_eq_true_eq,
    decide_eq_true_eq]
  exact ⟨fun ⟨hr, hk, ht⟩ => ⟨hr, hk, ht⟩, fun ⟨hr, hk, ht⟩ => ⟨hr, hk, ht⟩⟩

theorem nodup_containers {g : Graph} (h : Valid g) (id : String) : (g.containers id).Nodup := by
  rw [containers, h.incoming_eq]
  exact (h.nodup_relationships.of_map.filter _).filter _

theorem length_containers_eq_one_iff {g : Graph} (h : Valid g) (id : String) :
    (g.containers id).length = 1 ↔ ∃! r, g.Enters r id := by
  have hmem := mem_containers_iff h id
  rw [List.length_eq_one_iff]
  constructor
  · rintro ⟨r, hr⟩
    refine ⟨r, (hmem r).1 (by simp [hr]), fun r' hr' => ?_⟩
    have hr'' := (hmem r').2 hr'
    rwa [hr, List.mem_singleton] at hr''
  · rintro ⟨r, hr, huniq⟩
    refine ⟨r, List.perm_singleton.1 ?_⟩
    refine (List.perm_ext_iff_of_nodup (nodup_containers h id) (List.nodup_singleton r)).2 fun r' => ?_
    rw [hmem, List.mem_singleton]
    exact ⟨huniq r', fun he => he ▸ hr⟩

end Graph

namespace Build

open CodeAtlas.Scan CodeAtlas.Graph

/-- Does everything that is parsed in a file hang below the file? -/
structure Nested (p : Graph) (fileId : String) : Prop where
  tree : ContainmentTree p fileId
  not_enters : ∀ r, ¬ p.Enters r fileId

/-! ## Placements -/

section

variable (file : ScannedFile) (o : ParseOutput)

/-- The entity that a merge places an entity of the output under. -/
def holder (e : Entity) : String := structuralParent e file.entityId (classesOf o)

/-- The containment that places an entity. -/
def placement (e : Entity) : Relationship := containment (holder file o e) e.id

/-- The containments that place entities, other than that of the file. -/
def placements (es : List Entity) : List Relationship := (es.filter (·.id ≠ file.entityId)).map (placement file o)

/-- Is a list of entities such that every one has its parent before it? -/
def ParentsFirst (es : List Entity) : Prop :=
  ∀ before e after, es = before ++ e :: after → e.id ≠ file.entityId →
    holder file o e = file.entityId ∨ ∃ c ∈ before, c.id = holder file o e

/-- Can every entity of the output be placed when its turn comes? -/
structure Placeable : Prop where
  parents_first : ParentsFirst file o o.entities
  nodup_ids : ((placements file o o.entities).map Relationship.id).Nodup

end

variable {file : ScannedFile} {o : ParseOutput} {facts : Metadata}

/-- Nothing is its own parent. -/
theorem holder_ne {e : Entity} (he : e.id ≠ file.entityId) : holder file o e ≠ e.id := by
  unfold holder structuralParent
  split
  · exact Ne.symm he
  · next parentClass _ =>
      cases h : innermost ((classesOf o).filter (encloses parentClass e)) with
      | none => exact Ne.symm he
      | some c =>
          have hc := (List.mem_filter.1 (innermost_mem h)).2
          simp only [encloses, Bool.and_eq_true, decide_eq_true_eq, ne_eq] at hc
          exact hc.1.1.1

theorem placements_concat (es : List Entity) (e : Entity) : placements file o (es ++ [e])
    = placements file o es ++ if e.id = file.entityId then [] else [placement file o e] := by
  rw [placements, List.filter_append, List.map_append, placements]
  by_cases he : e.id = file.entityId <;> simp [he]

theorem mem_placements_iff (es : List Entity) (r : Relationship) :
    r ∈ placements file o es ↔ ∃ e ∈ es, e.id ≠ file.entityId ∧ r = placement file o e := by
  rw [placements, List.mem_map]
  constructor
  · rintro ⟨e, he, rfl⟩
    obtain ⟨hmem, hne⟩ := List.mem_filter.1 he
    exact ⟨e, hmem, of_decide_eq_true hne, rfl⟩
  · rintro ⟨e, hmem, hne, rfl⟩
    exact ⟨e, List.mem_filter.2 ⟨hmem, decide_eq_true hne⟩, rfl⟩

/-- A list with one more entity, where every one has its parent before it. -/
theorem ParentsFirst.of_concat {es : List Entity} {e : Entity} (h : ParentsFirst file o (es ++ [e])) :
    ParentsFirst file o es := fun before x after hsplit hne => by
  refine h before x (after ++ [e]) ?_ hne
  rw [hsplit, List.append_assoc, List.cons_append]

/-! ## Merging entities one after another -/

theorem hasEntity_mergeEntity (g : Graph) (e : Entity) (id : String) :
    (mergeEntity file facts (classesOf o) g e).hasEntity id = (decide (id = e.id) || g.hasEntity id) := by
  unfold mergeEntity
  split
  · rw [hasEntity_insertEntity]
  · rw [hasEntity_linkIfKnown, hasEntity_insertEntity]

theorem hasEntity_mergeEntities (es : List Entity) (g : Graph) (id : String) :
    (es.foldl (mergeEntity file facts (classesOf o)) g).hasEntity id = true
      ↔ g.hasEntity id = true ∨ ∃ e ∈ es, e.id = id := by
  induction es generalizing g with
  | nil => simp
  | cons e rest ih =>
      rw [List.foldl_cons, ih, hasEntity_mergeEntity, Bool.or_eq_true, decide_eq_true_eq]
      simp only [List.mem_cons, exists_eq_or_imp, @eq_comm _ id, or_assoc, or_left_comm]

/-- A merge step links nothing but the placement of its entity, below a parent that is known. -/
theorem mem_relationships_mergeEntity {g : Graph} {e : Entity} {r : Relationship}
    (hr : r ∈ (mergeEntity file facts (classesOf o) g e).relationships) :
    r ∈ g.relationships ∨
      e.id ≠ file.entityId ∧ r = placement file o e ∧ g.hasEntity (holder file o e) = true := by
  unfold mergeEntity at hr
  split at hr
  · exact .inl (by rwa [relationships_insertEntity] at hr)
  · next hne =>
      rw [relationships_linkIfKnown, relationships_insertEntity] at hr
      split at hr
      · next hnew =>
          refine (List.mem_append.1 hr).imp id fun hr => ⟨hne, List.mem_singleton.1 hr, ?_⟩
          have hparent := ((Bool.and_eq_true ..).mp hnew.1).1
          rw [hasEntity_insertEntity, Bool.or_eq_true, decide_eq_true_eq] at hparent
          exact hparent.resolve_left (holder_ne hne)
      · exact .inl hr

/-- Below a known parent, a merge step links the placement of its entity if its id is not taken. -/
theorem relationships_mergeEntity {g : Graph} (h : Valid g) {e : Entity} (hne : e.id ≠ file.entityId)
    (hparent : g.hasEntity (holder file o e) = true)
    (hnew : ∀ r ∈ g.relationships, r.id ≠ (placement file o e).id) :
    (mergeEntity file facts (classesOf o) g e).relationships = g.relationships ++ [placement file o e] := by
  have hends : (g.insertEntity e).knowsEnds (placement file o e) = true := by
    rw [knowsEnds, Bool.and_eq_true, hasEntity_insertEntity, hasEntity_insertEntity]
    exact ⟨by simp [placement, containment, Relationship.create, hparent],
      by simp [placement, containment, Relationship.create]⟩
  have hfree : (g.insertEntity e).relationship? (placement file o e).id = none := by
    rw [(h.insertEntity e).relationship?_eq_none_iff, relationships_insertEntity]
    exact hnew
  have hlink := relationships_linkIfKnown (g.insertEntity e) (placement file o e)
  rw [if_pos ⟨hends, hfree⟩, relationships_insertEntity] at hlink
  rw [mergeEntity, if_neg hne]
  exact hlink

theorem valid_mergeEntities (es : List Entity) :
    ∀ {g : Graph}, Valid g → Valid (es.foldl (mergeEntity file facts (classesOf o)) g) := by
  induction es with
  | nil => intro g h; exact h
  | cons e rest ih =>
      intro g h
      refine ih ?_
      unfold mergeEntity
      split
      · exact h.insertEntity _
      · exact (h.insertEntity e).linkIfKnown _

/-- The known ids, while entities are merged into the graph of the bare file. -/
theorem hasEntity_merged (hid : file.entityId = (fileEntity file.path file.size).id) (es : List Entity) (id : String) :
    (es.foldl (mergeEntity file facts (classesOf o)) (part file none)).hasEntity id = true
      ↔ id = file.entityId ∨ ∃ e ∈ es, e.id = id := by
  rw [hasEntity_mergeEntities, part, hasEntity_insertEntity, hid]
  simp

/-- What is linked while entities are merged places an entity whose parent was there before it. -/
theorem placed_of_mem (hid : file.entityId = (fileEntity file.path file.size).id) {r : Relationship}
    (es : List Entity) (hr : r ∈ (es.foldl (mergeEntity file facts (classesOf o)) (part file none)).relationships) :
    ∃ before e after, es = before ++ e :: after ∧ e.id ≠ file.entityId ∧ r = placement file o e ∧
      (holder file o e = file.entityId ∨ ∃ c ∈ before, c.id = holder file o e) := by
  induction es using List.reverseRecOn with
  | nil => exact absurd hr (by simp [part])
  | append_singleton es e ih =>
      rw [List.foldl_concat] at hr
      rcases mem_relationships_mergeEntity hr with hr | ⟨hne, hr, hparent⟩
      · obtain ⟨before, x, after, hsplit, hx⟩ := ih hr
        exact ⟨before, x, after ++ [e], by rw [hsplit, List.append_assoc, List.cons_append], hx⟩
      · exact ⟨es, e, [], rfl, hne, hr, (hasEntity_merged hid es _).1 hparent⟩

/-- Merging entities that have their parents before them links all placements, as long as their ids differ. -/
theorem relationships_merged (hid : file.entityId = (fileEntity file.path file.size).id) (es : List Entity)
    (hfirst : ParentsFirst file o es) (hnodup : ((placements file o es).map Relationship.id).Nodup) :
    (es.foldl (mergeEntity file facts (classesOf o)) (part file none)).relationships = placements file o es := by
  induction es using List.reverseRecOn with
  | nil => rfl
  | append_singleton es e ih =>
      rw [placements_concat, List.map_append, List.nodup_append] at hnodup
      have hbefore := ih hfirst.of_concat hnodup.1
      rw [List.foldl_concat, placements_concat]
      by_cases he : e.id = file.entityId
      · rw [if_pos he, mergeEntity, if_pos he, relationships_insertEntity, hbefore, List.append_nil]
      · have hv : Valid (es.foldl (mergeEntity file facts (classesOf o)) (part file none)) :=
          valid_mergeEntities es (Valid.empty.insertEntity _)
        have hparent := (@hasEntity_merged file o facts hid es (holder file o e)).2 (hfirst es e [] rfl he)
        rw [if_neg he, relationships_mergeEntity hv he hparent, hbefore]
        rw [hbefore]
        refine fun r hr => hnodup.2.2 r.id (List.mem_map_of_mem hr) _ ?_
        simp [he]

/-- Relationships that are no containments leave the containments as they are. -/
theorem enters_linkAll_iff {rs : List Relationship} (hrs : ∀ r ∈ rs, r.kind ≠ .contains) (r : Relationship)
    (id : String) : ∀ {g : Graph}, (rs.foldl linkIfKnown g).Enters r id ↔ g.Enters r id := by
  induction rs with
  | nil => intro g; rfl
  | cons x rest ih =>
      intro g
      rw [List.foldl_cons, ih fun y hy => hrs y (List.mem_cons_of_mem _ hy)]
      have hx := hrs x (List.mem_cons_self ..)
      constructor
      · rintro ⟨hr, hkind, htarget⟩
        rcases mem_relationships_linkIfKnown hr with hr | rfl
        · exact ⟨hr, hkind, htarget⟩
        · exact absurd hkind hx
      · rintro ⟨hr, hkind, htarget⟩
        refine ⟨?_, hkind, htarget⟩
        rw [relationships_linkIfKnown]
        split
        · exact List.mem_append_left _ hr
        · exact hr

/-! ## The tree of a part -/

section

variable (hid : file.entityId = (fileEntity file.path file.size).id) (hfit : o.Fits file.path)
  (hplain : ∀ r ∈ o.relationships, r.kind ≠ .contains)

include hid in
/-- Nothing hangs below a file without an output. -/
theorem nested_bare : Nested (part file none) file.entityId := by
  have hmem : ∀ e ∈ (part file none).entities, e.id = file.entityId := fun e he => by
    rw [part, mem_entities_insertEntity Valid.empty] at he
    rcases he with rfl | ⟨he, -⟩
    · exact hid.symm
    · exact absurd he (by simp)
  refine ⟨⟨fun e he hne => absurd (hmem e he) hne, fun e he => ?_⟩, fun r hr => ?_⟩
  · rw [hmem e he]
  · exact absurd hr.mem (by simp [part])

include hplain in
theorem enters_part_iff (r : Relationship) (id : String) : (part file (some o)).Enters r id ↔
    (o.entities.foldl (mergeEntity file (scannedFacts (part file none) file) (classesOf o)) (part file none)).Enters
      r id :=
  enters_linkAll_iff hplain r id

include hid hfit in
/-- The ids of the part of a file are those of the file and its output. -/
theorem mem_part_cases {e : Entity} (he : e ∈ (part file (some o)).entities) :
    e.id = file.entityId ∨ ∃ x ∈ o.entities, x.id = e.id :=
  (isPart_part file hid hfit.liesIn).own_id e he

include hid in
theorem exists_mem_part {x : Entity} (hx : x ∈ o.entities) :
    (part file (some o)).hasEntity x.id = true := by
  have hknown : (part file (some o)).hasEntity x.id
      = (o.entities.foldl (mergeEntity file (scannedFacts (part file none) file) (classesOf o))
          (part file none)).hasEntity x.id := hasEntity_linkAll _ _ _
  rw [hknown, hasEntity_merged hid]
  exact .inr ⟨x, hx, rfl⟩

include hid hfit hplain in
/-- Where everything hangs below the file, every entity was placed when its turn came. -/
theorem placed_of_nested (hdistinct : (o.entities.map Entity.id).Nodup)
    (h : Nested (part file (some o)) file.entityId) {before after : List Entity} {e : Entity}
    (hsplit : o.entities = before ++ e :: after) (hne : e.id ≠ file.entityId) :
    placement file o e ∈ (part file (some o)).relationships ∧
      (holder file o e = file.entityId ∨ ∃ c ∈ before, c.id = holder file o e) := by
  have hv := (isPart_part file hid hfit.liesIn).valid
  have he : e ∈ o.entities := by rw [hsplit]; simp
  obtain ⟨e', he', hid'⟩ := (hv.hasEntity_iff _).1 (exists_mem_part hid he)
  have hone := h.tree.one_container e' he' (by rwa [hid'])
  rw [length_containers_eq_one_iff hv, hid'] at hone
  obtain ⟨r, hr, -⟩ := hone
  obtain ⟨before', x, after', hsplit', -, rfl, hparent⟩ :=
    placed_of_mem hid o.entities ((enters_part_iff hplain r e.id).1 hr).mem
  -- what enters the entity is its own placement, and ids do not repeat, so its place in the list is the same
  have hx : x = e := List.inj_on_of_nodup_map hdistinct (by rw [hsplit']; simp) he hr.target_eq
  subst hx
  have hnodup := hdistinct.of_map
  rw [hsplit', List.nodup_append, List.nodup_cons] at hnodup
  obtain ⟨-, ⟨hafter, -⟩, hbefore⟩ := hnodup
  have hsame := hsplit'.symm.trans hsplit
  rw [List.append_cons_inj_of_notMem (fun hx => hbefore x hx x (List.mem_cons_self ..) rfl) hafter] at hsame
  rw [hsame.1] at hparent
  exact ⟨hr.mem, hparent⟩

include hid hplain in
/-- Where every entity can be placed, its placement is all that enters it. -/
theorem enters_placed_iff (h : Placeable file o) (r : Relationship) (id : String) :
    (part file (some o)).Enters r id ↔ ∃ e ∈ o.entities, e.id ≠ file.entityId ∧ r = placement file o e ∧ e.id = id := by
  rw [enters_part_iff hplain]
  constructor
  · rintro ⟨hr, -, htarget⟩
    rw [relationships_merged hid _ h.parents_first h.nodup_ids, mem_placements_iff] at hr
    obtain ⟨e, he, hne, rfl⟩ := hr
    exact ⟨e, he, hne, rfl, htarget⟩
  · rintro ⟨e, he, hne, rfl, rfl⟩
    refine ⟨?_, rfl, rfl⟩
    rw [relationships_merged hid _ h.parents_first h.nodup_ids, mem_placements_iff]
    exact ⟨e, he, hne, rfl⟩

include hid hplain in
/-- The way up from an entity leads to the file: its parent is the file or is listed before it. -/
theorem climbs_placed (h : Placeable file o) (es : List Entity) : ∀ rest, o.entities = es ++ rest →
    ∀ e ∈ es, (part file (some o)).Climbs e.id file.entityId := by
  induction es using List.reverseRecOn with
  | nil => intro rest _ e he; exact absurd he (by simp)
  | append_singleton es x ih =>
      intro rest hsplit e he
      rw [List.append_assoc, List.singleton_append] at hsplit
      rcases List.mem_append.1 he with he | he
      · exact ih _ hsplit e he
      · obtain rfl := List.mem_singleton.1 he
        by_cases hne : e.id = file.entityId
        · rw [hne]
        · have hmem : e ∈ o.entities := by rw [hsplit]; simp
          have hstep : (part file (some o)).HeldBy e.id (holder file o e) :=
            ⟨_, (enters_placed_iff hid hplain h _ _).2 ⟨e, hmem, hne, rfl, rfl⟩, rfl⟩
          rcases h.parents_first es e rest hsplit hne with hfile | ⟨c, hc, hcid⟩
          · rw [hfile] at hstep
            exact .single hstep
          · rw [← hcid] at hstep
            exact .head hstep (ih _ hsplit c hc)

include hid hfit hplain in
/-- Where every entity can be placed when its turn comes, everything hangs below the file. -/
theorem nested_of_placeable (hdistinct : (o.entities.map Entity.id).Nodup) (h : Placeable file o) :
    Nested (part file (some o)) file.entityId := by
  have hv := (isPart_part file hid hfit.liesIn).valid
  have henters := enters_placed_iff hid hplain h
  refine ⟨⟨fun e he hne => ?_, fun e he => ?_⟩, fun r hr => ?_⟩
  · obtain ⟨x, hx, hxid⟩ := (mem_part_cases hid hfit he).resolve_left hne
    rw [length_containers_eq_one_iff hv]
    refine ⟨_, (henters _ _).2 ⟨x, hx, by rwa [hxid], rfl, hxid⟩, fun r hr => ?_⟩
    obtain ⟨y, hy, -, rfl, hyid⟩ := (henters _ _).1 hr
    rw [List.inj_on_of_nodup_map hdistinct hy hx (hyid.trans hxid.symm)]
  · rcases mem_part_cases hid hfit he with hfile | ⟨x, hx, hxid⟩
    · rw [hfile]
    · rw [← hxid]
      exact climbs_placed hid hplain h o.entities [] (List.append_nil _).symm x hx
  · obtain ⟨e, -, hne, -, hfile⟩ := (henters _ _).1 hr
    exact hne hfile

include hid hfit hplain in
/-- Everything hangs below the file exactly if every entity can be placed when its turn comes. -/
theorem nested_iff (hdistinct : (o.entities.map Entity.id).Nodup) :
    Nested (part file (some o)) file.entityId ↔ Placeable file o := by
  refine ⟨fun h => ⟨fun before e after hsplit hne =>
    (placed_of_nested hid hfit hplain hdistinct h hsplit hne).2, ?_⟩,
    nested_of_placeable hid hfit hplain hdistinct⟩
  have hplaced : ∀ e ∈ o.entities.filter (·.id ≠ file.entityId),
      placement file o e ∈ (part file (some o)).relationships := fun e he => by
    obtain ⟨hmem, hne⟩ := List.mem_filter.1 he
    obtain ⟨before, after, hsplit⟩ := List.append_of_mem hmem
    exact (placed_of_nested hid hfit hplain hdistinct h hsplit (of_decide_eq_true hne)).1
  have hids : ((o.entities.filter (·.id ≠ file.entityId)).map Entity.id).Nodup :=
    hdistinct.sublist (List.filter_sublist.map _)
  -- all of them are in the graph, where ids do not repeat
  rw [placements, List.map_map]
  refine Dict.nodup_map_of_imp hids fun a ha b hb hsame => ?_
  have heq := (isPart_part file hid hfit.liesIn).valid.relationship_ext (hplaced a ha) (hplaced b hb) hsame
  exact congrArg Relationship.target heq

end

end Build

end CodeAtlas
