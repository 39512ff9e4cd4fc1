import CodeAtlas.Proofs.Graph.Removal

set_option autoImplicit false

/-! # What a graph shows

Two graphs that came about in different ways list their entities and relationships in different orders,
and may differ in relationships between files. `Graph.Shows g located links crossing` says what is in a
graph, up to order: at every path `g` has the listed entities, and its relationships are `links` and
`crossing`, where what crosses leads from one path to another and is no containment.

The graphs of a build grow by whole lists of entities and relationships; `insertAll_spec` and
`linkAll_spec` say what that does to the two lists of a graph, and `Shows.extend` what it does to what the
graph shows. -/

namespace CodeAtlas.Graph

/-! ## Adding many -/

theorem insertAll_spec (es : List Entity) :
    ∀ {g : Graph}, Valid g → (es.map Entity.id).Nodup → (∀ e ∈ es, g.hasEntity e.id = false) →
      Valid (es.foldl insertEntity g) ∧ (es.foldl insertEntity g).entities = g.entities ++ es ∧
      (es.foldl insertEntity g).relationships = g.relationships := by
  induction es with
  | nil => intro g h _ _; simp [h]
  | cons e rest ih =>
      intro g h hnodup hnew
      rw [List.map_cons, List.nodup_cons] at hnodup
      have hrest : ∀ e' ∈ rest, (g.insertEntity e).hasEntity e'.id = false := fun e' he' => by
        have hne : e'.id ≠ e.id := fun hid => hnodup.1 (List.mem_map.2 ⟨e', he', hid⟩)
        simp [hasEntity_insertEntity, hne, hnew e' (List.mem_cons_of_mem _ he')]
      obtain ⟨hv, hents, hrels⟩ := ih (h.insertEntity e) hnodup.2 hrest
      refine ⟨hv, ?_, hrels⟩
      rw [List.foldl_cons, hents, entities_insertEntity_new g e (hnew e (List.mem_cons_self ..)),
        List.append_assoc, List.singleton_append]

theorem Valid.linkAll (rs : List Relationship) :
    ∀ {g : Graph}, Valid g → Valid (rs.foldl Graph.linkIfKnown g) := by
  induction rs with
  | nil => intro g h; exact h
  | cons r rest ih => intro g h; exact ih (h.linkIfKnown r)

@[simp] theorem entityMap_linkAll (rs : List Relationship) (g : Graph) :
    (rs.foldl linkIfKnown g).entityMap = g.entityMap := by
  induction rs generalizing g with
  | nil => rfl
  | cons r rest ih => rw [List.foldl_cons, ih, entityMap_linkIfKnown]

@[simp] theorem entities_linkAll (rs : List Relationship) (g : Graph) :
    (rs.foldl linkIfKnown g).entities = g.entities := by simp [entities]

@[simp] theorem hasEntity_linkAll (rs : List Relationship) (g : Graph) (id : String) :
    (rs.foldl linkIfKnown g).hasEntity id = g.hasEntity id := by simp [hasEntity]

/-- Is the id of a relationship not known yet? -/
def isNewLink (g : Graph) (r : Relationship) : Bool := (g.relationship? r.id).isNone

theorem isNewLink_iff {g : Graph} (h : Valid g) (r : Relationship) :
    g.isNewLink r = true ↔ ∀ r' ∈ g.relationships, r'.id ≠ r.id := by
  rw [isNewLink, Option.isNone_iff_eq_none, h.relationship?_eq_none_iff]

/-- Of relationships with different ids and known ends, those with a new id are added. -/
theorem linkAll_spec (rs : List Relationship) :
    ∀ {g : Graph}, Valid g → (rs.map Relationship.id).Nodup → (∀ r ∈ rs, g.knowsEnds r = true) →
      (rs.foldl linkIfKnown g).relationships = g.relationships ++ rs.filter g.isNewLink := by
  induction rs with
  | nil => intro g _ _ _; simp
  | cons r rest ih =>
      intro g h hnodup hends
      rw [List.map_cons, List.nodup_cons] at hnodup
      have hends' : ∀ r' ∈ rest, (g.linkIfKnown r).knowsEnds r' = true := fun r' hr' => by
        simpa [knowsEnds] using hends r' (List.mem_cons_of_mem _ hr')
      have hrels := relationships_linkIfKnown g r
      simp only [hends r (List.mem_cons_self ..), true_and] at hrels
      -- the ids after `r` are not that of `r`, so they are as new as they were
      have hsame : rest.filter (g.linkIfKnown r).isNewLink = rest.filter g.isNewLink := by
        refine List.filter_congr fun r' hr' => ?_
        have hne : r.id ≠ r'.id := fun hid => hnodup.1 (List.mem_map.2 ⟨r', hr', hid.symm⟩)
        rw [Bool.eq_iff_iff, isNewLink_iff (h.linkIfKnown r), isNewLink_iff h, hrels]
        split
        · simp [or_imp, forall_and, hne]
        · rfl
      rw [List.foldl_cons, ih (h.linkIfKnown r) hnodup.2 hends', hsame, hrels, List.filter_cons, isNewLink]
      cases hr : g.relationship? r.id <;> simp

/-- An open copy of a graph lists the same entities and the same relationships. -/
theorem copy_spec {g : Graph} (h : Valid g) :
    Valid g.copy ∧ g.copy.entities = g.entities ∧ g.copy.relationships = g.relationships := by
  obtain ⟨hv, hents, hrels⟩ := insertAll_spec g.entities Valid.empty h.nodup_entities (fun _ _ => rfl)
  have hsame : (g.entities.foldl insertEntity empty).entities = g.entities := hents
  have hnone : (g.entities.foldl insertEntity empty).relationships = [] := hrels
  have hends : ∀ r ∈ g.relationships, (g.entities.foldl insertEntity empty).knowsEnds r = true :=
    fun r hr => by
      rw [knowsEnds, Bool.and_eq_true, hv.hasEntity_iff, hv.hasEntity_iff, hsame]
      exact ⟨(h.hasEntity_iff _).1 (h.source_known r hr), (h.hasEntity_iff _).1 (h.target_known r hr)⟩
  have hlinked := linkAll_spec g.relationships hv h.nodup_relationships hends
  have hnew : g.relationships.filter (g.entities.foldl insertEntity empty).isNewLink = g.relationships :=
    List.filter_eq_self.2 fun r _ => (isNewLink_iff hv r).2 (by simp [hnone])
  rw [hnone, hnew, List.nil_append] at hlinked
  exact ⟨Valid.linkAll _ hv, by rw [copy, entities_linkAll, hsame], hlinked⟩

theorem Valid.freeze {g : Graph} (h : Valid g) : Valid g.freeze :=
  ⟨h.entityMap, h.relationshipMap, h.source_known, h.target_known, h.outgoing_eq, h.incoming_eq,
    h.leaving_keys, h.entering_keys⟩

@[simp] theorem entities_freeze (g : Graph) : g.freeze.entities = g.entities := rfl

@[simp] theorem relationships_freeze (g : Graph) : g.freeze.relationships = g.relationships := rfl

/-! ## Paths -/

/-- The entities located at a path, in the order they were first added. -/
def located (g : Graph) (path : String) : List Entity := g.entities.filter (·.path = path)

theorem mem_located_iff (g : Graph) (path : String) (e : Entity) :
    e ∈ g.located path ↔ e ∈ g.entities ∧ e.path = path := by simp [located]

theorem mem_entities_iff (g : Graph) (e : Entity) : e ∈ g.entities ↔ e ∈ g.located e.path := by
  simp [located]

theorem located_insertEntity_new (g : Graph) (e : Entity) (he : g.hasEntity e.id = false) (path : String) :
    (g.insertEntity e).located path = g.located path ++ if e.path = path then [e] else [] := by
  rw [located, entities_insertEntity_new g e he, List.filter_append, located]
  by_cases hp : e.path = path <;> simp [hp]

/-- An entity that is replaced by one of the same path changes what is located there only. -/
theorem located_insertEntity_known {g : Graph} (h : Valid g) {e : Entity} (he : g.hasEntity e.id = true)
    (hold : ∀ e' ∈ g.entities, e'.id = e.id → e'.path = e.path) (path : String) :
    (g.insertEntity e).located path
      = if e.path = path then (g.located path).map fun e' => if e'.id = e.id then e else e'
        else g.located path := by
  have hpath : ∀ e' ∈ g.entities, (if e'.id = e.id then e else e').path = e'.path := fun e' he' => by
    by_cases hid : e'.id = e.id
    · rw [if_pos hid, hold e' he' hid]
    · rw [if_neg hid]
  have hfilter : g.entities.filter ((fun x => decide (x.path = path)) ∘ fun e' => if e'.id = e.id then e else e')
      = g.entities.filter (·.path = path) :=
    List.filter_congr fun e' he' => by simp only [Function.comp_apply, hpath e' he']
  rw [located, entities_insertEntity_known h e he, List.filter_map, hfilter, ← located]
  split
  · rfl
  · next hp =>
      refine (List.map_congr_left fun e' he' => ?_).trans (List.map_id _)
      rw [mem_located_iff] at he'
      have hid : e'.id ≠ e.id := fun hid => hp ((hold e' he'.1 hid).symm.trans he'.2)
      simp [hid]

/-- Does a relationship join entities of different paths without being a containment? Its id is then
    that of its ends and its kind. -/
structure Crosses (g : Graph) (r : Relationship) : Prop where
  kind_ne : r.kind ≠ .contains
  id_eq : r.id = relationshipId r.source r.kind.name r.target
  ends : ∃ a ∈ g.entities, ∃ b ∈ g.entities, a.id = r.source ∧ b.id = r.target ∧ a.path ≠ b.path

/-- What is crossed stays crossed while the entities of its ends stay where they are. -/
theorem Crosses.mono {g g' : Graph} {r : Relationship} (h : Crosses g r)
    (hkeep : ∀ e ∈ g.entities, e.id = r.source ∨ e.id = r.target →
      ∃ e' ∈ g'.entities, e'.id = e.id ∧ e'.path = e.path) : Crosses g' r := by
  obtain ⟨hkind, hid, a, ha, b, hb, has, hbt, hne⟩ := h
  obtain ⟨a', ha', haid, hap⟩ := hkeep a ha (.inl has)
  obtain ⟨b', hb', hbid, hbp⟩ := hkeep b hb (.inr hbt)
  exact ⟨hkind, hid, a', ha', b', hb', haid.trans has, hbid.trans hbt, by rwa [hap, hbp]⟩

/-! ## What a graph shows -/

/-- At every path the graph has the listed entities, and its relationships are the given links and those that
    are given as crossing. -/
structure Shows (g : Graph) (atPath : String → List Entity) (links crossing : Relationship → Prop) : Prop where
  valid : Valid g
  located_eq : ∀ path, g.located path = atPath path
  mem_relationships_iff : ∀ r, r ∈ g.relationships ↔ links r ∨ crossing r
  crosses : ∀ r, crossing r → Crosses g r

namespace Shows

variable {g g' : Graph} {atPath : String → List Entity} {links crossing : Relationship → Prop}

theorem empty : Shows empty (fun _ => []) (fun _ => False) (fun _ => False) :=
  ⟨Valid.empty, fun _ => rfl, fun r => by simp, fun _ h => h.elim⟩

theorem mem_entities_iff (h : Shows g atPath links crossing) (e : Entity) : e ∈ g.entities ↔ e ∈ atPath e.path := by
  rw [Graph.mem_entities_iff, h.located_eq]

theorem path_eq (h : Shows g atPath links crossing) {e : Entity} {path : String} (he : e ∈ atPath path) :
    e.path = path := by
  rw [← h.located_eq, mem_located_iff] at he
  exact he.2

theorem mem_of_mem_at (h : Shows g atPath links crossing) {e : Entity} {path : String} (he : e ∈ atPath path) :
    e ∈ g.entities := by
  rw [← h.located_eq, mem_located_iff] at he
  exact he.1

/-- A graph that shows something shows whatever says the same. -/
theorem congr {atPath' : String → List Entity} {links' crossing' : Relationship → Prop}
    (h : Shows g atPath links crossing) (hat : ∀ path, atPath' path = atPath path)
    (hlinks : ∀ r, links' r ↔ links r) (hcrossing : ∀ r, crossing' r ↔ crossing r) :
    Shows g atPath' links' crossing' where
  valid := h.valid
  located_eq path := by rw [hat, h.located_eq]
  mem_relationships_iff r := by rw [hlinks, hcrossing, h.mem_relationships_iff]
  crosses r hr := h.crosses r ((hcrossing r).1 hr)

/-- A graph of the same lists shows the same. -/
theorem of_eq (h : Shows g atPath links crossing) (hv : Valid g') (hents : g'.entities = g.entities)
    (hrels : g'.relationships = g.relationships) : Shows g' atPath links crossing where
  valid := hv
  located_eq path := by rw [← h.located_eq, located, located, hents]
  mem_relationships_iff r := by rw [hrels, h.mem_relationships_iff]
  crosses r hr := (h.crosses r hr).mono fun e he _ => ⟨e, hents ▸ he, rfl, rfl⟩

theorem copy (h : Shows g atPath links crossing) : Shows g.copy atPath links crossing := by
  obtain ⟨hv, hents, hrels⟩ := copy_spec h.valid
  exact h.of_eq hv hents hrels

theorem freeze (h : Shows g atPath links crossing) : Shows g.freeze atPath links crossing :=
  h.of_eq h.valid.freeze rfl rfl

/-- More entities and more links. -/
theorem extend (h : Shows g atPath links crossing) (hv : Valid g') {es : List Entity} {rs : List Relationship}
    (hents : g'.entities = g.entities ++ es) (hrels : g'.relationships = g.relationships ++ rs) :
    Shows g' (fun path => atPath path ++ es.filter (·.path = path)) (fun r => links r ∨ r ∈ rs) crossing where
  valid := hv
  located_eq path := by rw [← h.located_eq, located, located, hents, List.filter_append]
  mem_relationships_iff r := by
    rw [hrels, List.mem_append, h.mem_relationships_iff, or_right_comm]
  crosses r hr := (h.crosses r hr).mono fun e he _ => ⟨e, by rw [hents]; exact List.mem_append_left _ he, rfl, rfl⟩

/-- More relationships that cross. -/
theorem extend_crossing (h : Shows g atPath links crossing) (hv : Valid g') {rs : List Relationship}
    (hents : g'.entities = g.entities) (hrels : g'.relationships = g.relationships ++ rs)
    (hrs : ∀ r ∈ rs, Crosses g r) : Shows g' atPath links (fun r => crossing r ∨ r ∈ rs) where
  valid := hv
  located_eq path := by rw [← h.located_eq, located, located, hents]
  mem_relationships_iff r := by rw [hrels, List.mem_append, h.mem_relationships_iff, or_assoc]
  crosses r hr := (hr.elim (h.crosses r) (hrs r)).mono fun e he _ => ⟨e, hents ▸ he, rfl, rfl⟩

section

variable {path : String}

/-- Where no directory stands, what is in the file is what stands there. -/
theorem inFile_iff (h : Shows g atPath links crossing) (hfile : ∀ e ∈ atPath path, e.kind ≠ .directory) {e : Entity}
    (he : e ∈ g.entities) : inFile path e = true ↔ e.path = path := by
  simp only [inFile, Bool.and_eq_true, decide_eq_true_eq]
  refine ⟨And.right, fun hp => ⟨hfile e ?_, hp⟩⟩
  rw [← hp]
  exact (h.mem_entities_iff e).1 he

theorem mem_dropped_iff (h : Shows g atPath links crossing) (hfile : ∀ e ∈ atPath path, e.kind ≠ .directory)
    (id : String) : id ∈ (g.dropFile path).2 ↔ ∃ e ∈ atPath path, e.id = id := by
  simp only [Graph.dropFile, List.mem_map, List.mem_filter]
  constructor
  · rintro ⟨e, ⟨he, hin⟩, rfl⟩
    rw [h.inFile_iff hfile he] at hin
    exact ⟨e, hin ▸ (h.mem_entities_iff e).1 he, rfl⟩
  · rintro ⟨e, he, rfl⟩
    have hmem := h.mem_of_mem_at he
    exact ⟨e, ⟨hmem, (h.inFile_iff hfile hmem).2 (h.path_eq he)⟩, rfl⟩

theorem mem_relationships_dropFile_iff (h : Shows g atPath links crossing)
    (hfile : ∀ e ∈ atPath path, e.kind ≠ .directory) (r : Relationship) :
    r ∈ (g.dropFile path).1.relationships ↔
      r ∈ g.relationships ∧ ∀ e ∈ atPath path, e.id ≠ r.source ∧ e.id ≠ r.target := by
  rw [relationships_dropFile h.valid, List.mem_filter]
  simp only [decide_eq_true_eq, h.mem_dropped_iff hfile]
  refine and_congr_right fun _ => ⟨fun ⟨hs, ht⟩ e he => ?_, fun hfree => ⟨?_, ?_⟩⟩
  · exact ⟨fun hid => hs ⟨e, he, hid⟩, fun hid => ht ⟨e, he, hid⟩⟩
  · exact fun ⟨e, he, hid⟩ => (hfree e he).1 hid
  · exact fun ⟨e, he, hid⟩ => (hfree e he).2 hid

theorem located_dropFile (h : Shows g atPath links crossing) (hfile : ∀ e ∈ atPath path, e.kind ≠ .directory)
    (p : String) : (g.dropFile path).1.located p = if p = path then [] else atPath p := by
  rw [located, entities_dropFile h.valid, List.filter_filter]
  split
  · next hp =>
      subst hp
      refine List.filter_eq_nil_iff.2 fun e he => ?_
      by_cases hpe : e.path = p
      · simp [(h.inFile_iff hfile he).2 hpe]
      · simp [hpe]
  · next hp =>
      rw [← h.located_eq, located]
      refine List.filter_congr fun e he => ?_
      by_cases hpe : e.path = p
      · have hout : ¬ inFile path e = true := fun hin => hp (hpe.symm.trans ((h.inFile_iff hfile he).1 hin))
        simp [hpe, hout]
      · simp [hpe]

/-- Without the entities of a file, which are all that stands at its path. -/
theorem dropFile (h : Shows g atPath links crossing) (path : String)
    (hfile : ∀ e ∈ atPath path, e.kind ≠ .directory) :
    Shows (g.dropFile path).1 (fun p => if p = path then [] else atPath p)
      (fun r => links r ∧ ∀ e ∈ atPath path, e.id ≠ r.source ∧ e.id ≠ r.target)
      (fun r => crossing r ∧ ∀ e ∈ atPath path, e.id ≠ r.source ∧ e.id ≠ r.target) where
  valid := h.valid.dropFile path
  located_eq := h.located_dropFile hfile
  mem_relationships_iff r := by
    rw [h.mem_relationships_dropFile_iff hfile, h.mem_relationships_iff, or_and_right]
  crosses r hr := by
    obtain ⟨hr, hfree⟩ := hr
    refine (h.crosses r hr).mono fun e he hend => ⟨e, ?_, rfl, rfl⟩
    rw [entities_dropFile h.valid, List.mem_filter, Bool.not_eq_true', ← Bool.not_eq_true, h.inFile_iff hfile he]
    refine ⟨he, fun hp => ?_⟩
    obtain ⟨hs, ht⟩ := hfree e (hp ▸ (h.mem_entities_iff e).1 he)
    exact hend.elim hs ht

end

end Shows

end CodeAtlas.Graph
