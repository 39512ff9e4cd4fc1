import CodeAtlas.Proofs.Graph.Run
import CodeAtlas.Proofs.Graph.Stored

set_option autoImplicit false

/-! # Taking a file out and putting it back

`removeFile_exact` says all that the removal of a file does: which ids it gives, that what is left of the two
lists and of the lists of every id is a filter of what was there, and that nothing is lost for good. Adding
the removed entities and then the removed relationships, in whatever order, gives a graph that is stored like
the old one. -/

namespace CodeAtlas.Graph

/-! ## Adding by changes -/

theorem change_addEntity {g : Graph} (hopen : g.frozen = false) (e : Entity) :
    g.change (.addEntity e) = .ok (g.insertEntity e) := by
  simp [change, addEntity, whileOpen, hopen]

theorem change_addRelationship {g : Graph} (hopen : g.frozen = false) (r : Relationship) :
    g.change (.addRelationship r) = .ok (g.linkIfKnown r) := by
  simp only [change, addRelationship, whileOpen, hopen, linkIfKnown]
  cases g.link r <;> rfl

@[simp] theorem frozen_linkIfKnown (g : Graph) (r : Relationship) : (g.linkIfKnown r).frozen = g.frozen := by
  rw [linkIfKnown_eq]
  split <;> rfl

theorem addEntities_eq (es : List Entity) : ∀ {g : Graph}, g.frozen = false →
    (es.map Change.addEntity).foldlM change g = .ok (es.foldl insertEntity g) ∧
      (es.foldl insertEntity g).frozen = false := by
  induction es with
  | nil => intro g hopen; exact ⟨rfl, hopen⟩
  | cons e rest ih =>
      intro g hopen
      obtain ⟨hrest, hopen'⟩ := ih (g := g.insertEntity e) (by simpa using hopen)
      refine ⟨?_, hopen'⟩
      rw [List.map_cons, List.foldlM_cons, change_addEntity hopen]
      exact hrest

theorem addRelationships_eq (rs : List Relationship) : ∀ {g : Graph}, g.frozen = false →
    (rs.map Change.addRelationship).foldlM change g = .ok (rs.foldl linkIfKnown g) := by
  induction rs with
  | nil => intro g _; rfl
  | cons r rest ih =>
      intro g hopen
      rw [List.map_cons, List.foldlM_cons, change_addRelationship hopen]
      exact ih (g := g.linkIfKnown r) (by simpa using hopen)

/-- New entities and then new relationships between known ones are added to an open graph. -/
theorem addAll_spec {g : Graph} (h : Valid g) (hopen : g.frozen = false) {es : List Entity} {rs : List Relationship}
    (hes : (es.map Entity.id).Nodup) (hesnew : ∀ e ∈ es, g.hasEntity e.id = false)
    (hrs : (rs.map Relationship.id).Nodup) (hrsnew : ∀ r ∈ rs, g.isNewLink r = true)
    (hends : ∀ r ∈ rs, (∃ e ∈ g.entities ++ es, e.id = r.source) ∧ ∃ e ∈ g.entities ++ es, e.id = r.target) :
    ∃ k, (es.map Change.addEntity ++ rs.map Change.addRelationship).foldlM change g = .ok k ∧ Valid k ∧
      k.entities = g.entities ++ es ∧ k.relationships = g.relationships ++ rs := by
  obtain ⟨hadded, hopen'⟩ := addEntities_eq es hopen
  obtain ⟨hv, hents, hrels⟩ := insertAll_spec es h hes hesnew
  have hknown : ∀ r ∈ rs, (es.foldl insertEntity g).knowsEnds r = true := fun r hr => by
    rw [knowsEnds, Bool.and_eq_true, hv.hasEntity_iff, hv.hasEntity_iff, hents]
    exact hends r hr
  have hnew : rs.filter (es.foldl insertEntity g).isNewLink = rs := List.filter_eq_self.2 fun r hr => by
    rw [isNewLink_iff hv, hrels, ← isNewLink_iff h]
    exact hrsnew r hr
  refine ⟨rs.foldl linkIfKnown (es.foldl insertEntity g), ?_, Valid.linkAll rs hv, ?_, ?_⟩
  · rw [List.foldlM_append, hadded]
    exact addRelationships_eq rs hopen'
  · rw [entities_linkAll, hents]
  · rw [linkAll_spec rs hv hrs hknown, hrels, hnew]

/-! ## The removal of a file -/

/-- Is neither end of a relationship among the ids? -/
def avoids (ids : List String) (r : Relationship) : Bool := r.source ∉ ids ∧ r.target ∉ ids

/-- What is removed with some ids is put back by adding it again. -/
theorem restore_removed {g : Graph} (h : Valid g) (hopen : g.frozen = false) (ids : List String) {k : Graph}
    (hk : Valid k) (hents : k.entities = g.entities.filter (·.id ∉ ids))
    (hrels : k.relationships = g.relationships.filter (avoids ids)) (hkopen : k.frozen = g.frozen)
    {es : List Entity} {rs : List Relationship} (hes : es.Perm (g.entities.filter (·.id ∈ ids)))
    (hrs : rs.Perm (g.relationships.filter fun r => !avoids ids r)) :
    ∃ k', (es.map Change.addEntity ++ rs.map Change.addRelationship).foldlM change k = .ok k' ∧
      k'.toSnapshot = g.toSnapshot := by
  have hmem : ∀ e, e ∈ k.entities ++ es ↔ e ∈ g.entities := fun e => by
    rw [List.mem_append, hents, hes.mem_iff, List.mem_filter, List.mem_filter, ← and_or_left,
      decide_eq_true_eq, decide_eq_true_eq]
    exact and_iff_left (Classical.em (e.id ∈ ids)).symm
  have hmemr : ∀ r, r ∈ k.relationships ++ rs ↔ r ∈ g.relationships := fun r => by
    rw [List.mem_append, hrels, hrs.mem_iff, List.mem_filter, List.mem_filter, ← and_or_left]
    cases avoids ids r <;> simp
  have hold : ∀ e ∈ es, e ∈ g.entities ∧ e.id ∈ ids := fun e he => by simpa using hes.mem_iff.1 he
  have holdr : ∀ r ∈ rs, r ∈ g.relationships ∧ avoids ids r = false := fun r hr => by simpa using hrs.mem_iff.1 hr
  have hesnew : ∀ e ∈ es, k.hasEntity e.id = false := fun e he => by
    rw [← Bool.not_eq_true, hk.hasEntity_iff, hents]
    rintro ⟨e', he', hid⟩
    have hno : e'.id ∉ ids := by simpa using (List.mem_filter.1 he').2
    exact hno (hid ▸ (hold e he).2)
  have hrsnew : ∀ r ∈ rs, k.isNewLink r = true := fun r hr => by
    rw [isNewLink_iff hk, hrels]
    intro r' hr' hid
    obtain ⟨hr', hav⟩ := List.mem_filter.1 hr'
    rw [h.relationship_ext hr' (holdr r hr).1 hid, (holdr r hr).2] at hav
    exact Bool.noConfusion hav
  have hends : ∀ r ∈ rs, (∃ e ∈ k.entities ++ es, e.id = r.source) ∧ ∃ e ∈ k.entities ++ es, e.id = r.target :=
    fun r hr => by
      simp only [hmem]
      exact ⟨(h.hasEntity_iff _).1 (h.source_known r (holdr r hr).1),
        (h.hasEntity_iff _).1 (h.target_known r (holdr r hr).1)⟩
  obtain ⟨k', hrun, hv', hents', hrels'⟩ := addAll_spec hk (hkopen.trans hopen)
    ((hes.map Entity.id).nodup_iff.2 (h.nodup_entities.sublist (List.filter_sublist.map _))) hesnew
    ((hrs.map Relationship.id).nodup_iff.2 (h.nodup_relationships.sublist (List.filter_sublist.map _))) hrsnew hends
  refine ⟨k', hrun, (toSnapshot_eq_iff hv' h).2 ⟨fun e => ?_, fun r => ?_⟩⟩
  · rw [hents', hmem]
  · rw [hrels', hmemr]

/-- Where relationships are filtered, so are the lists of every id. -/
theorem lists_eq_filter {g k : Graph} (h : Valid g) (hk : Valid k) {p : Relationship → Bool}
    (hrels : k.relationships = g.relationships.filter p) (id : String) :
    k.outgoing id = (g.outgoing id).filter p ∧ k.incoming id = (g.incoming id).filter p := by
  rw [hk.outgoing_eq, hk.incoming_eq, h.outgoing_eq, h.incoming_eq, hrels]
  exact ⟨List.filter_comm .., List.filter_comm ..⟩

/-- **The removal of a file is exact.** On a graph reached by changes it gives the ids of the entities in the
    file, in list order. The entities are then the old ones without those, the relationships and the lists of
    every id the old ones without what has a removed end, all in the old order. Adding the removed entities and
    then the removed relationships again, in any order, gives a graph that is stored like the old one. -/
theorem removeFile_exact {changes : List Change} {g : Graph} (hrun : run changes = .ok g) (path : String) :
    ∃ g' removed, g.removeFile path = .ok (g', removed) ∧
      removed = (g.entities.filter fun e => e.kind ≠ .directory ∧ e.path = path).map Entity.id ∧
      g'.entities = g.entities.filter (·.id ∉ removed) ∧
      g'.relationships = g.relationships.filter (avoids removed) ∧
      (∀ id, g'.outgoing id = (g.outgoing id).filter (avoids removed) ∧
        g'.incoming id = (g.incoming id).filter (avoids removed)) ∧
      ∀ (es : List Entity) (rs : List Relationship), es.Perm (g.entities.filter (·.id ∈ removed)) →
        rs.Perm (g.relationships.filter fun r => !avoids removed r) →
        ∃ k, (es.map Change.addEntity ++ rs.map Change.addRelationship).foldlM change g' = .ok k ∧
          k.toSnapshot = g.toSnapshot := by
  obtain ⟨h, hopen⟩ := valid_of_run hrun
  obtain ⟨hv, hents, hrels⟩ := removeAll_spec ((g.entities.filter (inFile path)).map Entity.id) h
  have hin : inFile path = fun e => decide (e.kind ≠ .directory ∧ e.path = path) := by
    funext e
    simp [inFile]
  refine ⟨(g.dropFile path).1, (g.dropFile path).2, by simp [removeFile, whileOpen, hopen], ?_, hents, hrels,
    lists_eq_filter h hv hrels, fun es rs hes hrs => ?_⟩
  · rw [← hin]
    rfl
  · exact restore_removed h hopen _ hv hents hrels (frozen_dropFile g path) hes hrs

/-! ## A tangle -/

/-- An entity named by its id. -/
def piece (kind : EntityKind) (path name : String) : Change :=
  .addEntity ⟨name, kind, path, name, 1, 1, none, none, [], none⟩

/-- A call. -/
def strand (source target : String) : Change :=
  .addRelationship (Relationship.create source .calls target)

/-- Two functions of one file that call each other, themselves and a function elsewhere, and a folder at the
    path of the file. -/
def tangle : List Change :=
  [piece .directory "a" "folder", piece .functionDecl "a" "f", piece .functionDecl "b" "h", piece .functionDecl "a" "g",
    strand "f" "f", strand "f" "g", strand "h" "f", strand "g" "h", strand "h" "h"]

theorem removeFile_tangle_exact :
    ∃ g g' k, run tangle = .ok g ∧ g.removeFile "a" = .ok (g', ["f", "g"]) ∧
      g'.entities.map Entity.id = ["folder", "h"] ∧
      g'.relationships = [Relationship.create "h" .calls "h"] ∧
      ((g.entities.filter (·.id ∈ ["f", "g"])).map Change.addEntity ++
        (g.relationships.filter fun r => !avoids ["f", "g"] r).map Change.addRelationship).foldlM change g' = .ok k ∧
      k.toSnapshot = g.toSnapshot := by
  obtain ⟨g, hg⟩ : ∃ g, run tangle = .ok g := ⟨_, rfl⟩
  obtain ⟨g', removed, hdrop, hremoved, hents, hrels, -, hrestore⟩ := removeFile_exact hg "a"
  obtain rfl : removed = ["f", "g"] := by
    cases hg
    rw [hremoved]
    decide +kernel
  obtain ⟨k, hk, hstored⟩ := hrestore _ _ (.refl _) (.refl _)
  refine ⟨g, g', k, hg, hdrop, ?_, ?_, hk, hstored⟩
  · cases hg
    rw [hents]
    decide +kernel
  · cases hg
    rw [hrels]
    decide +kernel

end CodeAtlas.Graph
