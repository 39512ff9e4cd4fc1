import CodeAtlas.Build
import CodeAtlas.Proofs.Graph.Shows

set_option autoImplicit false

/-! # Merging the output of one file

What a parser finds in a file is merged into a graph that holds all files. Merged into the graph of the
bare file entity alone, it gives the part of that file, `Build.part`. `Build.Overlay` relates the two runs:
as long as the ids of the output are the file's own, each step does to the whole graph what it does to the
part, and nothing else. So a merge adds exactly the part of its file, wherever and whenever it happens:
`Graph.Shows.merge`. -/

namespace CodeAtlas

open Scan

/-! ## Outputs -/

/-- An output lies in a file: its entities do, and the ends of its relationships are among them. -/
structure ParseOutput.LiesIn (o : ParseOutput) (path : String) : Prop where
  path_eq : ∀ e ∈ o.entities, e.path = path
  source_mem : ∀ r ∈ o.relationships, ∃ e ∈ o.entities, e.id = r.source
  target_mem : ∀ r ∈ o.relationships, ∃ e ∈ o.entities, e.id = r.target

/-- What a parser promises of an output: its entities lie in the file and are no folders, and the ends of its
    relationships are among them. -/
structure ParseOutput.Fits (o : ParseOutput) (path : String) : Prop where
  path_eq : ∀ e ∈ o.entities, e.path = path
  kind_ne : ∀ e ∈ o.entities, e.kind ≠ .directory
  source_mem : ∀ r ∈ o.relationships, ∃ e ∈ o.entities, e.id = r.source
  target_mem : ∀ r ∈ o.relationships, ∃ e ∈ o.entities, e.id = r.target

theorem ParseOutput.Fits.liesIn {o : ParseOutput} {path : String} (h : o.Fits path) : o.LiesIn path :=
  ⟨h.path_eq, h.source_mem, h.target_mem⟩

namespace Build

/-! ## The graph of a merge -/

/-- The classes of an output. -/
def classesOf (o : ParseOutput) : List Entity := o.entities.filter (·.kind = .classDecl)

/-- The facts that the scan recorded about a file. -/
def scannedFacts (g : Graph) (file : ScannedFile) : Metadata :=
  ((g.entity? file.entityId).map (·.metadata)).getD []

/-- The graph with an output merged. -/
def mergeGraph (g : Graph) (file : ScannedFile) (o : ParseOutput) : Graph :=
  o.relationships.foldl Graph.linkIfKnown
    (o.entities.foldl (mergeEntity file (scannedFacts g file) (classesOf o)) g)

theorem graph_mergeRelationship (s : Graph × BuildReport) (r : Relationship) :
    (mergeRelationship s r).1 = s.1.linkIfKnown r := by
  unfold mergeRelationship Graph.linkIfKnown
  cases s.1.link r <;> rfl

theorem graph_mergeRelationships (rs : List Relationship) (s : Graph × BuildReport) :
    (rs.foldl mergeRelationship s).1 = rs.foldl Graph.linkIfKnown s.1 := by
  induction rs generalizing s with
  | nil => rfl
  | cons r rest ih => rw [List.foldl_cons, List.foldl_cons, ih, graph_mergeRelationship]

/-- An output without errors is merged, one with errors leaves the graph as it is. -/
theorem graph_merge (s : Graph × BuildReport) (file : ScannedFile) (o : ParseOutput) :
    (merge s file o).1 = if o.errors = [] then mergeGraph s.1 file o else s.1 := by
  obtain ⟨g, report⟩ := s
  unfold merge
  by_cases he : o.errors = []
  · simp only [he, ne_eq, not_true_eq_false, if_false, if_true]
    exact graph_mergeRelationships _ _
  · simp [he]

/-! ## Structural parents -/

theorem innermost_mem {classes : List Entity} {c : Entity} (h : innermost classes = some c) : c ∈ classes := by
  -- the best so far is one of the classes already met
  refine List.foldlRecOn (motive := fun best : Option Entity => ∀ b, best = some b → b ∈ classes) classes _ (by simp)
    (fun best hbest x hx b hb => ?_) c h
  cases best with
  | none => exact Option.some.inj hb ▸ hx
  | some b' =>
      by_cases hs : span x < span b'
      · simp only [if_pos hs] at hb
        exact Option.some.inj hb ▸ hx
      · simp only [if_neg hs] at hb
        exact hbest b hb

/-- The parent of an entity is the file or one of the classes. -/
theorem structuralParent_cases (e : Entity) (fileId : String) (classes : List Entity) :
    structuralParent e fileId classes = fileId ∨ ∃ c ∈ classes, structuralParent e fileId classes = c.id := by
  unfold structuralParent
  split
  · exact .inl rfl
  · next parentClass _ =>
      cases h : innermost (classes.filter (encloses parentClass e)) with
      | none => exact .inl rfl
      | some c => exact .inr ⟨c, (List.mem_filter.1 (innermost_mem h)).1, rfl⟩

/-! ## One file beside the others -/

/-- The ids that an output brings into a graph: that of the file and those of its entities. -/
def IsOwn (file : ScannedFile) (o : ParseOutput) (id : String) : Prop :=
  id = file.entityId ∨ ∃ e ∈ o.entities, e.id = id

/-- The relationships that an output can bring into a graph: containments, and those that it gives. -/
def IsOwnLink (file : ScannedFile) (o : ParseOutput) (r : Relationship) : Prop :=
  (∃ s t, IsOwn file o s ∧ IsOwn file o t ∧ r = containment s t) ∨ r ∈ o.relationships

theorem isOwn_structuralParent (file : ScannedFile) (o : ParseOutput) (e : Entity) :
    IsOwn file o (structuralParent e file.entityId (classesOf o)) := by
  rcases structuralParent_cases e file.entityId (classesOf o) with h | ⟨c, hc, h⟩
  · exact .inl h
  · exact .inr ⟨c, (List.mem_filter.1 hc).1, h.symm⟩

/-- The whole graph `w` is the graph `g` with the part `p` at a path, where every id in question is one
    that only the part can know. -/
structure Overlay (own : String → Prop) (path : String) (g p w : Graph) : Prop where
  whole : Graph.Valid w
  part : Graph.Valid p
  known : ∀ id, own id → w.hasEntity id = p.hasEntity id
  located_eq : w.located path = p.entities
  others_eq : ∀ q, q ≠ path → w.located q = g.located q
  relationships_eq : w.relationships = g.relationships ++ p.relationships

namespace Overlay

variable {own : String → Prop} {path : String} {g p w : Graph}

/-- Inserting an entity of the file. -/
theorem insertEntity (h : Overlay own path g p w) {e : Entity} (hown : own e.id) (hpath : e.path = path) :
    Overlay own path g (p.insertEntity e) (w.insertEntity e) := by
  have hlocated : (w.insertEntity e).located path = (p.insertEntity e).entities ∧
      ∀ q, q ≠ path → (w.insertEntity e).located q = w.located q := by
    cases hp : p.hasEntity e.id with
    | false =>
        have hw : w.hasEntity e.id = false := (h.known e.id hown).trans hp
        have hnew := Graph.located_insertEntity_new w e hw
        rw [Graph.entities_insertEntity_new p e hp]
        exact ⟨by rw [hnew, if_pos hpath, h.located_eq],
          fun q hq => by rw [hnew, if_neg fun he => hq (he.symm.trans hpath), List.append_nil]⟩
    | true =>
        have hw : w.hasEntity e.id = true := (h.known e.id hown).trans hp
        -- the entity that is replaced lies in the file
        have hold : ∀ e' ∈ w.entities, e'.id = e.id → e'.path = e.path := fun e' he' hid => by
          obtain ⟨e₀, he₀, hid₀⟩ := (h.part.hasEntity_iff e.id).1 hp
          rw [← h.located_eq, Graph.mem_located_iff] at he₀
          rw [h.whole.entity_ext he' he₀.1 (hid.trans hid₀.symm), he₀.2, hpath]
        have hknown := Graph.located_insertEntity_known h.whole hw hold
        rw [Graph.entities_insertEntity_known h.part e hp]
        exact ⟨by rw [hknown, if_pos hpath, h.located_eq],
          fun q hq => by rw [hknown, if_neg fun he => hq (he.symm.trans hpath)]⟩
  refine ⟨h.whole.insertEntity e, h.part.insertEntity e, fun id hid => ?_, hlocated.1,
    fun q hq => (hlocated.2 q hq).trans (h.others_eq q hq), h.relationships_eq⟩
  rw [Graph.hasEntity_insertEntity, Graph.hasEntity_insertEntity, h.known id hid]

/-- Linking entities of the file by a relationship that the rest of the graph does not have. -/
theorem linkIfKnown (h : Overlay own path g p w) {r : Relationship} (hs : own r.source) (ht : own r.target)
    (hfree : ∀ r' ∈ g.relationships, r'.id ≠ r.id) :
    Overlay own path g (p.linkIfKnown r) (w.linkIfKnown r) := by
  have hends : w.knowsEnds r = p.knowsEnds r := by
    rw [Graph.knowsEnds, Graph.knowsEnds, h.known _ hs, h.known _ ht]
  have hnew : w.relationship? r.id = none ↔ p.relationship? r.id = none := by
    rw [h.whole.relationship?_eq_none_iff, h.part.relationship?_eq_none_iff, h.relationships_eq]
    simp only [List.mem_append, or_imp, forall_and]
    exact and_iff_right hfree
  refine ⟨h.whole.linkIfKnown r, h.part.linkIfKnown r, fun id hid => by simpa using h.known id hid, ?_,
    fun q hq => ?_, ?_⟩
  · rw [Graph.entities_linkIfKnown, ← h.located_eq, Graph.located, Graph.entities_linkIfKnown, Graph.located]
  · rw [← h.others_eq q hq, Graph.located, Graph.entities_linkIfKnown, Graph.located]
  · rw [Graph.relationships_linkIfKnown, Graph.relationships_linkIfKnown, h.relationships_eq, hends]
    simp only [hnew]
    split <;> simp

/-- Merging the entities of the file. -/
theorem mergeEntities {file : ScannedFile} {o : ParseOutput} (facts : Metadata)
    (hfree : ∀ r ∈ g.relationships, ∀ r', IsOwnLink file o r' → r.id ≠ r'.id) (es : List Entity) :
    ∀ {p w : Graph}, Overlay (IsOwn file o) path g p w → (∀ e ∈ es, e ∈ o.entities) →
      (∀ e ∈ es, e.path = path) →
      Overlay (IsOwn file o) path g (es.foldl (mergeEntity file facts (classesOf o)) p)
        (es.foldl (mergeEntity file facts (classesOf o)) w) := by
  induction es with
  | nil => intro p w h _ _; exact h
  | cons e rest ih =>
      intro p w h hmem hpath
      have hown : IsOwn file o e.id := .inr ⟨e, hmem e (List.mem_cons_self ..), rfl⟩
      have hp := hpath e (List.mem_cons_self ..)
      refine ih ?_ (fun e' he' => hmem e' (List.mem_cons_of_mem _ he'))
        (fun e' he' => hpath e' (List.mem_cons_of_mem _ he'))
      unfold mergeEntity
      split
      · exact h.insertEntity hown hp
      · have hparent := isOwn_structuralParent file o e
        exact (h.insertEntity hown hp).linkIfKnown hparent hown
          fun r hr => hfree r hr _ (.inl ⟨_, _, hparent, hown, rfl⟩)

/-- Linking by the relationships of the output. -/
theorem linkAll {file : ScannedFile} {o : ParseOutput}
    (hfree : ∀ r ∈ g.relationships, ∀ r', IsOwnLink file o r' → r.id ≠ r'.id) (hfit : o.LiesIn path)
    (rs : List Relationship) :
    ∀ {p w : Graph}, Overlay (IsOwn file o) path g p w → (∀ r ∈ rs, r ∈ o.relationships) →
      Overlay (IsOwn file o) path g (rs.foldl Graph.linkIfKnown p) (rs.foldl Graph.linkIfKnown w) := by
  induction rs with
  | nil => intro p w h _; exact h
  | cons r rest ih =>
      intro p w h hmem
      have hr := hmem r (List.mem_cons_self ..)
      have hs : IsOwn file o r.source := .inr (hfit.source_mem r hr)
      have ht : IsOwn file o r.target := .inr (hfit.target_mem r hr)
      exact ih (h.linkIfKnown hs ht fun r' hr' => hfree r' hr' _ (.inr hr))
        fun r' hr' => hmem r' (List.mem_cons_of_mem _ hr')

end Overlay

/-! ## Parts -/

/-- The graph of one file alone: its entity, with the output of its parser merged. -/
def part (file : ScannedFile) : Option ParseOutput → Graph
  | none => Graph.empty.insertEntity (fileEntity file.path file.size)
  | some o => mergeGraph (Graph.empty.insertEntity (fileEntity file.path file.size)) file o

/-- A graph of entities of one file, the file's own among them; the ids of its entities and its relationships are
    among the given ones. -/
structure IsPart (own : String → Prop) (ownLink : Relationship → Prop) (file : ScannedFile) (p : Graph) : Prop where
  valid : Graph.Valid p
  own_id : ∀ e ∈ p.entities, own e.id
  own_link : ∀ r ∈ p.relationships, ownLink r
  file_mem : p.hasEntity file.entityId = true
  path_eq : ∀ e ∈ p.entities, e.path = file.path

namespace IsPart

variable {own : String → Prop} {ownLink : Relationship → Prop} {file : ScannedFile} {p : Graph}

theorem insertEntity (h : IsPart own ownLink file p) {e : Entity} (hown : own e.id) (hpath : e.path = file.path) :
    IsPart own ownLink file (p.insertEntity e) where
  valid := h.valid.insertEntity e
  own_id e' he' := by
    rcases (Graph.mem_entities_insertEntity h.valid e e').1 he' with rfl | ⟨hmem, -⟩
    · exact hown
    · exact h.own_id e' hmem
  own_link := h.own_link
  file_mem := by rw [Graph.hasEntity_insertEntity, h.file_mem, Bool.or_true]
  path_eq e' he' := by
    rcases (Graph.mem_entities_insertEntity h.valid e e').1 he' with rfl | ⟨hmem, -⟩
    · exact hpath
    · exact h.path_eq e' hmem

theorem linkIfKnown (h : IsPart own ownLink file p) {r : Relationship} (hown : ownLink r) :
    IsPart own ownLink file (p.linkIfKnown r) where
  valid := h.valid.linkIfKnown r
  own_id e he := h.own_id e (by rwa [Graph.entities_linkIfKnown] at he)
  own_link r' hr' := by
    rcases Graph.mem_relationships_linkIfKnown hr' with hr' | rfl
    · exact h.own_link r' hr'
    · exact hown
  file_mem := by rw [Graph.hasEntity_linkIfKnown]; exact h.file_mem
  path_eq e he := h.path_eq e (by rwa [Graph.entities_linkIfKnown] at he)

/-- The graph of the bare file entity. -/
theorem bare (own : String → Prop) (ownLink : Relationship → Prop) {file : ScannedFile} (hown : own file.entityId)
    (hid : file.entityId = (fileEntity file.path file.size).id) : IsPart own ownLink file (part file none) := by
  have hmem : ∀ e ∈ (part file none).entities, e = fileEntity file.path file.size :=
    fun e he => by simpa using (Graph.mem_entities_insertEntity Graph.Valid.empty _ e).1 he
  refine ⟨Graph.Valid.empty.insertEntity _, fun e he => ?_, fun r hr => absurd hr (by simp [part]), ?_,
    fun e he => ?_⟩
  · rw [hmem e he, ← hid]; exact hown
  · rw [part, Graph.hasEntity_insertEntity, hid]
    simp
  · rw [hmem e he]; rfl

theorem mergeEntities {o : ParseOutput} (facts : Metadata) (hfit : o.LiesIn file.path) (es : List Entity) :
    ∀ {p : Graph}, IsPart (IsOwn file o) (IsOwnLink file o) file p → (∀ e ∈ es, e ∈ o.entities) →
      IsPart (IsOwn file o) (IsOwnLink file o) file (es.foldl (mergeEntity file facts (classesOf o)) p) := by
  induction es with
  | nil => intro p h _; exact h
  | cons e rest ih =>
      intro p h hmem
      have he := hmem e (List.mem_cons_self ..)
      have hown : IsOwn file o e.id := .inr ⟨e, he, rfl⟩
      refine ih ?_ fun e' he' => hmem e' (List.mem_cons_of_mem _ he')
      unfold mergeEntity
      split
      · exact h.insertEntity hown (hfit.path_eq e he)
      · exact (h.insertEntity hown (hfit.path_eq e he)).linkIfKnown
          (.inl ⟨_, _, isOwn_structuralParent file o e, hown, rfl⟩)

theorem linkAll {o : ParseOutput} (rs : List Relationship) :
    ∀ {p : Graph}, IsPart own (IsOwnLink file o) file p → (∀ r ∈ rs, r ∈ o.relationships) →
      IsPart own (IsOwnLink file o) file (rs.foldl Graph.linkIfKnown p) := by
  induction rs with
  | nil => intro p h _; exact h
  | cons r rest ih =>
      intro p h hmem
      exact ih (h.linkIfKnown (.inr (hmem r (List.mem_cons_self ..))))
        fun r' hr' => hmem r' (List.mem_cons_of_mem _ hr')

end IsPart

/-- The part of a file with an output in that file is one. -/
theorem isPart_part (file : ScannedFile) (hid : file.entityId = (fileEntity file.path file.size).id)
    {o : ParseOutput} (hfit : o.LiesIn file.path) :
    IsPart (IsOwn file o) (IsOwnLink file o) file (part file (some o)) :=
  ((IsPart.bare _ _ (.inl rfl) hid).mergeEntities _ hfit _ fun _ he => he).linkAll _ fun _ hr => hr

/-- While entities are merged, an entity was there before or is one of those, up to the facts that are recorded. -/
theorem mem_mergeEntities {file : ScannedFile} {facts : Metadata} {classes : List Entity} {e : Entity}
    (es : List Entity) :
    ∀ {g : Graph}, Graph.Valid g → e ∈ (es.foldl (mergeEntity file facts classes) g).entities →
      e ∈ g.entities ∨ ∃ x ∈ es, ∃ m, e = { x with metadata := m } := by
  induction es with
  | nil => intro g _ he; exact .inl he
  | cons x rest ih =>
      intro g h he
      have hmerged : Graph.Valid (mergeEntity file facts classes g x) ∧
          (e ∈ (mergeEntity file facts classes g x).entities → e ∈ g.entities ∨ ∃ m, e = { x with metadata := m }) := by
        unfold mergeEntity
        split
        · exact ⟨h.insertEntity _, fun hmem => ((Graph.mem_entities_insertEntity h _ e).1 hmem).elim
            (fun heq => .inr ⟨_, heq⟩) fun hmem => .inl hmem.1⟩
        · refine ⟨(h.insertEntity x).linkIfKnown _, fun hmem => ?_⟩
          rw [Graph.entities_linkIfKnown, Graph.mem_entities_insertEntity h] at hmem
          exact hmem.elim (fun heq => .inr ⟨x.metadata, heq⟩) fun hmem => .inl hmem.1
      rcases ih hmerged.1 he with hmem | ⟨y, hy, hm⟩
      · exact (hmerged.2 hmem).imp_right fun hm => ⟨x, List.mem_cons_self .., hm⟩
      · exact .inr ⟨y, List.mem_cons_of_mem _ hy, hm⟩

/-- The entities of a part are that of the file and those of the output, up to the facts that are recorded. -/
theorem mem_part {file : ScannedFile} {o : ParseOutput} {e : Entity} (he : e ∈ (part file (some o)).entities) :
    e = fileEntity file.path file.size ∨ ∃ x ∈ o.entities, ∃ m, e = { x with metadata := m } := by
  have hents : (part file (some o)).entities = _ := Graph.entities_linkAll _ _
  rw [hents] at he
  refine (mem_mergeEntities o.entities (Graph.Valid.empty.insertEntity _) he).imp_left fun hmem => ?_
  simpa using (Graph.mem_entities_insertEntity Graph.Valid.empty _ e).1 hmem

end Build

/-! ## Merging into what a graph shows -/

namespace Graph.Shows

open Build

variable {g : Graph} {atPath : String → List Entity} {links crossing : Relationship → Prop} {file : ScannedFile}
  {o : ParseOutput}

/-- A merge lays the part of the file over the graph. -/
theorem overlay (h : Shows g atPath links crossing) (hid : file.entityId = (fileEntity file.path file.size).id)
    (hbare : atPath file.path = [fileEntity file.path file.size]) (hfit : o.LiesIn file.path)
    (hsep : ∀ e ∈ o.entities, ∀ e' ∈ g.entities, e'.id = e.id → e'.path = file.path)
    (hfree : ∀ r ∈ g.relationships, ∀ r', IsOwnLink file o r' → r.id ≠ r'.id) :
    Overlay (IsOwn file o) file.path g (part file (some o)) (mergeGraph g file o) := by
  have hmem : fileEntity file.path file.size ∈ g.entities := h.mem_of_mem_at (by rw [hbare]; simp)
  have honly : ∀ e ∈ g.entities, e.path = file.path → e = fileEntity file.path file.size := fun e he hp => by
    have hat := (h.mem_entities_iff e).1 he
    rw [hp, hbare] at hat
    simpa using hat
  have hentity : g.entity? file.entityId = some (fileEntity file.path file.size) :=
    (h.valid.entity?_eq_some_iff _ _).2 ⟨hmem, hid.symm⟩
  have hfacts : scannedFacts g file = scannedFacts (part file none) file := by
    rw [scannedFacts, scannedFacts, hentity, part, entity?_insertEntity, if_pos hid]
  have hstart : Overlay (IsOwn file o) file.path g (part file none) g := by
    refine ⟨h.valid, Valid.empty.insertEntity _, fun id hown => ?_, ?_, fun _ _ => rfl, ?_⟩
    · rw [part, hasEntity_insertEntity, Bool.eq_iff_iff, h.valid.hasEntity_iff]
      constructor
      · rintro ⟨e', he', rfl⟩
        have hp : e'.path = file.path := by
          rcases hown with hfid | ⟨e, he, heid⟩
          · rw [h.valid.entity_ext he' hmem (hfid.trans hid)]; rfl
          · exact hsep e he e' he' heid.symm
        simp [honly e' he' hp]
      · intro hknown
        have hfid : id = (fileEntity file.path file.size).id := by
          simpa using hknown
        exact ⟨_, hmem, hfid.symm⟩
    · rw [h.located_eq, hbare]
      rfl
    · exact (List.append_nil _).symm
  unfold mergeGraph part
  rw [hfacts]
  exact (hstart.mergeEntities _ hfree o.entities (fun _ he => he) hfit.path_eq).linkAll hfree hfit
    o.relationships fun _ hr => hr

/-- **A merge adds the part of its file,** and nothing else. -/
theorem merge (h : Shows g atPath links crossing) (hid : file.entityId = (fileEntity file.path file.size).id)
    (hbare : atPath file.path = [fileEntity file.path file.size]) (hfit : o.LiesIn file.path)
    (hover : Overlay (IsOwn file o) file.path g (part file (some o)) (mergeGraph g file o)) :
    Shows (mergeGraph g file o)
      (fun p => if p = file.path then (part file (some o)).entities else atPath p)
      (fun r => links r ∨ r ∈ (part file (some o)).relationships) crossing := by
  have hpart := isPart_part file hid hfit
  -- the entity of the file may be replaced, but stays under its id at its path
  have hkeep : ∀ e ∈ g.entities, ∃ e' ∈ (mergeGraph g file o).entities, e'.id = e.id ∧ e'.path = e.path := by
    intro e he
    by_cases hp : e.path = file.path
    · have hat := (h.mem_entities_iff e).1 he
      rw [hp, hbare, List.mem_singleton] at hat
      obtain ⟨e', he', hid'⟩ := (hpart.valid.hasEntity_iff _).1 hpart.file_mem
      rw [← hover.located_eq, mem_located_iff] at he'
      exact ⟨e', he'.1, by rw [hid', hid, hat], by rw [he'.2, hp]⟩
    · refine ⟨e, ?_, rfl, rfl⟩
      rw [Graph.mem_entities_iff, hover.others_eq _ hp]
      exact (Graph.mem_entities_iff g e).1 he
  refine ⟨hover.whole, fun p => ?_, fun r => ?_, fun r hr => (h.crosses r hr).mono fun e he _ => hkeep e he⟩
  · split
    · next hp => rw [hp, hover.located_eq]
    · next hp => rw [hover.others_eq p hp, h.located_eq]
  · rw [hover.relationships_eq, List.mem_append, h.mem_relationships_iff, or_right_comm]

end Graph.Shows

end CodeAtlas
