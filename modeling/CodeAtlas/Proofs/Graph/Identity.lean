import CodeAtlas.Proofs.Graph.Run
import CodeAtlas.Proofs.Ids

set_option autoImplicit false

/-! # What a graph takes for the same

A graph knows its entities and relationships by their ids: an entity takes the place of the one of its id, and a
relationship whose id is known is not added. Ids are put together from fields that may hold what parts them, so that
different entities, or different relationships, can have one id. `Graph.additions_collide_iff` says exactly which do,
for every graph that changes lead to. -/

namespace CodeAtlas

/-- Does a relationship have the id that its source, kind and target give? -/
def Relationship.Formed (r : Relationship) : Prop :=
  r.id = relationshipId r.source r.kind.name r.target

instance : DecidablePred Relationship.Formed := fun r =>
  inferInstanceAs (Decidable (r.id = relationshipId r.source r.kind.name r.target))

/-! ## Alike ids -/

/-- Entities that their ids do not tell apart. -/
structure Entity.Blurs (a e : Entity) : Prop where
  kind_eq : a.kind = e.kind
  place_eq : a.path ++ ":" ++ a.name = e.path ++ ":" ++ e.name
  line_eq : Number.text a.startLine = Number.text e.startLine

theorem Entity.Formed.id_eq_iff {a e : Entity} (ha : a.Formed) (he : e.Formed) : a.id = e.id ↔ a.Blurs e := by
  rw [ha, he, entityId_eq_iff]
  exact ⟨fun ⟨hkind, hplace, hline⟩ => ⟨hkind, hplace, hline⟩, fun h => ⟨h.kind_eq, h.place_eq, h.line_eq⟩⟩

theorem Entity.Formed.isEntityId {e : Entity} (h : e.Formed) : IsEntityId e.id := ⟨_, _, _, _, h⟩

/-- Do two relationships link the same entities in the same way? -/
def Relationship.SameLink (r r' : Relationship) : Prop := r.source = r'.source ∧ r.kind = r'.kind ∧ r.target = r'.target

/-- The source of the second is the id of a relationship that leaves the source of the first, and the target of the
    first is the id of one that enters the target of the second. -/
def Relationship.RunsInto (r r' : Relationship) : Prop :=
  ∃ mid, r'.source = relationshipId r.source r.kind.name mid ∧ r.target = relationshipId mid r'.kind.name r'.target

theorem Relationship.Formed.id_eq_iff {r r' : Relationship} (hr : r.Formed) (hr' : r'.Formed)
    (ht : IsEntityId r.target) (ht' : IsEntityId r'.target) :
    r.id = r'.id ↔ r.SameLink r' ∨ r.RunsInto r' ∨ r'.RunsInto r := by
  rw [hr, hr']
  exact relationshipId_eq_iff ht ht' r.kind r'.kind

/-- One relationship running into another does not link the same entities. -/
theorem Relationship.RunsInto.not_sameLink {r r' : Relationship} (h : r.RunsInto r') : ¬ r.SameLink r' := by
  obtain ⟨mid, hsource, -⟩ := h
  intro hsame
  have hlength := congrArg String.length (hsame.1.trans hsource)
  have hblank : " -".length = 2 := rfl
  simp only [relationshipId, String.length_append, hblank] at hlength
  omega

theorem Relationship.SameLink.symm {r r' : Relationship} (h : r.SameLink r') : r'.SameLink r :=
  ⟨h.1.symm, h.2.1.symm, h.2.2.symm⟩

namespace Graph

/-- Do all entities and relationships have the ids that their fields give? -/
structure Formed (g : Graph) : Prop where
  entities : ∀ e ∈ g.entities, e.Formed
  relationships : ∀ r ∈ g.relationships, r.Formed

/-! ## Additions -/

theorem notMem_entities_insertEntity_iff {g : Graph} (h : Valid g) {a : Entity} (ha : a ∈ g.entities) (e : Entity) :
    a ∉ (g.insertEntity e).entities ↔ a ≠ e ∧ a.id = e.id := by
  rw [mem_entities_insertEntity h]
  simp [ha]

/-- The target of a relationship that is known or can be added is an entity. -/
theorem Formed.isEntityId {g : Graph} (hf : g.Formed) (h : Valid g) {id : String} (hid : g.hasEntity id = true) :
    IsEntityId id := by
  obtain ⟨e, he, rfl⟩ := (h.hasEntity_iff id).1 hid
  exact (hf.entities e he).isEntityId

/-- **What a graph takes for the same.** In a graph that changes lead to and whose ids are those its fields give, an
    added entity takes the place of a different one exactly if the two are of one kind, their lines have one text, and
    their paths and names come to the same once a colon is put between them. An added relationship between known
    entities is answered by one of other ends or another kind exactly if of the two one runs into the other. The ids
    alike for these reasons are the only alike ones, and lines below `2^53` of one text are one line. -/
theorem additions_collide_iff {changes : List Change} {g : Graph} (hrun : run changes = .ok g) (hf : g.Formed) :
    (∀ k k' p p' n n' l l', entityId k p n l = entityId k' p' n' l' ↔
      k = k' ∧ p ++ ":" ++ n = p' ++ ":" ++ n' ∧ Number.text l = Number.text l') ∧
    (∀ l l' : Nat, l < Number.Binary.limit → l' < Number.Binary.limit → (Number.text l = Number.text l' ↔ l = l')) ∧
    (∀ s s' t t', IsEntityId t → IsEntityId t' → ∀ k k' : RelationKind,
      (relationshipId s k.name t = relationshipId s' k'.name t' ↔
        (s = s' ∧ k = k' ∧ t = t') ∨
        (∃ u, s' = relationshipId s k.name u ∧ t = relationshipId u k'.name t') ∨
        (∃ u, s = relationshipId s' k'.name u ∧ t' = relationshipId u k.name t))) ∧
    (∀ e : Entity, e.Formed → ∃ g', g.addEntity e = .ok g' ∧
      ∀ a ∈ g.entities, a ∉ g'.entities ↔ a ≠ e ∧ a.Blurs e) ∧
    (∀ r : Relationship, r.Formed → g.knowsEnds r = true → ∃ g' known, g.addRelationship r = .ok (g', .ok known) ∧
      (¬ known.SameLink r ↔ ∃ r' ∈ g.relationships, r'.RunsInto r ∨ r.RunsInto r')) := by
  obtain ⟨g₀, hrun', h, hopen⟩ := run_spec changes Valid.empty rfl
  obtain rfl : g₀ = g := Except.ok.inj (hrun'.symm.trans hrun)
  refine ⟨entityId_eq_iff, fun l l' => Number.text_natCast_inj, fun s s' t t' => relationshipId_eq_iff,
    fun e he => ⟨g₀.insertEntity e, by simp [addEntity, whileOpen, hopen], fun a ha => ?_⟩, fun r hr hends => ?_⟩
  · rw [notMem_entities_insertEntity_iff h ha, (hf.entities a ha).id_eq_iff he]
  · have hends' := hends
    simp only [knowsEnds, Bool.and_eq_true] at hends'
    have hcollides (r' : Relationship) (hr' : r' ∈ g₀.relationships) :
        r'.id = r.id ↔ r'.SameLink r ∨ r'.RunsInto r ∨ r.RunsInto r' :=
      (hf.relationships r' hr').id_eq_iff hr (hf.isEntityId h (h.target_known r' hr')) (hf.isEntityId h hends'.2)
    rcases link_cases g₀ r with ⟨hno, -⟩ | ⟨-, known, hknown, hlink⟩ | ⟨-, hnew, hlink⟩
    · exact absurd hends (by simp [hno])
    · -- a relationship of this id is known
      obtain ⟨hmem, hid⟩ := (h.relationship?_eq_some_iff r.id known).1 hknown
      refine ⟨g₀, known, by simp only [addRelationship, whileOpen, hopen, hlink]; rfl, fun hother => ?_, ?_⟩
      · exact ⟨known, hmem, ((hcollides known hmem).1 hid).resolve_left hother⟩
      · rintro ⟨r', hr', hruns⟩ hsame
        have hid' : r'.id = r.id := (hcollides r' hr').2 (.inr hruns)
        obtain rfl := h.relationship_ext hr' hmem (hid'.trans hid.symm)
        exact hruns.elim (·.not_sameLink hsame) (·.not_sameLink hsame.symm)
    · -- the id is new
      refine ⟨g₀.append r, r, by simp only [addRelationship, whileOpen, hopen, hlink]; rfl, ?_⟩
      have hfresh := (h.relationship?_eq_none_iff r.id).1 hnew
      constructor
      · exact fun hother => absurd ⟨rfl, rfl, rfl⟩ hother
      · rintro ⟨r', hr', hruns⟩
        exact absurd ((hcollides r' hr').2 (.inr hruns)) (hfresh r' hr')

/-! ## Names that go on where paths end -/

/-- An entity of one line. -/
def onLineOne (kind : EntityKind) (path name : String) : Entity := .create ⟨kind, path, name, 1, 1, none, none, []⟩

/-- A rule of `a.css`, with a selector that could begin with the rest of a path. -/
def longRule : Entity := onLineOne .styleRule "a.css" "b.css:hover"

/-- A rule of `a.css:b.css`. -/
def shortRule : Entity := onLineOne .styleRule "a.css:b.css" "hover"

/-- A link from `a` to a file whose name could go on with another link. -/
def longTarget : Relationship := .create "file:a:a:1" .contains "file:b:b:1 -contains-> file:c:c:1"

/-- A link to `c` from a file whose name could go on with another link. -/
def longSource : Relationship := .create "file:a:a:1 -contains-> file:b:b:1" .contains "file:c:c:1"

/-- The long rule, and the link with the long target between the four files. -/
def longChanges : List Change :=
  [.addEntity longRule, .addEntity (onLineOne .file "a" "a"), .addEntity (onLineOne .file "c" "c"),
    .addEntity (onLineOne .file "a" "a:1 -contains-> file:b:b"),
    .addEntity (onLineOne .file "b" "b:1 -contains-> file:c:c"), .addRelationship longTarget]

/-- The short rule takes the place of the long one, and the second link is answered by the first. -/
theorem longChanges_collide : ∃ g, run longChanges = .ok g ∧ g.Formed ∧
    (∃ g', g.addEntity shortRule = .ok g' ∧ longRule ∉ g'.entities) ∧
    ∃ g' known, g.addRelationship longSource = .ok (g', .ok known) ∧ ¬ known.SameLink longSource := by
  obtain ⟨g, hg⟩ : ∃ g, run longChanges = .ok g := ⟨_, rfl⟩
  obtain ⟨hf, hrule, hlink, hends⟩ :
      g.Formed ∧ longRule ∈ g.entities ∧ longTarget ∈ g.relationships ∧ g.knowsEnds longSource = true := by
    cases hg
    refine ⟨⟨?_, ?_⟩, List.mem_cons_self, List.mem_cons_self, by decide⟩
    · show ∀ e ∈ [_, _, _, _, _], Entity.Formed e
      decide
    · show ∀ r ∈ [_], Relationship.Formed r
      decide
  obtain ⟨-, -, -, hentities, hrelationships⟩ := additions_collide_iff hg hf
  obtain ⟨g', hadd, hreplaced⟩ := hentities shortRule rfl
  obtain ⟨g'', known, hanswer, hother⟩ := hrelationships longSource rfl hends
  exact ⟨g, hg, hf, ⟨g', hadd, (hreplaced longRule hrule).2 ⟨by decide, ⟨rfl, by decide, rfl⟩⟩⟩,
    g'', known, hanswer, hother.2 ⟨longTarget, hlink, .inl ⟨"file:b:b:1", by decide, by decide⟩⟩⟩

end Graph

end CodeAtlas
