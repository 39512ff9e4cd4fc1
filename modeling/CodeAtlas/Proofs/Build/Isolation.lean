import CodeAtlas.Proofs.Build.Containment
import CodeAtlas.Proofs.Build.RefreshLinks
import Mathlib.Data.List.Find

set_option autoImplicit false

/-! # What a failed file leaves alone

A parser that reports errors leaves its file as the scan found it. Two builds of one tree are compared, whose parsers
differ on one file only: in the first one the parser fails there, in the second one it may give anything. Both graphs
show one inventory but for the part of that file (`FailsOn.output?_eq`), so entities elsewhere are the same and so are
containments and relationships that stay inside a path. Discovery sees the file by its path and its id. A file entity
stands at the path in both builds, so the references of other files to other files are found alike, and those to the
failed file too as long as no other entity of kind file hides the one of the scan (`KeepsTarget`). -/

namespace CodeAtlas

/-! ## Targets of references -/

namespace Link

variable {extensions : List String} {root : String}

/-- The kinds of the relationships that references of files become. -/
def fileKinds : List RelationKind := fileReferences.map (·.2)

theorem kind_notMem_of_mem_symbolReferencesAt {files : Dict String Entity} {symbols : Dict String (List Entity)}
    {path : String} {r : Relationship} (h : r ∈ symbolReferencesAt extensions root files symbols path) :
    r.kind ∉ fileKinds := by
  unfold symbolReferencesAt at h
  split at h
  · exact absurd h (by simp)
  · simp only [symbolLinks, List.mem_flatMap, List.mem_filterMap] at h
    obtain ⟨e, -, key, -, name, -, hr⟩ := h
    split at hr
    · exact absurd hr (by simp)
    · obtain ⟨target, -, rfl⟩ := Option.map_eq_some_iff.1 hr
      cases key <;> simp [Relationship.create, ReferenceKey.relation, fileKinds, fileReferences]

/-- What a reference leads to is seen alike where the files at all paths are. -/
theorem map_resolveReference {α : Type} (view : Entity → α) {files files' : Dict String Entity}
    (h : ∀ q, (files.get? q).map view = (files'.get? q).map view) (source : Entity) (reference : String) :
    (resolveReference extensions files root source reference).map view
      = (resolveReference extensions files' root source reference).map view := by
  unfold resolveReference
  cases specifier? reference (source.metadata.stringValue? "language") with
  | none => rfl
  | some s =>
      simp only [List.map_findSome?]
      congr 1
      exact funext h

/-- The references of a file to a target depend on what the file is and on which paths have the target. -/
theorem filter_fileReferencesAt_congr {files files' : Dict String Entity} {path : String} (t : String)
    (hsource : files.get? path = files'.get? path)
    (htargets : ∀ q, (files.get? q).map (fun e => decide (e.id = t)) = (files'.get? q).map fun e => decide (e.id = t)) :
    (fileReferencesAt extensions root files path).filter (·.target = t)
      = (fileReferencesAt extensions root files' path).filter (·.target = t) := by
  unfold fileReferencesAt linksAt
  rw [← hsource]
  cases files.get? path with
  | none => rfl
  | some f =>
      simp only [fileLinks, List.map_flatMap, List.map_filterMap, List.filter_flatMap, List.filter_filterMap]
      refine List.flatMap_congr fun key _ => List.filterMap_congr fun reference _ => ?_
      have hview := @map_resolveReference extensions root _ (fun e => decide (e.id = t)) files files' htargets f
        reference
      cases hr : resolveReference extensions files root f reference with
      | none =>
          rw [hr, Option.map_none, eq_comm, Option.map_eq_none_iff] at hview
          rw [hview]
      | some target =>
          rw [hr, Option.map_some, eq_comm, Option.map_eq_some_iff] at hview
          obtain ⟨target', hr', hview⟩ := hview
          rw [decide_eq_decide] at hview
          by_cases ht : target.id = t
          · simp only [hr', ht, hview.2 ht]
            split <;> rfl
          · have ht' : target'.id ≠ t := fun h => ht (hview.1 h)
            simp only [hr']
            split <;> split <;> simp [Option.filter, Relationship.create, ht, ht']

theorem source_of_mem_fileReferencesAt {files : Dict String Entity} {path : String} {r : Relationship}
    (h : r ∈ fileReferencesAt extensions root files path) :
    (files.get? path).map (·.id) = some r.source ∧ r.id = relationshipId r.source r.kind.name r.target := by
  obtain ⟨link, hlink, rfl⟩ := List.mem_map.1 h
  unfold linksAt at hlink
  split at hlink
  · exact absurd hlink (by simp)
  · next f hf =>
      simp only [fileLinks, List.mem_flatMap, List.mem_filterMap] at hlink
      obtain ⟨⟨key, kind⟩, -, reference, -, hlink⟩ := hlink
      split at hlink
      · exact absurd hlink (by simp)
      · split at hlink
        · exact absurd hlink (by simp)
        · obtain rfl := Option.some.inj hlink
          exact ⟨by rw [hf]; rfl, rfl⟩

/-- Among the references of a file, the last one of an id is the last one of the id to that target. -/
theorem lastWith_filter_target {files : Dict String Entity} {path : String} {r : Relationship}
    (hsource : (files.get? path).map (·.id) = some r.source)
    (hid : r.id = relationshipId r.source r.kind.name r.target) :
    lastWith ((fileReferencesAt extensions root files path).filter (·.target = r.target)) r.id
      = lastWith (fileReferencesAt extensions root files path) r.id := by
  rw [lastWith, lastWith, ← List.filter_reverse, List.find?_filter]
  refine List.find?_congr fun x hx => ?_
  obtain ⟨hx, hxid⟩ := source_of_mem_fileReferencesAt (List.mem_reverse.1 hx)
  simp only [decide_eq_true_eq, decide_eq_decide, and_iff_right_iff_imp]
  rw [hxid, hid, Option.some.inj (hx.symm.trans hsource)]
  exact fun h => (relationshipId_inj h).2

end Link

/-! ## One file less -/

namespace Build

open CodeAtlas.Scan CodeAtlas.Path CodeAtlas.Graph

section

variable {root : String} {I : Inventory} {g : Graph} {crossing : Relationship → Prop}

/-- The id of what refers tells the path that it leaves. -/
theorem path_eq_of_refersFrom (hsep : I.Separate root) (h : I.ShownIn root g crossing) {p q : String} {b c : Bool}
    {r r' : Relationship} (hr : Link.RefersFrom g.entities p b r) (hr' : Link.RefersFrom g.entities q c r')
    (hid : r.id = r'.id) : p = q := by
  obtain ⟨-, hrid, x, hx, y, hy, hxs, hyt, rfl, -⟩ := hr
  obtain ⟨-, hrid', x', hx', y', hy', hxs', hyt', rfl, -⟩ := hr'
  obtain ⟨a, ha, hax⟩ := exists_piece_of_mem_entities hsep h hx
  obtain ⟨b, hb, hby⟩ := exists_piece_of_mem_entities hsep h hy
  obtain ⟨a', ha', hax'⟩ := exists_piece_of_mem_entities hsep h hx'
  obtain ⟨b', hb', hby'⟩ := exists_piece_of_mem_entities hsep h hy'
  rw [← hxs, ← hyt, ← hax, ← hby] at hrid
  rw [← hxs', ← hyt', ← hax', ← hby'] at hrid'
  exact hsep.path_of_link (.inl ⟨_, a, b, _, ha, hb, hrid⟩) (.inl ⟨_, a', b', _, ha', hb', hid.trans hrid'⟩)

/-- Ids tell the entity of a file from its symbols: no symbol has the id of the file, and no relationship of a symbol
    has the id of one of a file entity. -/
structure Inventory.TellsFiles (root : String) (I : Inventory) : Prop where
  kind_of_id : ∀ {p n e}, I.found? p = some (some n) → e ∈ I.located root p → e.id = (fileEntity p n).id →
    e.kind = .file
  id_ne : ∀ {p q q' a b a' b'} {k k' : RelationKind}, a ∈ I.located root p → a' ∈ I.located root p →
    a.kind = .file → a'.kind ≠ .file → I.Piece root q b → I.Piece root q' b' →
    relationshipId a.id k.name b.id ≠ relationshipId a'.id k'.name b'.id

/-- Ids that are made of the fields of entities do. -/
theorem Inventory.tellsFiles_of_formed (hformed : ∀ path n o, I.found? path = some (some n) →
    I.output? path = some o → ∀ e ∈ o.entities, e.Formed) : I.TellsFiles root := by
  have hlocated : ∀ p, ∀ e ∈ I.located root p, e.Formed := fun p e he => by
    unfold located at he
    split at he
    · exact absurd he (by simp)
    · rw [List.mem_singleton.1 he]
      rfl
    · next n hn =>
        obtain rfl | ⟨o, x, m, ho, hx, rfl⟩ := mem_part_cases he
        · rfl
        · exact hformed p n o hn ho x hx
  refine ⟨fun {p n e} _ he hid => ?_, fun {p _ _ a _ a' _ _ _} ha ha' hkind hkind' _ _ hid => ?_⟩
  · have hfile : (fileEntity p n).Formed := rfl
    exact (hlocated p e he).kind_eq hfile hid
  · exact hkind' (((hlocated p a ha).kind_eq_of_link (hlocated p a' ha') hid).symm.trans hkind)

theorem Inventory.TellsFiles.unparsed {path : String} {n : Nat} (h : I.TellsFiles root)
    (hn : I.found? path = some (some n)) : (I.unparsed [path]).TellsFiles root := by
  -- in the file there is nothing but its own entity, and elsewhere everything is as before
  have hcases : ∀ p, ∀ e ∈ (I.unparsed [path]).located root p,
      e = fileEntity path n ∨ e ∈ I.located root p ∧ p ≠ path := fun p e he => by
    by_cases hp : p = path
    · subst hp
      rw [located_unparsed_bare hn, List.mem_singleton] at he
      exact .inl he
    · rw [located_unparsed_cons hp, Inventory.unparsed_nil] at he
      exact .inr ⟨he, hp⟩
  refine ⟨fun {p _ e} hp he hid => ?_, fun {p _ _ a _ a' _ _ _} ha ha' hkind hkind' hb hb' => ?_⟩
  · obtain rfl | ⟨he, -⟩ := hcases p e he
    · rfl
    · exact h.kind_of_id hp he hid
  · obtain rfl | ⟨ha', hp⟩ := hcases p a' ha'
    · exact absurd rfl hkind'
    · rw [located_unparsed_cons hp, Inventory.unparsed_nil] at ha
      exact h.id_ne ha ha' hkind hkind' hb.of_unparsed hb'.of_unparsed

/-- What a symbol refers to has another id than what a file refers to. -/
theorem id_ne_of_refersFrom (hsep : I.Separate root) (hfiles : I.TellsFiles root) (h : I.ShownIn root g crossing)
    {p q : String} {r r' : Relationship} (hr : Link.RefersFrom g.entities p true r)
    (hr' : Link.RefersFrom g.entities q false r') : r.id ≠ r'.id := by
  intro hid
  obtain rfl := path_eq_of_refersFrom hsep h hr hr' hid
  obtain ⟨-, hrid, x, hx, y, hy, hxs, hyt, hxp, -, hxk⟩ := hr
  obtain ⟨-, hrid', x', hx', y', hy', hxs', hyt', hxp', -, hxk'⟩ := hr'
  obtain ⟨b, hb, hby⟩ := exists_piece_of_mem_entities hsep h hy
  obtain ⟨b', hb', hby'⟩ := exists_piece_of_mem_entities hsep h hy'
  rw [← hxs, ← hyt, ← hby] at hrid
  rw [← hxs', ← hyt', ← hby'] at hrid'
  have hlocated : ∀ e ∈ g.entities, e.path = p → e ∈ I.located root p := fun e he hp => by
    rw [← h.located_eq]
    exact (mem_located_iff g p e).2 ⟨he, hp⟩
  exact hfiles.id_ne (hlocated x hx hxp) (hlocated x' hx' hxp') (of_decide_eq_true hxk) (of_decide_eq_false hxk')
    hb hb' (hrid.symm.trans (hid.trans hrid'))

/-- Of the kinds that references of files become, discovery finds the last one of its id among the references of a
    file. -/
theorem mem_discover_file_iff (hsep : I.Separate root) (hfiles : I.TellsFiles root) (h : I.ShownIn root g crossing)
    {extensions : List String} {r : Relationship} (hr : r.kind ∈ Link.fileKinds) :
    r ∈ Link.discover extensions g.entities root ↔ ∃ path,
      Link.lastWith (Link.fileReferencesAt extensions root (Link.filesOf g.entities) path) r.id = some r := by
  have hlast : ∀ {path}, r ∈ Link.fileReferencesAt extensions root (Link.filesOf g.entities) path →
      Link.lastWith (Link.references extensions root g.entities) r.id
        = Link.lastWith (Link.fileReferencesAt extensions root (Link.filesOf g.entities) path) r.id := by
    intro path hmem
    have hfrom := Link.mem_fileReferencesAt hmem
    refine Link.lastWith_references_of_ne hmem (fun q hq r' hr' hid => hq ?_) fun q r' hr' hid => ?_
    · exact path_eq_of_refersFrom hsep h (Link.mem_fileReferencesAt hr') hfrom hid
    · exact id_ne_of_refersFrom hsep hfiles h hfrom (Link.mem_symbolReferencesAt hr') hid.symm
  rw [Link.mem_discover_iff]
  constructor
  · intro hfound
    obtain ⟨path, hmem | hmem⟩ := Link.mem_references (Link.mem_of_lastWith hfound).1
    · exact ⟨path, hlast hmem ▸ hfound⟩
    · exact absurd hr (Link.kind_notMem_of_mem_symbolReferencesAt hmem)
  · rintro ⟨path, hfound⟩
    exact (hlast (Link.mem_of_lastWith hfound).1).trans hfound

end

/-! ## Inventories with the file parsed and without -/

section

variable {root : String} {I : Inventory} {g g' : Graph} {crossing crossing' : Relationship → Prop} {path : String}
  {n : Nat}

/-- Does a relationship start or end at a symbol of the file at the path: an entity of it other than its own? -/
def TouchesSymbols (g : Graph) (path fileId : String) (r : Relationship) : Prop :=
  ∃ e ∈ g.entities, e.path = path ∧ e.id ≠ fileId ∧ (e.id = r.source ∨ e.id = r.target)

/-- Is a target an entity of another path, or is at the path no file entity but that of the id? -/
def KeepsTarget (g : Graph) (path fileId t : String) : Prop :=
  (∃ e ∈ g.entities, e.id = t ∧ e.path ≠ path) ∨ ∀ e ∈ g.entities, e.path = path → e.kind = .file → e.id = fileId

theorem hasLink_iff_unparsed (hn : I.found? path = some (some n)) (r : Relationship) : I.HasLink root r ↔
    (I.unparsed [path]).HasLink root r ∨ r ∈ (part (scannedFile root path n) (I.output? path)).relationships := by
  rw [← hasLink_unparsed_iff (List.not_mem_nil (a := path)) hn r, Inventory.unparsed_nil]

section Shown

variable (hsep : I.Separate root) (hn : I.found? path = some (some n))
  (hg : (I.unparsed [path]).ShownIn root g crossing) (hg' : I.ShownIn root g' crossing')

include hg hg'

theorem located_elsewhere {q : String} (hq : q ≠ path) : g.located q = g'.located q := by
  rw [hg.located_eq, hg'.located_eq, located_unparsed_cons hq, Inventory.unparsed_nil]

/-- Elsewhere the entities are the same. -/
theorem mem_entities_elsewhere {e : Entity} (he : e.path ≠ path) : e ∈ g.entities ↔ e ∈ g'.entities := by
  rw [Graph.mem_entities_iff, Graph.mem_entities_iff, located_elsewhere hg hg' he]

omit hg' in
include hn in
/-- In the file there is nothing but the entity of the scan. -/
theorem mem_entities_bare (e : Entity) : e ∈ g.entities ∧ e.path = path ↔ e = fileEntity path n := by
  rw [← mem_located_iff, hg.located_eq, located_unparsed_bare hn, List.mem_singleton]

include hsep hn in
/-- Every entity has a counterpart of the same id and path where the file is parsed. -/
theorem exists_counterpart {e : Entity} (he : e ∈ g.entities) :
    ∃ e' ∈ g'.entities, e'.id = e.id ∧ e'.path = e.path := by
  by_cases hp : e.path = path
  · have hpart := Inventory.isPart hsep hn
    obtain ⟨e', he', hid⟩ := (hpart.valid.hasEntity_iff _).1 hpart.file_mem
    have hat : e' ∈ I.located root path := by rwa [Inventory.located_file hn]
    rw [(mem_entities_bare hn hg e).1 ⟨he, hp⟩]
    exact ⟨e', hg'.mem_of_mem_at hat, hid, hg'.path_eq hat⟩
  · exact ⟨e, (mem_entities_elsewhere hg hg' hp).1 he, rfl, rfl⟩

include hsep hn in
/-- What does not cross is the same but for the symbols of the file and for loops at the file. -/
theorem mem_inside_iff {r : Relationship} (hr : ¬ Crosses g' r)
    (hsymbols : ¬ TouchesSymbols g' path (fileEntity path n).id r)
    (hloop : ¬ (r.source = (fileEntity path n).id ∧ r.target = (fileEntity path n).id)) :
    r ∈ g.relationships ↔ r ∈ g'.relationships := by
  have hr₀ : ¬ Crosses g r := fun hc => hr (hc.mono fun e he _ => exists_counterpart hsep hn hg hg' he)
  rw [hg.mem_relationships_of_not_crosses hr₀, hg'.mem_relationships_of_not_crosses hr, hasLink_iff_unparsed hn]
  refine ⟨.inl, fun h => h.resolve_right fun hpart => hloop ?_⟩
  -- both ends lie in the file, and they are no symbols
  obtain ⟨⟨x, hx, hxs⟩, y, hy, hyt⟩ := Inventory.ends_of_mem_part hsep hn hpart
  have hfile : ∀ e ∈ I.located root path, e.id = r.source ∨ e.id = r.target → e.id = (fileEntity path n).id :=
    fun e he hends => by_contra fun hne => hsymbols ⟨e, hg'.mem_of_mem_at he, hg'.path_eq he, hne, hends⟩
  exact ⟨hxs ▸ hfile x hx (.inl hxs), hyt ▸ hfile y hy (.inr hyt)⟩

include hsep hn in
theorem not_crosses_of_inside {r : Relationship} (hr : r.kind = .contains ∨ g.JoinsOnePath r ∨ g'.JoinsOnePath r) :
    ¬ Crosses g' r := by
  rcases hr with hkind | hjoins | hjoins
  · exact fun hc => hc.kind_ne hkind
  · refine Shows.not_crosses_of_joinsOnePath hg'.valid ?_
    obtain ⟨a, ha, b, hb, has, hbt, hpath⟩ := hjoins
    obtain ⟨a', ha', haid, hap⟩ := exists_counterpart hsep hn hg hg' ha
    obtain ⟨b', hb', hbid, hbp⟩ := exists_counterpart hsep hn hg hg' hb
    exact ⟨a', ha', b', hb', haid.trans has, hbid.trans hbt, by rw [hap, hbp, hpath]⟩
  · exact Shows.not_crosses_of_joinsOnePath hg'.valid hjoins

/-- Elsewhere discovery sees the same file. -/
theorem get?_filesOf_elsewhere {q : String} (hq : q ≠ path) :
    (Link.filesOf g.entities).get? q = (Link.filesOf g'.entities).get? q := by
  rw [Link.get?_filesOf, Link.get?_filesOf]
  exact congrArg (fun l : List Entity => l.reverse.find? (·.kind = .file)) (located_elsewhere hg hg' hq)

include hsep hn in
/-- At no path does the parse of the file change whether the file there is a given target, if it keeps the target. -/
theorem map_target_get?_filesOf (hfiles : I.TellsFiles root) {t : String}
    (ht : KeepsTarget g' path (fileEntity path n).id t) (q : String) :
    ((Link.filesOf g.entities).get? q).map (fun e => decide (e.id = t))
      = ((Link.filesOf g'.entities).get? q).map fun e => decide (e.id = t) := by
  by_cases hq : q = path
  · subst hq
    have hbare : Link.atPath g.entities q = [fileEntity q n] :=
      (hg.located_eq q).trans (located_unparsed_bare hn)
    have hparsed : Link.atPath g'.entities q = I.located root q := hg'.located_eq q
    have hpart := Inventory.isPart hsep hn
    obtain ⟨e, he, hid⟩ := (hpart.valid.hasEntity_iff _).1 hpart.file_mem
    rw [← Inventory.located_file hn] at he
    rw [Link.get?_filesOf, Link.get?_filesOf, hbare, hparsed]
    cases hfind : (I.located root q).reverse.find? (·.kind = .file) with
    | none =>
        -- the entity of the file is there
        have hkind := List.find?_eq_none.1 hfind e (List.mem_reverse.2 he)
        exact absurd (hfiles.kind_of_id hn he hid) (by simpa using hkind)
    | some x =>
        have hkind : x.kind = .file := by simpa using List.find?_some hfind
        have hx := List.mem_reverse.1 (List.mem_of_find?_eq_some hfind)
        have hview : (fileEntity q n).id = t ↔ x.id = t := by
          rcases ht with ⟨b, hb, rfl, hbp⟩ | hone
          · have hother : ∀ y ∈ I.located root q, y.id ≠ b.id := fun y hy hyb =>
              hbp (hg'.valid.entity_ext (hg'.mem_of_mem_at hy) hb hyb ▸ hg'.path_eq hy)
            exact iff_of_false (fun h => hother e he (hid.trans h)) (hother x hx)
          · rw [hone x (hg'.mem_of_mem_at hx) (hg'.path_eq hx) hkind]
        simpa [fileEntity, Entity.create] using hview
  · rw [get?_filesOf_elsewhere hg hg' hq]

omit hg' in
include hsep hn in
/-- Only the folder of the file contains it. -/
theorem enters_bare_iff (hdot : path ≠ ".") (r : Relationship) : g.Enters r (fileEntity path n).id ↔
    r = containment (directoryEntity root (dirname path)).id (fileEntity path n).id := by
  have hpiece : ∃ e, (I.unparsed [path]).Piece root path e ∧ e.id = (fileEntity path n).id :=
    ⟨_, .inl ⟨some n, hn, rfl⟩, rfl⟩
  have hnone : (I.unparsed [path]).output? path = none := by simp [Inventory.unparsed]
  have hbare : ¬ (part (scannedFile root path n) none).Enters r (fileEntity path n).id := (nested_bare rfl).not_enters r
  have hfound : (I.unparsed [path]).found? path = some (some n) := hn
  rw [enters_iff (hsep.unparsed [path]) hg hfound hpiece, hnone]
  constructor
  · rintro (⟨-, hr, -⟩ | ⟨k, hk, hr⟩)
    · exact hr
    · obtain rfl := Option.some.inj hk
      exact absurd hr hbare
  · exact fun hr => .inl ⟨hdot, hr, rfl⟩

omit hg' in
include hsep hn in
/-- A file that is not parsed has no relationship to itself. -/
theorem loop_notMem (hclosed : I.Closed) {r : Relationship} (hs : r.source = (fileEntity path n).id)
    (ht : r.target = (fileEntity path n).id) : r ∉ g.relationships := by
  intro hr
  rcases (hg.mem_relationships_iff r).1 hr with ⟨q, size, hq, ⟨hdot, rfl⟩ | ⟨k, rfl, hpart⟩⟩ | hc
  · -- a containment starts at a folder
    have hfolder := hclosed q size hdot hq
    have hpath := hsep.path_of_id (a := directoryEntity root (dirname q)) (.inl ⟨none, hfolder, rfl⟩)
      (.inl ⟨some n, hn, rfl⟩) hs
    rw [hpath, hn] at hfolder
    exact absurd hfolder (by simp)
  · obtain ⟨⟨x, hx, hxs⟩, -⟩ := Inventory.ends_of_mem_part (hsep.unparsed [path]) hq hpart
    have hfile : fileEntity path n ∈ (I.unparsed [path]).located root path := by
      rw [located_unparsed_bare hn]
      exact List.mem_singleton_self _
    obtain rfl := Inventory.path_eq_of_id_eq (hsep.unparsed [path]) hx hfile (hxs.trans hs)
    simp [Inventory.unparsed, part] at hpart
  · obtain ⟨-, -, a, ha, b, hb, has, hbt, hne⟩ := hg.crosses r hc
    exact hne (by rw [hg.valid.entity_ext ha hb (has.trans (hs.trans (ht.symm.trans hbt.symm)))])

omit hg in
include hsep hn in
/-- A link that starts elsewhere is none of the file. -/
theorem hasLink_elsewhere {r : Relationship} {e : Entity} (he : e ∈ g'.entities) (hid : e.id = r.source)
    (hp : e.path ≠ path) : (I.unparsed [path]).HasLink root r ↔ I.HasLink root r := by
  rw [hasLink_iff_unparsed hn]
  refine ⟨.inl, fun hlink => hlink.resolve_right fun hpart => hp ?_⟩
  obtain ⟨⟨x, hx, hxs⟩, -⟩ := Inventory.ends_of_mem_part hsep hn hpart
  rw [hg'.valid.entity_ext he (hg'.mem_of_mem_at hx) (hid.trans hxs.symm), hg'.path_eq hx]

omit hg in
include hsep hn in
/-- The links of the file take no id from what refers from elsewhere. -/
theorem ids_free_elsewhere {q : String} {b : Bool} {r : Relationship} (hr : Link.RefersFrom g'.entities q b r)
    (hq : q ≠ path) : (∀ r', (I.unparsed [path]).HasLink root r' → r'.id ≠ r.id) ↔
      ∀ r', I.HasLink root r' → r'.id ≠ r.id := by
  simp only [hasLink_iff_unparsed hn, or_imp, forall_and]
  refine (and_iff_left fun r' hr' hid => ?_).symm
  obtain ⟨-, hrid, x, hx, y, hy, hxs, hyt, rfl, -⟩ := hr
  obtain ⟨a, ha, hax⟩ := exists_piece_of_mem_entities hsep hg' hx
  obtain ⟨b, hb, hby⟩ := exists_piece_of_mem_entities hsep hg' hy
  have hlink := ((Inventory.isPart hsep hn).own_link r' hr').linkId
  refine hq (hsep.path_of_link (.inl ⟨_, a, b, r.kind, ha, hb, ?_⟩) hlink)
  rw [hid, hrid, hax, hxs, hby, hyt]

include hsep hn in
/-- The references of other files are found alike, if the parse of the file keeps their target. -/
theorem mem_discover_elsewhere (hfiles : I.TellsFiles root) {extensions : List String} {r : Relationship}
    (hr : r.kind ∈ Link.fileKinds) (ht : KeepsTarget g' path (fileEntity path n).id r.target) {e : Entity}
    (he : e ∈ g'.entities) (hid : e.id = r.source) (hp : e.path ≠ path) :
    r ∈ Link.discover extensions g.entities root ↔ r ∈ Link.discover extensions g'.entities root := by
  -- the file that refers is the one of the source
  have hsource : ∀ {k : Graph}, Valid k → e ∈ k.entities → ∀ q,
      r ∈ Link.fileReferencesAt extensions root (Link.filesOf k.entities) q → q ≠ path := by
    intro k hk hek q hmem
    obtain ⟨-, -, x, hx, -, -, hxs, -, rfl, -⟩ := Link.mem_fileReferencesAt hmem
    rwa [hk.entity_ext hx hek (hxs.trans hid.symm)]
  have hlast : ∀ q, q ≠ path → ((Link.filesOf g.entities).get? q).map (·.id) = some r.source →
      r.id = relationshipId r.source r.kind.name r.target →
      Link.lastWith (Link.fileReferencesAt extensions root (Link.filesOf g.entities) q) r.id
        = Link.lastWith (Link.fileReferencesAt extensions root (Link.filesOf g'.entities) q) r.id := by
    intro q hq hsource hrid
    have hget := get?_filesOf_elsewhere hg hg' hq
    rw [← Link.lastWith_filter_target hsource hrid, ← Link.lastWith_filter_target (hget ▸ hsource) hrid,
      Link.filter_fileReferencesAt_congr r.target hget (map_target_get?_filesOf hsep hn hg hg' hfiles ht)]
  have hsep₀ := hsep.unparsed [path]
  rw [mem_discover_file_iff hsep₀ (hfiles.unparsed hn) hg hr, mem_discover_file_iff hsep hfiles hg' hr]
  refine exists_congr fun q => ⟨fun hfound => ?_, fun hfound => ?_⟩
  · have hmem := (Link.mem_of_lastWith hfound).1
    have hq := hsource hg.valid ((mem_entities_elsewhere hg hg' hp).2 he) q hmem
    obtain ⟨hget, hrid⟩ := Link.source_of_mem_fileReferencesAt hmem
    rwa [← hlast q hq hget hrid]
  · have hmem := (Link.mem_of_lastWith hfound).1
    have hq := hsource hg'.valid he q hmem
    obtain ⟨hget, hrid⟩ := Link.source_of_mem_fileReferencesAt hmem
    rwa [hlast q hq (get?_filesOf_elsewhere hg hg' hq ▸ hget) hrid]

end Shown

end

/-- A build has its links, and what discovery finds under ids that no link has. -/
theorem mem_build_iff {registry : Registry} {scanner : Scanner} {disk : FileTree} {root : String}
    (hwf : disk.WellFormed) (hsep : (inventory registry scanner disk root).Separate (absolute root))
    {res : BuildResult} (hres : build registry scanner disk root = .ok res) (r : Relationship) :
    r ∈ res.graph.relationships ↔ (inventory registry scanner disk root).HasLink (absolute root) r ∨
      (r ∈ Link.discover registry.supportedExtensions res.graph.entities (absolute root) ∧
        ∀ r', (inventory registry scanner disk root).HasLink (absolute root) r' → r'.id ≠ r.id) := by
  have hparsed := shows_parsedGraph hwf hsep
  rw [(shows_build hwf hsep hres).mem_relationships_iff, entities_build hres, List.mem_filter,
    isNewLink_iff hparsed.valid]
  simp only [hparsed.mem_relationships_iff, or_false]

theorem tellsFiles_of_outputs {registry : Registry} {scanner : Scanner} {disk : FileTree} {root : String}
    (h : ∀ x ∈ outputs registry scanner disk root, ∀ e ∈ x.2.entities, e.Formed) :
    (inventory registry scanner disk root).TellsFiles (absolute root) :=
  Inventory.tellsFiles_of_formed fun _ _ _ hn ho => h _ (mem_outputs hn ho)

/-! ## Two registries -/

namespace Inventory

variable {root : String} {I J : Inventory}

theorem Piece.of_congr (hfound : ∀ p, I.found? p = J.found? p)
    (houtput : ∀ p n, I.found? p = some (some n) → I.output? p = J.output? p) {p : String} {e : Entity}
    (h : I.Piece root p e) : J.Piece root p e := by
  rcases h with ⟨size, hp, rfl⟩ | ⟨n, o, hp, ho, he⟩
  · exact .inl ⟨size, (hfound p).symm.trans hp, rfl⟩
  · exact .inr ⟨n, o, (hfound p).symm.trans hp, (houtput p n hp).symm.trans ho, he⟩

theorem LinkId.of_congr (hfound : ∀ p, I.found? p = J.found? p)
    (houtput : ∀ p n, I.found? p = some (some n) → I.output? p = J.output? p) {p id : String}
    (h : I.LinkId root p id) : J.LinkId root p id := by
  rcases h with ⟨q, a, b, k, ha, hb, hid⟩ | ⟨n, o, hp, ho, hr⟩
  · exact .inl ⟨q, a, b, k, ha.of_congr hfound houtput, hb.of_congr hfound houtput, hid⟩
  · exact .inr ⟨n, o, (hfound p).symm.trans hp, (houtput p n hp).symm.trans ho, hr⟩

theorem Separate.of_congr (h : J.Separate root) (hfound : ∀ p, I.found? p = J.found? p)
    (houtput : ∀ p n, I.found? p = some (some n) → I.output? p = J.output? p) : I.Separate root where
  liesIn p n o hp ho := h.liesIn p n o ((hfound p).symm.trans hp) ((houtput p n hp).symm.trans ho)
  path_of_id ha hb hid := h.path_of_id (ha.of_congr hfound houtput) (hb.of_congr hfound houtput) hid
  path_of_link hp hq := h.path_of_link (hp.of_congr hfound houtput) (hq.of_congr hfound houtput)

end Inventory

variable {registry registry' : Registry} {scanner : Scanner} {disk : FileTree} {root : String} {file : ScannedFile}

/-- Two registries that behave alike on the files of a tree, but that of one file, which both claim, the first one
    gives an output with errors and the second one any output. -/
structure FailsOn (registry registry' : Registry) (scanner : Scanner) (disk : FileTree) (root : String)
    (file : ScannedFile) : Prop where
  scanned : file ∈ (scanner.scanned disk root).files
  extensions_eq : registry.supportedExtensions = registry'.supportedExtensions
  claims_eq : ∀ f ∈ (scanner.scanned disk root).files,
    (registry.parserFor f.absolutePath).map Option.isSome = (registry'.parserFor f.absolutePath).map Option.isSome
  parse_eq : ∀ f ∈ (scanner.scanned disk root).files, f ≠ file →
    registry.parse disk f.absolutePath (some (absolute root))
      = registry'.parse disk f.absolutePath (some (absolute root))
  claimed : ∃ p, registry.parserFor file.absolutePath = .ok (some p)
  failed : ∃ o, registry.parse disk file.absolutePath (some (absolute root)) = .ok o ∧ o.errors ≠ []
  parsed : ∃ o, registry'.parse disk file.absolutePath (some (absolute root)) = .ok o

/-- What the graph of a build in which a file failed has in common with that of a build in which it was parsed. -/
structure Isolated (root : String) (file : ScannedFile) (failed parsed : Graph) : Prop where
  entities_iff : ∀ e, e.path ≠ file.path → (e ∈ failed.entities ↔ e ∈ parsed.entities)
  inside_iff : ∀ r, r.kind = .contains ∨ failed.JoinsOnePath r ∨ parsed.JoinsOnePath r →
    ¬ TouchesSymbols parsed file.path file.entityId r → ¬ (r.source = file.entityId ∧ r.target = file.entityId) →
    (r ∈ failed.relationships ↔ r ∈ parsed.relationships)
  references_iff : ∀ r, r.kind ∈ Link.fileKinds → (∃ e ∈ parsed.entities, e.id = r.source ∧ e.path ≠ file.path) →
    KeepsTarget parsed file.path file.entityId r.target → (r ∈ failed.relationships ↔ r ∈ parsed.relationships)
  bare : ∀ e, e ∈ failed.entities ∧ e.path = file.path ↔ e = fileEntity file.path file.size
  contained : ∀ r, failed.Enters r file.entityId ↔
    r = containment (directoryEntity root (dirname file.path)).id file.entityId

namespace FailsOn

/-- A file has an output in one registry if it has one in the other. -/
theorem parses_iff (h : FailsOn registry registry' scanner disk root file) :
    Parses registry disk root (scanner.scanned disk root).files ↔
      Parses registry' disk root (scanner.scanned disk root).files := by
  refine forall₂_congr fun f hf => ?_
  by_cases hfile : f = file
  · subst hfile
    exact iff_of_true (h.failed.imp fun _ ho => ho.1) h.parsed
  · rw [h.parse_eq f hf hfile]

/-- One registry builds the tree if the other does. -/
theorem build_isOk_iff (h : FailsOn registry registry' scanner disk root file) :
    (∃ res, build registry scanner disk root = .ok res) ↔ ∃ res, build registry' scanner disk root = .ok res := by
  have hbuildable : Buildable registry scanner disk root ↔ Buildable registry' scanner disk root :=
    and_congr_right fun _ => h.parses_iff
  rcases build_cases registry scanner disk root with ⟨hall, res, hres, -⟩ | ⟨hall, f, hf⟩ <;>
    rcases build_cases registry' scanner disk root with ⟨hall', res', hres', -⟩ | ⟨hall', f', hf'⟩
  · exact iff_of_true ⟨res, hres⟩ ⟨res', hres'⟩
  · exact absurd (hbuildable.1 hall) hall'
  · exact absurd (hbuildable.2 hall') hall
  · exact iff_of_false (by simp [hf]) (by simp [hf'])

/-- The outputs that are merged are the same, but that the file that failed has none. -/
theorem output?_eq (h : FailsOn registry registry' scanner disk root file) (hwf : disk.WellFormed) {p : String}
    {n : Nat} (hp : found? scanner disk root p = some (some n)) : (inventory registry scanner disk root).output? p
      = ((inventory registry' scanner disk root).unparsed [file.path]).output? p := by
  have hscanned : scannedFile (absolute root) p n ∈ (scanner.scanned disk root).files :=
    (mem_scanned_files hwf _).2 ⟨n, rfl, hp⟩
  obtain ⟨k, hfile, hk⟩ := (mem_scanned_files hwf file).1 h.scanned
  by_cases hpath : p = file.path
  · obtain rfl : n = k := by simpa [hpath, hk] using hp.symm
    obtain ⟨parser, hclaimed⟩ := h.claimed
    obtain ⟨o, ho, herrors⟩ := h.failed
    rw [hfile] at hclaimed ho
    simp only [scannedFile] at hclaimed ho
    simp [inventory, Inventory.unparsed, output?, hpath, hclaimed, ho, herrors]
  · have hother : scannedFile (absolute root) p n ≠ file := fun he => hpath (congrArg ScannedFile.path he)
    have hclaims := h.claims_eq _ hscanned
    have hparse := h.parse_eq _ hscanned hother
    simp only [scannedFile] at hclaims hparse
    simp only [inventory, Inventory.unparsed, List.mem_singleton, hpath, if_false, output?, hparse]
    generalize registry.parserFor (join (absolute root) p) = a at hclaims
    generalize registry'.parserFor (join (absolute root) p) = b at hclaims
    rcases a with _ | _ | _ <;> rcases b with _ | _ | _ <;> first | rfl | simp [Except.map] at hclaims

/-- The inventory of the first registry is that of the second without the file parsed. -/
theorem shows_failed (h : FailsOn registry registry' scanner disk root file) (hwf : disk.WellFormed)
    (hsep : (inventory registry' scanner disk root).Separate (absolute root)) {res : BuildResult}
    (hres : build registry scanner disk root = .ok res) :
    ∃ crossing, ((inventory registry' scanner disk root).unparsed [file.path]).ShownIn (absolute root) res.graph
        crossing ∧
      ∀ r, r ∈ res.graph.relationships ↔
        ((inventory registry' scanner disk root).unparsed [file.path]).HasLink (absolute root) r ∨
          (r ∈ Link.discover registry'.supportedExtensions res.graph.entities (absolute root) ∧
            ∀ r', ((inventory registry' scanner disk root).unparsed [file.path]).HasLink (absolute root) r' →
              r'.id ≠ r.id) := by
  have hfound : ∀ p, (inventory registry scanner disk root).found? p
      = ((inventory registry' scanner disk root).unparsed [file.path]).found? p := fun _ => rfl
  have houtput : ∀ p n, (inventory registry scanner disk root).found? p = some (some n) →
      (inventory registry scanner disk root).output? p
        = ((inventory registry' scanner disk root).unparsed [file.path]).output? p := fun p n hp => h.output?_eq hwf hp
  have hsep₀ := (hsep.unparsed [file.path]).of_congr hfound houtput
  refine ⟨_, (shows_build hwf hsep₀ hres).congr (fun p => (Inventory.located_congr hfound houtput p).symm)
    (fun r => (Inventory.hasLink_congr hfound houtput r).symm) fun _ => Iff.rfl, fun r => ?_⟩
  rw [mem_build_iff hwf hsep₀ hres, h.extensions_eq]
  simp only [Inventory.hasLink_congr hfound houtput]

end FailsOn

/-- **A failure stays in its file.** -/
theorem build_isolates_failure (hwf : disk.WellFormed) (h : FailsOn registry registry' scanner disk root file)
    (hsep : (inventory registry' scanner disk root).Separate (absolute root))
    (hfiles : (inventory registry' scanner disk root).TellsFiles (absolute root)) :
    ((∃ res, build registry scanner disk root = .ok res) ↔ ∃ res, build registry' scanner disk root = .ok res) ∧
      ∀ failed parsed, build registry scanner disk root = .ok failed → build registry' scanner disk root = .ok parsed →
        Isolated (absolute root) file failed.graph parsed.graph := by
  refine ⟨h.build_isOk_iff, fun failed parsed hfailed hparsed => ?_⟩
  obtain ⟨n, hfile, hfound⟩ := (mem_scanned_files hwf file).1 h.scanned
  have hn : (inventory registry' scanner disk root).found? file.path = some (some n) := hfound
  obtain ⟨crossing, hg, hrelationships⟩ := h.shows_failed hwf hsep hfailed
  have hg' := shows_build hwf hsep hparsed
  have hid : file.entityId = (fileEntity file.path n).id := by rw [hfile]; rfl
  have hsize : file.size = n := by rw [hfile]; rfl
  refine ⟨fun e he => mem_entities_elsewhere hg hg' he, fun r hr hsymbols hloop => ?_,
    fun r hr ⟨e, he, hes, hp⟩ ht => ?_, fun e => ?_, fun r => ?_⟩
  · rw [hid] at hsymbols hloop
    exact mem_inside_iff hsep hn hg hg' (not_crosses_of_inside hsep hn hg hg' hr) hsymbols hloop
  · rw [hid] at ht
    rw [hrelationships, mem_build_iff hwf hsep hparsed,
      mem_discover_elsewhere hsep hn hg hg' hfiles hr ht he hes hp]
    refine or_congr (hasLink_elsewhere hsep hn hg' he hes hp) (and_congr_right fun hdiscovered => ?_)
    obtain ⟨q, b, hrefers⟩ := Link.discover_joins hdiscovered
    refine ids_free_elsewhere hsep hn hg' hrefers ?_
    obtain ⟨-, -, x, hx, -, -, hxs, -, rfl, -⟩ := hrefers
    rwa [hg'.valid.entity_ext hx he (hxs.trans hes.symm)]
  · rw [hsize]
    exact mem_entities_bare hn hg e
  · have hdot : file.path ≠ "." := fun hdot => by
      rw [hdot, found?_root] at hfound
      exact absurd hfound (by simp)
    rw [hid]
    exact enters_bare_iff hsep hn hg hdot r

/-! ## A module that may fail -/

/-- The language in which every file imports the module that its text names; what a file without a text is made of
    is given. -/
def importFilesOr (x : Except String Extraction) : Reader :=
  { importFiles with extract := fun file => if file.source = "" then x else importFiles.extract file }

/-- The registry of that language. -/
def importRegistryOr (x : Except String Extraction) : Registry :=
  Registry.empty.register "python" (importFilesOr x).toParser

/-- A disk with a script and the module that it imports, which has no text. -/
def helperDisk : FileTree := diskOf [("a.py", .file "util".toUTF8), ("util.py", .file "".toUTF8)]

/-- The module. -/
def helperFile : ScannedFile := scannedFile (absolute "/r") "util.py" 0

/-- The registry in which the module fails. -/
def failingRegistry : Registry := importRegistryOr (.error "nothing to import")

/-- The registry in which the module defines a function. -/
def definingRegistry : Registry := importRegistryOr <| .ok
  { entities := [Entity.create
      { kind := .functionDecl, path := "util.py", name := "run", startLine := 1, endLine := 1 }]
    relationships := [] }

theorem byExtension_importRegistryOr (x : Except String Extraction) :
    (importRegistryOr x).byExtension = Dict.empty.insert ".py" (importFilesOr x).toParser := by
  have hentries : (importRegistryOr x).byExtension
      = Dict.empty.insert (Unicode.lower ".py") (importFilesOr x).toParser := rfl
  rw [hentries, lower_py]

theorem parserFor_importRegistryOr (x : Except String Extraction) (path : String) : (importRegistryOr x).parserFor path
    = .ok (if extension path = ".py" then some (importFilesOr x).toParser else none) := by
  have hget : (importRegistryOr x).byExtension.get? (extension path)
      = if extension path = ".py" then some (importFilesOr x).toParser else none := by
    rw [byExtension_importRegistryOr, Dict.get?_insert, Dict.get?_empty]
  have hvalues : (importRegistryOr x).byLanguage.values = [(importFilesOr x).toParser] := rfl
  rw [Registry.parserFor, hget, hvalues]
  by_cases h : extension path = ".py"
  · simp [h]
  · simp [h, Registry.firstAble, Reader.toParser, Reader.canParse, importFilesOr, importFiles, bind, Except.bind]

theorem findsOf_helperDisk : findsOf (scannerFor ".py") helperDisk "/r" = [⟨"a.py", some 4⟩, ⟨"util.py", some 0⟩] := by
  have hat : helperDisk.at? (absoluteSegments "/r")
      = some (.folder blockSize [("a.py", .file "util".toUTF8), ("util.py", .file "".toUTF8)]) := rfl
  simp only [findsOf, hat]
  rw [findsInNameOrder_of_sorted (by decide +kernel)]
  decide +kernel

theorem wellFormed_helperDisk : helperDisk.WellFormed :=
  wellFormed_diskOf (.folder (by decide) (by decide) (by simpa using ⟨.file _, .file _⟩))

theorem scanned_helperDisk : ((scannerFor ".py").scanned helperDisk "/r").files
    = [scannedFile (absolute "/r") "a.py" 4, helperFile] := by
  rw [scanned_files wellFormed_helperDisk, findsOf_helperDisk]
  rfl

/-- Both files have the extension of the language, the script has a text, and the module is read with an error. -/
theorem helperDisk_files : extension (join (absolute "/r") "a.py") = ".py" ∧
    extension helperFile.absolutePath = ".py" ∧ Text.decodeStrict? "util".toUTF8 = some "util" ∧
    ((importFilesOr (.error "nothing to import")).read helperDisk helperFile.absolutePath
      (some (absolute "/r"))).errors ≠ [] := by
  decide +kernel

/-- The script is read alike, whatever the module is made of. -/
theorem parse_script (x y : Except String Extraction) :
    (importRegistryOr x).parse helperDisk (join (absolute "/r") "a.py") (some (absolute "/r"))
      = (importRegistryOr y).parse helperDisk (join (absolute "/r") "a.py") (some (absolute "/r")) := by
  have hbytes : helperDisk.read (absolute (join (absolute "/r") "a.py")) = .ok "util".toUTF8 := by
    have hnames : AllNames ["a.py"] := by decide
    have hat : helperDisk.fileAt? (absoluteSegments "/r" ++ ["a.py"]) = some "util".toUTF8 := rfl
    have hpath : "a.py" = ofNames ["a.py"] := rfl
    rw [congrArg (join (absolute "/r")) hpath, absolute_join hnames (by simp), read_join hnames (by simp), hat]
  have hread : ∀ z, (importFilesOr z).read helperDisk (join (absolute "/r") "a.py") (some (absolute "/r"))
      = importFiles.read helperDisk (join (absolute "/r") "a.py") (some (absolute "/r")) := by
    intro z
    simp only [Reader.read, hbytes, helperDisk_files.2.2.1, Reader.readText, importFilesOr]
    rw [if_neg (by decide)]
  simp only [Registry.parse, parserFor_importRegistryOr, if_pos helperDisk_files.1, bind, Except.bind, Reader.toParser,
    hread]

/-- The module is read as what it is made of. -/
theorem parse_helperFile (x : Except String Extraction) :
    (importRegistryOr x).parse helperDisk helperFile.absolutePath (some (absolute "/r"))
      = .ok ((importFilesOr x).read helperDisk helperFile.absolutePath (some (absolute "/r"))) := by
  simp only [Registry.parse, parserFor_importRegistryOr, if_pos helperDisk_files.2.1, bind, Except.bind,
    Reader.toParser, Registry.outputOf]

/-- The outputs pass the check. -/
theorem definingRegistry_outputs : Plain definingRegistry (scannerFor ".py") helperDisk "/r" ∧
    ∀ x ∈ outputs definingRegistry (scannerFor ".py") helperDisk "/r", ∀ e ∈ x.2.entities, e.Formed := by
  simp only [Plain, pieces, outputs, findsOf_helperDisk]
  decide +kernel

theorem found?_helperFile : found? (scannerFor ".py") helperDisk "/r" helperFile.path = some (some 0) := by
  rw [found?, findsOf_helperDisk]
  rfl

/-- The module fails in the one registry, and may be made of anything in the other. -/
theorem failsOn_helperFile (x : Except String Extraction) :
    FailsOn failingRegistry (importRegistryOr x) (scannerFor ".py") helperDisk "/r" helperFile where
  scanned := by rw [scanned_helperDisk]; simp
  extensions_eq := by
    have hkeys : ∀ p : Parser, (Dict.empty.insert ".py" p).keys = [".py"] := fun _ => rfl
    simp only [failingRegistry, Registry.supportedExtensions, byExtension_importRegistryOr, hkeys]
  claims_eq f hf := by
    simp only [failingRegistry, parserFor_importRegistryOr, Except.map]
    split <;> simp only [Option.isSome]
  parse_eq f hf hne := by
    rw [scanned_helperDisk] at hf
    simp only [List.mem_cons, List.not_mem_nil, or_false, hne] at hf
    rw [hf]
    exact parse_script _ x
  claimed := ⟨_, by rw [failingRegistry, parserFor_importRegistryOr, if_pos helperDisk_files.2.1]⟩
  failed := ⟨_, parse_helperFile _, helperDisk_files.2.2.2⟩
  parsed := ⟨_, parse_helperFile x⟩

theorem importRegistryOr_ofReaders (x : Except String Extraction) : (importRegistryOr x).OfReaders :=
  Registry.OfReaders.empty.register _ _

/-- The tree can be built, whatever the module is made of. -/
theorem build_helperDisk_isOk (x : Except String Extraction) :
    ∃ res, build (importRegistryOr x) (scannerFor ".py") helperDisk "/r" = .ok res := by
  have hcompiles : (scannerFor ".py").Compiles helperDisk "/r" := compiles_of_unasked rfl helperDisk
  exact (build_isOk_iff wellFormed_helperDisk).2
    ⟨hcompiles, parsesAt_of_readers (importRegistryOr_ofReaders x) helperDisk⟩

/-- The module fails, and where it does not it defines a function. -/
theorem build_of_helperDisk_isolates_failure : helperDisk.WellFormed ∧
    FailsOn failingRegistry definingRegistry (scannerFor ".py") helperDisk "/r" helperFile ∧
    (inventory definingRegistry (scannerFor ".py") helperDisk "/r").Separate (absolute "/r") ∧
    (inventory definingRegistry (scannerFor ".py") helperDisk "/r").TellsFiles (absolute "/r") ∧
    ∃ failed parsed, build failingRegistry (scannerFor ".py") helperDisk "/r" = .ok failed ∧
      build definingRegistry (scannerFor ".py") helperDisk "/r" = .ok parsed ∧
      Isolated (absolute "/r") helperFile failed.graph parsed.graph := by
  have hfails : FailsOn failingRegistry definingRegistry (scannerFor ".py") helperDisk "/r" helperFile :=
    failsOn_helperFile _
  have hsep := (sound_of_plain definingRegistry_outputs.1).separate
  have hfiles := tellsFiles_of_outputs definingRegistry_outputs.2
  obtain ⟨parsed, hparsed⟩ := build_helperDisk_isOk _
  obtain ⟨hok, hisolated⟩ := build_isolates_failure wellFormed_helperDisk hfails hsep hfiles
  obtain ⟨failed, hfailed⟩ := hok.2 ⟨parsed, hparsed⟩
  exact ⟨wellFormed_helperDisk, hfails, hsep, hfiles, failed, parsed, hfailed, hparsed,
    hisolated failed parsed hfailed hparsed⟩

/-! ## A second file entity -/

/-- The registry in which the module holds another entity of kind file, and refers to itself. -/
def twinRegistry : Registry := importRegistryOr <| .ok
  { entities := [Entity.create { kind := .file, path := "util.py", name := "twin", startLine := 1, endLine := 1 }]
    relationships := [Relationship.create helperFile.entityId .references helperFile.entityId] }

/-- The reference of the script to the module. -/
def helperImport : Relationship :=
  Relationship.create "file:a.py:a.py:1" .imports helperFile.entityId 1 [("reference", .text "util")]

/-- The reference of the module to itself. -/
def selfReference : Relationship := Relationship.create helperFile.entityId .references helperFile.entityId

/-- The outputs of both registries pass the check, and the reference of the module to itself is merged. -/
theorem twinRegistry_outputs : Plain failingRegistry (scannerFor ".py") helperDisk "/r" ∧
    Plain twinRegistry (scannerFor ".py") helperDisk "/r" ∧
    (∀ x ∈ outputs twinRegistry (scannerFor ".py") helperDisk "/r", ∀ e ∈ x.2.entities, e.Formed) ∧
    selfReference ∈ (part helperFile
      ((inventory twinRegistry (scannerFor ".py") helperDisk "/r").output? helperFile.path)).relationships := by
  simp only [Plain, pieces, outputs, findsOf_helperDisk]
  decide +kernel

/-- Discovery finds the module, but beside another entity of its kind only that one. -/
theorem helperImport_hidden :
    helperImport ∈ Link.discover failingRegistry.supportedExtensions
        (listing failingRegistry (scannerFor ".py") helperDisk "/r") (absolute "/r") ∧
      helperImport ∉ Link.discover twinRegistry.supportedExtensions
        (listing twinRegistry (scannerFor ".py") helperDisk "/r") (absolute "/r") := by
  simp only [listing, findsOf_helperDisk]
  decide +kernel

/-- With another entity of kind file in the module, its failure is seen: the script refers to another entity, and the
    reference of the module to itself is gone. -/
theorem twinRegistry_not_isolated : helperDisk.WellFormed ∧
    FailsOn failingRegistry twinRegistry (scannerFor ".py") helperDisk "/r" helperFile ∧
    (inventory twinRegistry (scannerFor ".py") helperDisk "/r").Separate (absolute "/r") ∧
    (inventory twinRegistry (scannerFor ".py") helperDisk "/r").TellsFiles (absolute "/r") ∧
    ∃ failed parsed, build failingRegistry (scannerFor ".py") helperDisk "/r" = .ok failed ∧
      build twinRegistry (scannerFor ".py") helperDisk "/r" = .ok parsed ∧
      (helperImport.kind ∈ Link.fileKinds ∧
        (∃ e ∈ parsed.graph.entities, e.id = helperImport.source ∧ e.path ≠ helperFile.path) ∧
        helperImport ∈ failed.graph.relationships ∧ helperImport ∉ parsed.graph.relationships) ∧
      parsed.graph.JoinsOnePath selfReference ∧
        ¬ TouchesSymbols parsed.graph helperFile.path helperFile.entityId selfReference ∧
        selfReference ∉ failed.graph.relationships ∧ selfReference ∈ parsed.graph.relationships := by
  have hfails : FailsOn failingRegistry twinRegistry (scannerFor ".py") helperDisk "/r" helperFile :=
    failsOn_helperFile _
  have hreadable : Readable failingRegistry (scannerFor ".py") "/r" helperDisk :=
    ⟨wellFormed_helperDisk, sound_of_plain twinRegistry_outputs.1⟩
  have hreadable' : Readable twinRegistry (scannerFor ".py") "/r" helperDisk :=
    ⟨wellFormed_helperDisk, sound_of_plain twinRegistry_outputs.2.1⟩
  have htells := tellsEnds_of_plain twinRegistry_outputs.1
  have htells' := tellsEnds_of_plain twinRegistry_outputs.2.1
  have hsep := hreadable'.sound.separate
  obtain ⟨parsed, hparsed⟩ := build_helperDisk_isOk _
  obtain ⟨failed, hfailed⟩ := hfails.build_isOk_iff.2 ⟨parsed, hparsed⟩
  obtain ⟨crossing, hg, -⟩ := hfails.shows_failed wellFormed_helperDisk hsep hfailed
  have hg' := shows_build wellFormed_helperDisk hsep hparsed
  have hn : (inventory twinRegistry (scannerFor ".py") helperDisk "/r").found? helperFile.path = some (some 0) :=
    found?_helperFile
  have hjoins : failed.graph.JoinsPaths helperImport := by
    rw [joins_build_iff hreadable htells hfailed, mem_discover_listing_iff hreadable htells
      (shows_build wellFormed_helperDisk hreadable.sound hfailed)]
    exact helperImport_hidden.1
  obtain ⟨himport, hkind, a, ha, b, hb, has, hbt, hne⟩ := hjoins
  obtain ⟨a', ha', haid, hap⟩ := exists_counterpart hsep hn hg hg' ha
  obtain ⟨b', hb', hbid, hbp⟩ := exists_counterpart hsep hn hg hg' hb
  have hself : selfReference ∈ parsed.graph.relationships :=
    (hg'.mem_relationships_iff _).2 (.inl ⟨_, _, hn, .inr ⟨0, rfl, twinRegistry_outputs.2.2.2⟩⟩)
  have hfile : b'.id = helperFile.entityId := hbid.trans hbt
  have hbpath : b'.path = helperFile.path := by
    obtain ⟨hmem, hpath⟩ := (mem_entities_bare hn hg _).2 rfl
    rw [hbp, hg.valid.entity_ext hb hmem hbt, hpath]
  have hfiles := tellsFiles_of_outputs twinRegistry_outputs.2.2.1
  refine ⟨wellFormed_helperDisk, hfails, hsep, hfiles, failed, parsed, hfailed, hparsed,
    ⟨by decide, ⟨a', ha', haid.trans has, ?_⟩, himport, fun hmem => ?_⟩, ⟨b', hb', b', hb', hfile, hfile, rfl⟩,
    fun ⟨_, _, _, hother, hends⟩ => hother (hends.elim id id),
    loop_notMem hsep hn hg (closed_inventory wellFormed_helperDisk) rfl rfl, hself⟩
  · rw [← hbpath, hap, hbp]
    exact hne
  · have hjoins' : parsed.graph.JoinsPaths helperImport :=
      ⟨hmem, hkind, a', ha', b', hb', haid.trans has, hfile, by rw [hap, hbp]; exact hne⟩
    rw [joins_build_iff hreadable' htells' hparsed, mem_discover_listing_iff hreadable' htells' hg'] at hjoins'
    exact helperImport_hidden.2 hjoins'

end Build

end CodeAtlas
