import CodeAtlas.Proofs.Build.RefreshRun

set_option autoImplicit false

/-! # What refreshing does to relationships between paths

The relationships between different paths come from discovery. A build has those that discovery finds among
its entities, no more and no less (`joins_build_iff`). A refresh starts from the relationships that the graph
before it had: those that do not touch the file stay, whether discovery would still find them or not, and
discovery adds what has a new id (`joins_refresh_iff`). So a refresh misses nothing, and it agrees with a
build exactly if discovery still finds everything that stayed (`refresh_agrees_iff`). -/

namespace CodeAtlas

namespace Graph

/-- Is a relationship of the graph no containment, and does it join entities of different paths? -/
def JoinsPaths (g : Graph) (r : Relationship) : Prop :=
  r ∈ g.relationships ∧ r.kind ≠ .contains ∧
    ∃ a ∈ g.entities, ∃ b ∈ g.entities, a.id = r.source ∧ b.id = r.target ∧ a.path ≠ b.path

/-- Does a relationship start or end at an entity of a path? -/
def Touches (g : Graph) (path : String) (r : Relationship) : Prop :=
  ∃ e ∈ g.entities, e.path = path ∧ (e.id = r.source ∨ e.id = r.target)

end Graph

namespace Build

open CodeAtlas.Scan CodeAtlas.Path CodeAtlas.Graph

/-! ## Ids that tell ends -/

namespace Inventory

variable {root : String} {I : Inventory}

/-- The ids of relationships are made of their ends and kinds, and tell the ends. -/
structure TellsEnds (root : String) (I : Inventory) : Prop where
  id_eq : ∀ path n o, I.found? path = some (some n) → I.output? path = some o →
    ∀ r ∈ o.relationships, r.id = relationshipId r.source r.kind.name r.target
  ends_of_id : ∀ {p q p' q' a b a' b'} {k k' : RelationKind}, I.Piece root p a → I.Piece root q b →
    I.Piece root p' a' → I.Piece root q' b' →
    relationshipId a.id k.name b.id = relationshipId a'.id k'.name b'.id → a.id = a'.id ∧ b.id = b'.id

/-- The relationships of a file are named after pieces of the file. -/
theorem OwnLink.exists_id_eq (hsound : I.Sound root) (htells : I.TellsEnds root) {path : String} {r : Relationship}
    (h : I.OwnLink root path r) : ∃ a b, ∃ k : RelationKind, I.Piece root path a ∧ I.Piece root path b ∧
      r.id = relationshipId a.id k.name b.id := by
  rcases h with ⟨a, b, ha, hb, rfl⟩ | ⟨n, o, hn, ho, hr⟩
  · exact ⟨a, b, .contains, ha, hb, rfl⟩
  · have hfit := hsound.fits path n o hn ho
    obtain ⟨a, ha, has⟩ := hfit.source_mem r hr
    obtain ⟨b, hb, hbt⟩ := hfit.target_mem r hr
    exact ⟨a, b, r.kind, .inr ⟨n, o, hn, ho, ha⟩, .inr ⟨n, o, hn, ho, hb⟩,
      by rw [htells.id_eq path n o hn ho r hr, has, hbt]⟩

/-- No link has the id of a relationship that joins different paths and is no containment. -/
theorem link_id_ne (hsound : I.Sound root) (hclosed : I.Closed) (htells : I.TellsEnds root) {p q : String}
    {a b : Entity} {k : RelationKind} (ha : I.Piece root p a) (hb : I.Piece root q b) (hpq : p ≠ q)
    (hk : k ≠ .contains) {r : Relationship} (hr : I.HasLink root r) :
    r.id ≠ relationshipId a.id k.name b.id := by
  intro hid
  rcases hr with ⟨z, size, hz, ⟨hdot, rfl⟩ | ⟨n, rfl, hpart⟩⟩
  · have hfolder : I.Piece root (dirname z) (directoryEntity root (dirname z)) :=
      .inl ⟨none, hclosed z size hdot hz, rfl⟩
    have hid' : relationshipId (directoryEntity root (dirname z)).id RelationKind.contains.name
        (Find.entity root ⟨z, size⟩).id = relationshipId a.id k.name b.id := hid
    rw [(htells.ends_of_id hfolder (.inl ⟨size, hz, rfl⟩) ha hb hid').1] at hid'
    exact hk (relationshipId_inj hid').1.symm
  · obtain ⟨a', b', k', ha', hb', hid'⟩ := ((isPart hsound hz).own_link r hpart).exists_id_eq hsound htells
    obtain ⟨hsource, htarget⟩ := htells.ends_of_id ha' hb' ha hb (hid'.symm.trans hid)
    exact hpq ((hsound.path_of_id ha ha' hsource.symm).trans (hsound.path_of_id hb' hb htarget))

end Inventory

/-! ## What joins paths -/

section

variable {root : String} {I : Inventory} {g : Graph} {crossing : Relationship → Prop}

/-- A link that is no containment stays inside one path. -/
theorem paths_eq_of_hasLink (hsound : I.Sound root) (h : I.ShownIn root g crossing) {r : Relationship}
    (hr : I.HasLink root r) (hk : r.kind ≠ .contains) {a b : Entity} (ha : a ∈ g.entities) (hb : b ∈ g.entities)
    (has : a.id = r.source) (hbt : b.id = r.target) : a.path = b.path := by
  rcases hr with ⟨z, size, hz, ⟨-, rfl⟩ | ⟨n, rfl, hpart⟩⟩
  · exact absurd rfl hk
  · obtain ⟨⟨x, hx, hxs⟩, ⟨y, hy, hyt⟩⟩ := Inventory.ends_of_mem_part hsound hz hpart
    rw [h.valid.entity_ext ha (h.mem_of_mem_at hx) (has.trans hxs.symm),
      h.valid.entity_ext hb (h.mem_of_mem_at hy) (hbt.trans hyt.symm), h.path_eq hx, h.path_eq hy]

/-- What joins paths is what crosses. -/
theorem joinsPaths_iff (hsound : I.Sound root) (h : I.ShownIn root g crossing) (r : Relationship) :
    g.JoinsPaths r ↔ crossing r := by
  constructor
  · rintro ⟨hr, hk, a, ha, b, hb, has, hbt, hne⟩
    refine ((h.mem_relationships_iff r).1 hr).resolve_left fun hlink => hne ?_
    exact paths_eq_of_hasLink hsound h hlink hk ha hb has hbt
  · intro hr
    obtain ⟨hk, -, hends⟩ := h.crosses r hr
    exact ⟨(h.mem_relationships_iff r).2 (.inr hr), hk, hends⟩

/-- The ids of what a graph shows tell ends, for discovery too. -/
theorem idsTell_of_shownIn (hsound : I.Sound root) (htells : I.TellsEnds root) (h : I.ShownIn root g crossing) :
    Link.IdsTell g.entities where
  entity_ext a ha b hb hid := h.valid.entity_ext ha hb hid
  ends_of_id a ha b hb a' ha' b' hb' k k' hid := by
    obtain ⟨x, hx, hxa⟩ := exists_piece_of_mem_entities hsound h ha
    obtain ⟨y, hy, hyb⟩ := exists_piece_of_mem_entities hsound h hb
    obtain ⟨x', hx', hxa'⟩ := exists_piece_of_mem_entities hsound h ha'
    obtain ⟨y', hy', hyb'⟩ := exists_piece_of_mem_entities hsound h hb'
    rw [← hxa, ← hyb, ← hxa', ← hyb'] at hid ⊢
    exact htells.ends_of_id hx hy hx' hy' hid

/-- What is discovered is new to a graph unless something that crosses has its id already. -/
theorem isNewLink_discovered_iff (hsound : I.Sound root) (hclosed : I.Closed) (htells : I.TellsEnds root)
    (h : I.ShownIn root g crossing) {extensions : List String} {r : Relationship}
    (hr : r ∈ Link.discover extensions g.entities root) :
    g.isNewLink r = true ↔ ∀ r', crossing r' → r'.id ≠ r.id := by
  rw [isNewLink_iff h.valid]
  refine ⟨fun hnew r' hr' => hnew r' ((h.mem_relationships_iff r').2 (.inr hr')), fun hnew r' hr' => ?_⟩
  rcases (h.mem_relationships_iff r').1 hr' with hlink | hc
  · obtain ⟨path, isFile, hk, hid, a, ha, b, hb, has, hbt, hpath, hne, -⟩ := Link.discover_joins hr
    obtain ⟨a', ha', haid⟩ := exists_piece_of_mem_entities hsound h ha
    obtain ⟨b', hb', hbid⟩ := exists_piece_of_mem_entities hsound h hb
    rw [hid, ← has, ← hbt, ← haid, ← hbid]
    exact Inventory.link_id_ne hsound hclosed htells ha' hb' (fun he => hne (he.symm.trans hpath)) hk hlink
  · exact hnew r' hc

end

/-! ## Builds and refreshes -/

variable {registry : Registry} {scanner : Scanner} {disk disk' : FileTree} {root path : String} {f : List String}

theorem entities_build {res : BuildResult} (hres : build registry scanner disk root = .ok res) :
    res.graph.entities = (parsedGraph registry scanner disk root).entities := by
  rcases build_cases registry scanner disk root with ⟨-, res', hres', hgraph⟩ | ⟨-, fault, hfault⟩
  · rw [hres] at hres'
    rw [Except.ok.inj hres', hgraph, entities_freeze, entities_connect]
  · rw [hres] at hfault
    exact absurd hfault (by simp)

/-- A build has the relationships between paths that discovery finds among its entities. -/
theorem joins_build_iff (h : Readable registry scanner root disk)
    (htells : (inventory registry scanner disk root).TellsEnds (absolute root)) {res : BuildResult}
    (hres : build registry scanner disk root = .ok res) (r : Relationship) : res.graph.JoinsPaths r ↔
      r ∈ Link.discover registry.supportedExtensions res.graph.entities (absolute root) := by
  rw [joinsPaths_iff h.sound (shows_build h.wf h.sound hres), entities_build hres, List.mem_filter]
  refine and_iff_left_of_imp fun hr => ?_
  exact (isNewLink_discovered_iff h.sound (closed_inventory h.wf) htells (shows_parsedGraph h.wf h.sound) hr).2
    fun _ hc => hc.elim

theorem entities_rebuildFile (hwf' : disk'.WellFormed)
    (hplace : Refreshable registry scanner root path f disk disk') {previous : Graph} {res : BuildResult}
    (hres : rebuildFile registry scanner disk' previous root path = .ok res) :
    res.graph.entities = (refreshedGraph registry scanner disk' root previous (ofNames f)).entities := by
  rcases rebuild_cases hwf' hplace.resolves hplace.ne_nil hplace.file_after previous with
    ⟨-, res', hres', hgraph⟩ | ⟨-, fault, hfault⟩
  · rw [hres] at hres'
    rw [Except.ok.inj hres', hgraph, entities_freeze, entities_connect]
  · rw [hres] at hfault
    exact absurd hfault (by simp)

/-- After a refresh, what joined paths and does not touch the file still does, and so does what discovery finds
    under a new id. -/
theorem joins_refresh_iff_of_refreshable (hbefore : Readable registry scanner root disk)
    (hafter : Readable registry scanner root disk')
    (htells : (inventory registry scanner disk' root).TellsEnds (absolute root))
    (hplace : Refreshable registry scanner root path f disk disk') {previous : Graph}
    {crossing : Relationship → Prop}
    (hshown : (inventory registry scanner disk root).ShownIn (absolute root) previous crossing) {res : BuildResult}
    (hres : rebuildFile registry scanner disk' previous root path = .ok res) (r : Relationship) :
    res.graph.JoinsPaths r ↔ (previous.JoinsPaths r ∧ ¬ previous.Touches (ofNames f) r) ∨
      (r ∈ Link.discover registry.supportedExtensions res.graph.entities (absolute root) ∧
        ∀ r', previous.JoinsPaths r' → ¬ previous.Touches (ofNames f) r' → r'.id ≠ r.id) := by
  have hkept : ∀ r', Avoiding (absolute root) (inventory registry scanner disk root) (ofNames f) crossing r' ↔
      previous.JoinsPaths r' ∧ ¬ previous.Touches (ofNames f) r' := fun r' => by
    rw [Avoiding, joinsPaths_iff hbefore.sound hshown]
    refine and_congr_right fun _ => ?_
    rw [← hshown.located_eq]
    simp only [mem_located_iff, Touches]
    grind
  have hrefreshed := shows_refreshedGraph hbefore.wf hafter.wf hbefore.sound hafter.sound hplace hshown
  rw [joinsPaths_iff hafter.sound
      (shows_refresh_of_refreshable hbefore.wf hafter.wf hbefore.sound hafter.sound hplace hshown hres),
    entities_rebuildFile hafter.wf hplace hres, List.mem_filter, hkept]
  refine or_congr_right (and_congr_right fun hr => ?_)
  rw [isNewLink_discovered_iff hafter.sound (closed_inventory hafter.wf) htells hrefreshed hr]
  simp only [hkept, and_imp]

/-- The same after a change of one file. -/
theorem joins_refresh_iff (hlocal : registry.ReadsOwnFile) (hbefore : Readable registry scanner root disk)
    (hafter : Readable registry scanner root disk')
    (htells : (inventory registry scanner disk' root).TellsEnds (absolute root))
    (hchange : FileChange scanner root path f disk disk') {previous : Graph} {crossing : Relationship → Prop}
    (hshown : (inventory registry scanner disk root).ShownIn (absolute root) previous crossing) {res : BuildResult}
    (hres : rebuildFile registry scanner disk' previous root path = .ok res) (r : Relationship) :
    res.graph.JoinsPaths r ↔ (previous.JoinsPaths r ∧ ¬ previous.Touches (ofNames f) r) ∨
      (r ∈ Link.discover registry.supportedExtensions res.graph.entities (absolute root) ∧
        ∀ r', previous.JoinsPaths r' → ¬ previous.Touches (ofNames f) r' → r'.id ≠ r.id) :=
  joins_refresh_iff_of_refreshable hbefore hafter htells (.of_change hchange hbefore.wf hafter.wf hlocal) hshown hres r

/-- Trees that show the same inventory give discovery the same to find. -/
theorem mem_discover_iff_of_shownIn {I : Inventory} {g h : Graph} {crossing crossing' : Relationship → Prop}
    (hsound : I.Sound (absolute root)) (htells : I.TellsEnds (absolute root))
    (hg : I.ShownIn (absolute root) g crossing) (hh : I.ShownIn (absolute root) h crossing')
    (extensions : List String) (r : Relationship) : r ∈ Link.discover extensions g.entities (absolute root) ↔
      r ∈ Link.discover extensions h.entities (absolute root) := by
  refine Link.mem_discover_congr (idsTell_of_shownIn hsound htells hg) (idsTell_of_shownIn hsound htells hh)
    (fun path => ?_) r
  have hsame : g.located path = h.located path := (hg.located_eq path).trans (hh.located_eq path).symm
  exact hsame

/-- Discovery finds one relationship under an id. -/
theorem eq_of_mem_discover {extensions : List String} {es : List Entity} {r r' : Relationship}
    (hr : r ∈ Link.discover extensions es root) (hr' : r' ∈ Link.discover extensions es root) (hid : r.id = r'.id) :
    r = r' := List.inj_on_of_nodup_map (Link.nodup_discover es) hr hr' hid

/-- **When a refresh agrees with a build.** After a change of one file, a build has the relationships between
    paths that discovery finds among the entities of the refreshed graph. The refreshed graph misses none of
    them, and it has no others exactly if discovery still finds everything that joined paths before and does
    not touch the file. -/
theorem refresh_agrees_iff (hlocal : registry.ReadsOwnFile) (hbefore : Readable registry scanner root disk)
    (hafter : Readable registry scanner root disk')
    (htells : (inventory registry scanner disk' root).TellsEnds (absolute root))
    (hchange : FileChange scanner root path f disk disk') {previous refreshed : BuildResult}
    (hprevious : build registry scanner disk root = .ok previous)
    (hrefreshed : rebuildFile registry scanner disk' previous.graph root path = .ok refreshed) :
    ∃ fresh, build registry scanner disk' root = .ok fresh ∧
      (∀ r, fresh.graph.JoinsPaths r ↔
        r ∈ Link.discover registry.supportedExtensions refreshed.graph.entities (absolute root)) ∧
      (∀ r ∈ Link.discover registry.supportedExtensions refreshed.graph.entities (absolute root),
        ∃ r', refreshed.graph.JoinsPaths r' ∧ r'.id = r.id) ∧
      ((∀ r, refreshed.graph.JoinsPaths r ↔
          r ∈ Link.discover registry.supportedExtensions refreshed.graph.entities (absolute root)) ↔
        ∀ r, previous.graph.JoinsPaths r → ¬ previous.graph.Touches (ofNames f) r →
          r ∈ Link.discover registry.supportedExtensions refreshed.graph.entities (absolute root)) := by
  have hshown := shows_build hbefore.wf hbefore.sound hprevious
  have hjoins := joins_refresh_iff hlocal hbefore hafter htells hchange hshown hrefreshed
  obtain ⟨fresh, hfresh⟩ := (build_isOk_of_change hbefore.wf hafter.wf hlocal hchange ⟨previous, hprevious⟩ _).1
    ⟨refreshed, hrefreshed⟩
  refine ⟨fresh, hfresh, fun r => ?_, fun r hr => ?_, fun hagree r hr hfree => ?_,
    fun hfound r => ⟨fun hr => ?_, fun hr => ?_⟩⟩
  · rw [joins_build_iff hafter htells hfresh]
    exact mem_discover_iff_of_shownIn hafter.sound htells (shows_build hafter.wf hafter.sound hfresh)
      (shows_refresh hbefore.wf hafter.wf hlocal hbefore.sound hafter.sound hchange hshown hrefreshed) _ r
  · -- what is discovered is there, or what stayed has its id
    by_cases hkept : ∃ r', previous.graph.JoinsPaths r' ∧ ¬ previous.graph.Touches (ofNames f) r' ∧ r'.id = r.id
    · obtain ⟨r', hr', hfree, hid⟩ := hkept
      exact ⟨r', (hjoins r').2 (.inl ⟨hr', hfree⟩), hid⟩
    · exact ⟨r, (hjoins r).2 (.inr ⟨hr, fun r' hr' hfree hid => hkept ⟨r', hr', hfree, hid⟩⟩), rfl⟩
  · exact (hagree r).1 ((hjoins r).2 (.inl ⟨hr, hfree⟩))
  · rcases (hjoins r).1 hr with ⟨hr', hfree⟩ | ⟨hr', -⟩
    · exact hfound r hr' hfree
    · exact hr'
  · by_cases hkept : previous.graph.JoinsPaths r ∧ ¬ previous.graph.Touches (ofNames f) r
    · exact (hjoins r).2 (.inl hkept)
    · refine (hjoins r).2 (.inr ⟨hr, fun r' hr' hfree hid => hkept ?_⟩)
      rw [← eq_of_mem_discover (hfound r' hr' hfree) hr hid]
      exact ⟨hr', hfree⟩

/-! ## A package that a module hides -/

section

variable (registry : Registry) (scanner : Scanner) (disk : FileTree) (root : String)

/-- The entities of a tree, find by find. -/
def listing : List Entity :=
  directoryEntity (absolute root) "." :: (findsOf scanner disk root).flatMap fun x =>
    match x.size with
    | none => [directoryEntity (absolute root) x.path]
    | some n =>
      (part (scannedFile (absolute root) x.path n) (output? registry disk root (join (absolute root) x.path))).entities

end

theorem listing_eq (hwf : disk.WellFormed) : listing registry scanner disk root
    = ("." :: (findsOf scanner disk root).map (·.path)).flatMap
        ((inventory registry scanner disk root).located (absolute root)) := by
  rw [List.flatMap_cons, List.flatMap_map, listing]
  refine congrArg₂ List.cons rfl (List.flatMap_congr fun x hx => ?_)
  obtain ⟨path, size⟩ := x
  have hfound : found? scanner disk root path = some size := found?_of_mem_findsOf hwf hx
  cases size <;> simp only [Inventory.located, inventory, hfound]

theorem flatMap_ite_eq {α β : Type} [DecidableEq α] {l : List α} (h : l.Nodup) (x : α) (f : α → List β) :
    (l.flatMap fun y => if y = x then f y else []) = if x ∈ l then f x else [] := by
  induction l with
  | nil => rfl
  | cons y rest ih =>
      rw [List.nodup_cons] at h
      rw [List.flatMap_cons, ih h.2]
      by_cases hy : y = x
      · subst hy
        simp [h.1]
      · simp [hy, Ne.symm hy]

/-- A tree lists at each path what its inventory has there. -/
theorem atPath_listing (h : Readable registry scanner root disk) (path : String) :
    Link.atPath (listing registry scanner disk root) path
      = (inventory registry scanner disk root).located (absolute root) path := by
  have hat : ∀ q, ((inventory registry scanner disk root).located (absolute root) q).filter (·.path = path)
      = if q = path then (inventory registry scanner disk root).located (absolute root) q else [] := fun q => by
    have hpath : ∀ e ∈ (inventory registry scanner disk root).located (absolute root) q, e.path = q := fun e he =>
      (Inventory.exists_piece_of_mem h.sound he).1
    by_cases hq : q = path
    · rw [if_pos hq, List.filter_eq_self.2 fun e he => decide_eq_true ((hpath e he).trans hq)]
    · rw [if_neg hq, List.filter_eq_nil_iff.2 fun e he hep => hq ((hpath e he).symm.trans (of_decide_eq_true hep))]
  have hnodup : ("." :: (findsOf scanner disk root).map (·.path)).Nodup := by
    refine List.nodup_cons.2 ⟨fun hmem => ?_, nodup_findsOf scanner h.wf root⟩
    obtain ⟨x, hx, hdot⟩ := List.mem_map.1 hmem
    exact path_ne_dot h.wf hx hdot
  rw [Link.atPath, listing_eq h.wf, List.filter_flatMap]
  simp only [hat]
  rw [flatMap_ite_eq hnodup]
  split
  · rfl
  · next hmem =>
      have hnone : found? scanner disk root path = none := by
        cases hfound : found? scanner disk root path with
        | none => rfl
        | some size =>
            refine absurd ?_ hmem
            by_cases hdot : path = "."
            · rw [hdot]; exact List.mem_cons_self ..
            · exact List.mem_cons_of_mem _ (List.mem_map.2 ⟨_, mem_findsOf_of_found? hdot _ hfound, rfl⟩)
      simp [Inventory.located, inventory, hnone]

/-- Discovery finds among the entities of a graph what it finds among those that the tree lists. -/
theorem mem_discover_listing_iff (h : Readable registry scanner root disk)
    (htells : (inventory registry scanner disk root).TellsEnds (absolute root)) {g : Graph}
    {crossing : Relationship → Prop} (hg : (inventory registry scanner disk root).ShownIn (absolute root) g crossing)
    (extensions : List String) (r : Relationship) : r ∈ Link.discover extensions g.entities (absolute root) ↔
      r ∈ Link.discover extensions (listing registry scanner disk root) (absolute root) := by
  have hsame : ∀ q, Link.atPath g.entities q = Link.atPath (listing registry scanner disk root) q := fun q =>
    (hg.located_eq q).trans (atPath_listing h q).symm
  have hmem : ∀ e ∈ listing registry scanner disk root, e ∈ g.entities := fun e he => by
    have hat : e ∈ Link.atPath (listing registry scanner disk root) e.path := by simpa [Link.atPath] using he
    rw [← hsame] at hat
    exact (List.mem_filter.1 hat).1
  have htell := idsTell_of_shownIn h.sound htells hg
  exact Link.mem_discover_congr htell ⟨fun a ha b hb => htell.entity_ext a (hmem a ha) b (hmem b hb),
    fun a ha b hb a' ha' b' hb' => htell.ends_of_id a (hmem a ha) b (hmem b hb) a' (hmem a' ha') b' (hmem b' hb')⟩
    hsame r

/-- In a tree that passes the check, ids tell ends. -/
theorem tellsEnds_of_plain (h : Plain registry scanner disk root) :
    (inventory registry scanner disk root).TellsEnds (absolute root) where
  id_eq path n o hn ho r hr := ((h.1 _ (mem_outputs hn ho)).2 r hr).2.2
  ends_of_id ha hb ha' hb' hid := by
    have hsource := source_of_blankless (h.2.2 _ (mem_pieces ha)) (h.2.2 _ (mem_pieces ha')) hid
    rw [hsource] at hid
    exact ⟨hsource, (relationshipId_inj hid).2⟩

/-- The import of the package. -/
def packageImport : Relationship :=
  Relationship.create "file:a.py:a.py:1" .imports "file:util/__init__.py:__init__.py:1" 1
    [("reference", .text "util")]

/-- Discovery finds the import of the package, but not beside the module, which is tried first. -/
theorem packageImport_hidden :
    packageImport ∈ Link.discover importRegistry.supportedExtensions
        (listing importRegistry (scannerFor ".py") packageDisk "/r") (absolute "/r") ∧
      packageImport ∉ Link.discover importRegistry.supportedExtensions
        (listing importRegistry (scannerFor ".py") moduleDisk "/r") (absolute "/r") := by
  simp only [listing, packageDisk_scanned.1, moduleDisk_scanned.1]
  decide +kernel

/-- With the module added, the import of the package survives a refresh, and a build does not have it. -/
theorem refresh_of_moduleDisk_agrees_iff :
    importRegistry.ReadsOwnFile ∧ Readable importRegistry (scannerFor ".py") "/r" packageDisk ∧
      Readable importRegistry (scannerFor ".py") "/r" moduleDisk ∧
      (inventory importRegistry (scannerFor ".py") moduleDisk "/r").TellsEnds (absolute "/r") ∧
      FileChange (scannerFor ".py") "/r" "util.py" ["util.py"] packageDisk moduleDisk ∧
      ∃ previous refreshed, build importRegistry (scannerFor ".py") packageDisk "/r" = .ok previous ∧
        rebuildFile importRegistry (scannerFor ".py") moduleDisk previous.graph "/r" "util.py" = .ok refreshed ∧
        (∃ fresh, build importRegistry (scannerFor ".py") moduleDisk "/r" = .ok fresh ∧
          (∀ r, fresh.graph.JoinsPaths r ↔
            r ∈ Link.discover importRegistry.supportedExtensions refreshed.graph.entities (absolute "/r")) ∧
          (∀ r ∈ Link.discover importRegistry.supportedExtensions refreshed.graph.entities (absolute "/r"),
            ∃ r', refreshed.graph.JoinsPaths r' ∧ r'.id = r.id) ∧
          ((∀ r, refreshed.graph.JoinsPaths r ↔
              r ∈ Link.discover importRegistry.supportedExtensions refreshed.graph.entities (absolute "/r")) ↔
            ∀ r, previous.graph.JoinsPaths r → ¬ previous.graph.Touches (ofNames ["util.py"]) r →
              r ∈ Link.discover importRegistry.supportedExtensions refreshed.graph.entities (absolute "/r"))) ∧
        previous.graph.JoinsPaths packageImport ∧ ¬ previous.graph.Touches (ofNames ["util.py"]) packageImport ∧
        packageImport ∉ Link.discover importRegistry.supportedExtensions refreshed.graph.entities (absolute "/r") := by
  have hlocal := Registry.readsOwnFile_of_readers importRegistry_ofReaders
  have htells := tellsEnds_of_plain packageDisk_scanned.2
  have htells' := tellsEnds_of_plain moduleDisk_scanned.2
  have hparses : ∀ disk p, ParsesAt importRegistry (scannerFor ".py") disk "/r" p :=
    parsesAt_of_readers importRegistry_ofReaders
  obtain ⟨previous, hprevious⟩ := (build_isOk_iff readable_packageDisk.wf).2
    ⟨compiles_of_unasked rfl packageDisk, hparses packageDisk⟩
  obtain ⟨refreshed, hrefreshed⟩ := (rebuildFile_isOk_iff readable_moduleDisk.wf change_moduleDisk previous.graph).2
    ⟨compiles_of_unasked rfl moduleDisk, hparses _ _⟩
  have hshown := shows_build readable_packageDisk.wf readable_packageDisk.sound hprevious
  have hshown' := shows_refresh readable_packageDisk.wf readable_moduleDisk.wf hlocal readable_packageDisk.sound
    readable_moduleDisk.sound change_moduleDisk hshown hrefreshed
  refine ⟨hlocal, readable_packageDisk, readable_moduleDisk, htells', change_moduleDisk, previous, refreshed, hprevious,
    hrefreshed, refresh_agrees_iff hlocal readable_packageDisk readable_moduleDisk htells' change_moduleDisk hprevious
      hrefreshed, ?_, ?_, ?_⟩
  · rw [joins_build_iff readable_packageDisk htells hprevious,
      mem_discover_listing_iff readable_packageDisk htells hshown]
    exact packageImport_hidden.1
  · rintro ⟨e, he, hpath, -⟩
    have hat := (hshown.mem_entities_iff e).1 he
    have hnone : found? (scannerFor ".py") packageDisk "/r" (ofNames ["util.py"]) = none := by
      rw [found?, packageDisk_scanned.1]
      rfl
    simp [hpath, Inventory.located, inventory, hnone] at hat
  · rw [mem_discover_listing_iff readable_moduleDisk htells' hshown']
    exact packageImport_hidden.2

end Build

end CodeAtlas
