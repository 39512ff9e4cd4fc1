import CodeAtlas.Proofs.Build.RefreshLinks
import CodeAtlas.Proofs.Graph.Stored

set_option autoImplicit false

/-! # Refreshing what did not change

A refresh takes the entities of a file out of the graph with everything that touches them, and puts back what
the file's parser and discovery find. If nothing on the disk changed since the graph was built, that is what was
taken out: the graph shows the same inventory, and between paths discovery finds again what it found.
`rebuildFile_unchanged` is over every path that names no folder, below the root, outside it or the root itself. -/

namespace CodeAtlas.Build

open CodeAtlas.Scan CodeAtlas.Path CodeAtlas.Graph

/-! ## Graphs that show the same -/

/-- Graphs that show one inventory are stored alike if the same relationships join paths in them. -/
theorem toSnapshot_eq_of_shownIn {I : Inventory} {root : String} {g h : Graph}
    {crossing crossing' : Relationship → Prop} (hsound : I.Sound root) (hg : I.ShownIn root g crossing)
    (hh : I.ShownIn root h crossing') (hjoins : ∀ r, g.JoinsPaths r ↔ h.JoinsPaths r) :
    h.toSnapshot = g.toSnapshot := by
  refine ((toSnapshot_eq_iff hg.valid hh.valid).2 ⟨hg.mem_entities_congr hh, fun r => ?_⟩).symm
  rw [hg.mem_relationships_iff, hh.mem_relationships_iff, ← joinsPaths_iff hsound hg, ← joinsPaths_iff hsound hh,
    hjoins]

/-- An inventory without a path where nothing stands is the inventory. -/
theorem shows_dropFile_nothing {I : Inventory} {root path : String} {g : Graph} {crossing : Relationship → Prop}
    (hsound : I.Sound root) (hclosed : I.Closed) (hnone : I.found? path = none) (h : I.ShownIn root g crossing) :
    I.ShownIn root (g.dropFile path).1 crossing := by
  have hfound : ∀ p, I.found? p = (I.without path).found? p := fun p => by
    by_cases hp : p = path
    · simp [Inventory.without, hp, hnone]
    · simp [Inventory.without, hp]
  have hempty : I.located root path = [] := by simp [Inventory.located, hnone]
  refine (shows_dropFile hsound hclosed (by rw [hnone]; simp) h).congr
    (Inventory.located_congr hfound fun _ _ _ => rfl) (Inventory.hasLink_congr hfound fun _ _ _ => rfl) fun r => ?_
  simp [hempty]

variable {registry : Registry} {scanner : Scanner} {disk : FileTree} {root path : String} {f : List String}

/-! ## A path below the root -/

/-- Between paths, a refresh of an unchanged file has what the build has. -/
theorem joins_unchanged_iff (h : Readable registry scanner root disk)
    (htells : (inventory registry scanner disk root).TellsEnds (absolute root)) {built res : BuildResult}
    (hbuilt : build registry scanner disk root = .ok built)
    (hplace : Refreshable registry scanner root path f disk disk)
    (hres : rebuildFile registry scanner disk built.graph root path = .ok res) (r : Relationship) :
    built.graph.JoinsPaths r ↔ res.graph.JoinsPaths r := by
  have hshown := shows_build h.wf h.sound hbuilt
  have hsame := mem_discover_iff_of_shownIn h.sound htells hshown
    (shows_refresh_of_refreshable h.wf h.wf h.sound h.sound hplace hshown hres) registry.supportedExtensions
  rw [joins_refresh_iff_of_refreshable h h htells hplace hshown hres]
  simp only [joins_build_iff h htells hbuilt, ← hsame]
  constructor
  · intro hr
    by_cases htouch : built.graph.Touches (ofNames f) r
    · -- what touches the file is found again, for nothing that stayed has its id
      refine .inr ⟨hr, fun r' hr' hfree hid => hfree ?_⟩
      rwa [eq_of_mem_discover hr' hr hid]
    · exact .inl ⟨hr, htouch⟩
  · rintro (⟨hr, -⟩ | ⟨hr, -⟩)
    · exact hr
    · exact hr

/-- A path below the root that names no folder. -/
theorem rebuildFile_unchanged_below (h : Readable registry scanner root disk)
    (htells : (inventory registry scanner disk root).TellsEnds (absolute root)) {built : BuildResult}
    (hbuilt : build registry scanner disk root = .ok built)
    (hplace : Refreshable registry scanner root path f disk disk) :
    ∃ res, rebuildFile registry scanner disk built.graph root path = .ok res ∧
      res.graph.toSnapshot = built.graph.toSnapshot := by
  rcases rebuild_cases h.wf hplace.resolves hplace.ne_nil hplace.file_after built.graph with
    ⟨-, res, hres, -⟩ | ⟨hfails, -⟩
  · have hshown := shows_build h.wf h.sound hbuilt
    exact ⟨res, hres, toSnapshot_eq_of_shownIn h.sound hshown
      (shows_refresh_of_refreshable h.wf h.wf h.sound h.sound hplace hshown hres)
      (joins_unchanged_iff h htells hbuilt hplace hres)⟩
  · obtain ⟨hcompiles, hparses⟩ := (build_isOk_iff h.wf).1 ⟨built, hbuilt⟩
    exact absurd ⟨hcompiles, hparses (ofNames f)⟩ hfails

/-! ## Any other path -/

/-- What is found is found under names. -/
theorem found?_eq_none (hwf : disk.WellFormed) {p : String} (hp : ∀ m, AllNames m → p ≠ ofNames m) :
    found? scanner disk root p = none := by
  cases hfound : found? scanner disk root p with
  | none => rfl
  | some size =>
      obtain ⟨m, hm, hpm⟩ := names_of_found? hwf hfound
      exact absurd hpm (hp m hm)

/-- To drop what stands at no path of names and to connect the graph again changes nothing. -/
theorem toSnapshot_connect_dropped (h : Readable registry scanner root disk)
    (htells : (inventory registry scanner disk root).TellsEnds (absolute root)) {built : BuildResult}
    (hbuilt : build registry scanner disk root = .ok built) {p : String} (hp : ∀ m, AllNames m → p ≠ ofNames m) :
    (connect (absolute root) registry.supportedExtensions (droppedGraph built.graph p)).freeze.toSnapshot
      = built.graph.toSnapshot := by
  have hshown := shows_build h.wf h.sound hbuilt
  have hdropped := shows_dropFile_nothing h.sound (closed_inventory h.wf) (found?_eq_none h.wf hp) hshown.copy
  have hconnected : (inventory registry scanner disk root).ShownIn (absolute root)
      (connect (absolute root) registry.supportedExtensions (droppedGraph built.graph p)).freeze _ :=
    (shows_connect hdropped _).freeze
  refine toSnapshot_eq_of_shownIn h.sound hshown hconnected fun r => ?_
  rw [joinsPaths_iff h.sound hshown, joinsPaths_iff h.sound hconnected]
  refine ⟨.inl, fun hr => hr.elim id fun hnew => ?_⟩
  -- discovery finds what it found in the build
  rw [← joinsPaths_iff h.sound hshown, joins_build_iff h htells hbuilt]
  exact (mem_discover_iff_of_shownIn h.sound htells hshown hdropped _ r).2 (List.mem_filter.1 hnew).1

/-- A path outside the root, or the root itself. -/
theorem rebuildFile_unchanged_outside (h : Readable registry scanner root disk)
    (htells : (inventory registry scanner disk root).TellsEnds (absolute root)) {built : BuildResult}
    (hbuilt : build registry scanner disk root = .ok built)
    (hout : ¬ ∃ f, f ≠ [] ∧ absoluteSegments (resolve (absolute root) path) = absoluteSegments root ++ f) :
    ∃ res, rebuildFile registry scanner disk built.graph root path = .ok res ∧
      res.graph.toSnapshot = built.graph.toSnapshot := by
  obtain ⟨⟨reason, hrefused⟩, hrelative⟩ := @inspect_outside scanner disk root path hout
  rw [rebuildFile_inspected hrefused, rebuildInspected]
  rcases finish_cases [] (droppedGraph built.graph (relative (absolute root) (resolve (absolute root) path))) _ with
    ⟨-, res, hres, hgraph⟩ | ⟨hparses, -⟩
  · rw [List.foldl_nil] at hgraph
    exact ⟨res, hres, hgraph ▸ toSnapshot_connect_dropped h htells hbuilt hrelative⟩
  · exact absurd (by simp [Parses]) hparses

/-! ## Every path -/

/-- **Refreshing what did not change changes nothing.** Where parsers keep their promise and ids do not collide, a
    tree was built and nothing on the disk changed, a refresh of any path that names no folder succeeds and gives
    a graph that is stored as the graph of the build is. -/
theorem rebuildFile_unchanged (h : Readable registry scanner root disk)
    (htells : (inventory registry scanner disk root).TellsEnds (absolute root)) {built : BuildResult}
    (hbuilt : build registry scanner disk root = .ok built) (path : String)
    (hfile : disk.isFolderAt (absoluteSegments (resolve (absolute root) path)) = false) :
    ∃ res, rebuildFile registry scanner disk built.graph root path = .ok res ∧
      res.graph.toSnapshot = built.graph.toSnapshot := by
  by_cases hbelow : ∃ f, f ≠ [] ∧ absoluteSegments (resolve (absolute root) path) = absoluteSegments root ++ f
  · obtain ⟨f, hne, hresolve⟩ := hbelow
    exact rebuildFile_unchanged_below h htells hbuilt (.of_unchanged h.wf hresolve hne (hresolve ▸ hfile))
  · exact rebuildFile_unchanged_outside h htells hbuilt hbelow

/-- A file, a file that is not there and a path outside the root, in the tree of a package and its import. -/
theorem rebuildFile_packageDisk_unchanged :
    ∃ built, build importRegistry (scannerFor ".py") packageDisk "/r" = .ok built ∧
      ∀ path ∈ ["util/__init__.py", "gone.py", "../s/b.py"],
        ∃ res, rebuildFile importRegistry (scannerFor ".py") packageDisk built.graph "/r" path = .ok res ∧
          res.graph.toSnapshot = built.graph.toSnapshot := by
  have hcompiles : (scannerFor ".py").Compiles packageDisk "/r" := compiles_of_unasked rfl packageDisk
  obtain ⟨built, hbuilt⟩ := (build_isOk_iff readable_packageDisk.wf).2
    ⟨hcompiles, parsesAt_of_readers importRegistry_ofReaders packageDisk⟩
  refine ⟨built, hbuilt, fun path hpath => ?_⟩
  have hfile : ∀ path ∈ ["util/__init__.py", "gone.py", "../s/b.py"],
      packageDisk.isFolderAt (absoluteSegments (resolve (absolute "/r") path)) = false := by decide +kernel
  exact rebuildFile_unchanged readable_packageDisk (tellsEnds_of_plain packageDisk_scanned.2) hbuilt path
    (hfile path hpath)

end CodeAtlas.Build
