import CodeAtlas.Glob.Basic
import CodeAtlas.Proofs.Build.Refresh

set_option autoImplicit false

/-! # Runs of refreshes

A graph is built, and then one file after another changes and is refreshed. `Refreshed` is such a run. It
keeps one invariant, `Refreshed.shows_inventory`: the graph shows the inventory of the tree as it stands now.
So does the graph of a fresh build, and two graphs that show the same inventory have the same structure:
the same entities, the same containments and the same relationships inside each path
(`refreshed_has_structure_of_build`). Relationships that cross may differ. -/

namespace CodeAtlas

/-! ## Structure -/

namespace Graph

/-- Does a relationship join entities of one path? -/
def JoinsOnePath (g : Graph) (r : Relationship) : Prop :=
  ∃ a ∈ g.entities, ∃ b ∈ g.entities, a.id = r.source ∧ b.id = r.target ∧ a.path = b.path

/-- Two graphs have the same entities, field by field, the same containments and the same relationships inside
    each path. -/
structure SameStructure (g h : Graph) : Prop where
  entities_perm : g.entities.Perm h.entities
  contains_iff : ∀ r, r.kind = .contains → (r ∈ g.relationships ↔ r ∈ h.relationships)
  inside_iff : ∀ r, g.JoinsOnePath r → (r ∈ g.relationships ↔ r ∈ h.relationships)

namespace Shows

variable {g g' : Graph} {atPath : String → List Entity} {links crossing crossing' : Relationship → Prop}

/-- Of the relationships that do not cross, a graph has the links. -/
theorem mem_relationships_of_not_crosses (h : Shows g atPath links crossing) {r : Relationship}
    (hr : ¬ Crosses g r) : r ∈ g.relationships ↔ links r := by
  rw [h.mem_relationships_iff]
  exact or_iff_left fun hc => hr (h.crosses r hc)

theorem not_crosses_of_joinsOnePath (hv : Valid g) {r : Relationship} (h : g.JoinsOnePath r) : ¬ Crosses g r := by
  rintro ⟨-, -, a, ha, b, hb, has, hbt, hne⟩
  obtain ⟨a', ha', b', hb', has', hbt', hpath⟩ := h
  rw [hv.entity_ext ha ha' (has.trans has'.symm), hv.entity_ext hb hb' (hbt.trans hbt'.symm)] at hne
  exact hne hpath

theorem mem_entities_congr (h : Shows g atPath links crossing) (h' : Shows g' atPath links crossing')
    (e : Entity) : e ∈ g.entities ↔ e ∈ g'.entities := by
  rw [h.mem_entities_iff, h'.mem_entities_iff]

/-- Graphs that show the same, what crosses apart, have the same structure. -/
theorem sameStructure (h : Shows g atPath links crossing) (h' : Shows g' atPath links crossing') :
    SameStructure g g' where
  entities_perm :=
    (List.perm_ext_iff_of_nodup h.valid.nodup_entities.of_map h'.valid.nodup_entities.of_map).2
      (h.mem_entities_congr h')
  contains_iff r hr := by
    have hcross : ∀ {k : Graph}, ¬ Crosses k r := fun hc => hc.kind_ne hr
    rw [h.mem_relationships_of_not_crosses hcross, h'.mem_relationships_of_not_crosses hcross]
  inside_iff r hr := by
    have hr' : g'.JoinsOnePath r := by
      obtain ⟨a, ha, b, hb, hends⟩ := hr
      exact ⟨a, (h.mem_entities_congr h' a).1 ha, b, (h.mem_entities_congr h' b).1 hb, hends⟩
    rw [h.mem_relationships_of_not_crosses (not_crosses_of_joinsOnePath h.valid hr),
      h'.mem_relationships_of_not_crosses (not_crosses_of_joinsOnePath h'.valid hr')]

end Shows

end Graph

namespace Build

open CodeAtlas.Scan CodeAtlas.Path CodeAtlas.Graph

variable {registry : Registry} {scanner : Scanner} {root : String}

/-! ## When builds and refreshes succeed -/

theorem parses_scanned_iff {disk : FileTree} (hwf : disk.WellFormed) :
    Parses registry disk root (scanner.scanned disk root).files ↔ ∀ p, ParsesAt registry scanner disk root p := by
  constructor
  · intro h p n hn
    exact h (scannedFile (absolute root) p n) ((mem_scanned_files hwf _).2 ⟨n, rfl, hn⟩)
  · intro h file hfile
    obtain ⟨n, heq, hn⟩ := (mem_scanned_files hwf file).1 hfile
    rw [heq]
    exact h _ n hn

/-- A build succeeds if the ignore file compiles and every file that it finds has an output. -/
theorem build_isOk_iff {disk : FileTree} (hwf : disk.WellFormed) :
    (∃ res, build registry scanner disk root = .ok res) ↔
      scanner.Compiles disk root ∧ ∀ p, ParsesAt registry scanner disk root p := by
  rw [← parses_scanned_iff hwf]
  rcases build_cases registry scanner disk root with ⟨h, res, hres, -⟩ | ⟨h, f, hf⟩
  · exact iff_of_true ⟨res, hres⟩ h
  · exact iff_of_false (by rintro ⟨res, hres⟩; rw [hf] at hres; cases hres) h

/-- Readers make something of every file. -/
theorem parsesAt_of_readers (h : registry.OfReaders) (disk : FileTree) (p : String) :
    ParsesAt registry scanner disk root p := fun n _ => by
  rcases Registry.parserFor_of_readers h (join (absolute root) p) with hp | ⟨r, hp⟩
  · exact ⟨_, parse_eq_ok_of_unclaimed hp _⟩
  · exact ⟨_, by simp only [Registry.parse, hp, bind, Except.bind]; rfl⟩

/-- A scanner that does not ask for the ignore file has nothing to compile. -/
theorem compiles_of_unasked (h : scanner.options.respectGitignore = false) (disk : FileTree) :
    scanner.Compiles disk root := by
  have hnone : scanner.ignored disk (absolute root) = [] := by rw [Scanner.ignored, h]; rfl
  exact ⟨scanner.filtersWith [], by rw [Scanner.filters, hnone]; rfl⟩

section

variable {disk disk' : FileTree} {path : String} {f : List String}

theorem rebuildFile_isOk_iff (hwf' : disk'.WellFormed) (hchange : FileChange scanner root path f disk disk')
    (previous : Graph) : (∃ res, rebuildFile registry scanner disk' previous root path = .ok res) ↔
      scanner.Compiles disk' root ∧ ParsesAt registry scanner disk' root (ofNames f) := by
  rcases rebuild_cases hwf' hchange.resolves hchange.ne_nil hchange.file_after previous with
    ⟨h, res, hres, -⟩ | ⟨h, fault, hfault⟩
  · exact iff_of_true ⟨res, hres⟩ h
  · exact iff_of_false (by rintro ⟨res, hres⟩; rw [hfault] at hres; cases hres) h

/-- A change leaves the other files their outputs. -/
theorem parsesAt_other (hwf : disk.WellFormed) (hwf' : disk'.WellFormed) (hlocal : registry.ReadsOwnFile)
    (hchange : FileChange scanner root path f disk disk') {p : String} (hp : p ≠ ofNames f)
    (h : ParsesAt registry scanner disk root p) : ParsesAt registry scanner disk' root p := by
  intro n hn
  obtain ⟨m, hne, hm, rfl⟩ := names_of_found?_file hwf' hn
  have hbytes := hchange.others_eq m fun he => hp (by rw [he])
  obtain ⟨o, ho⟩ := h n ((hchange.found?_other_iff hwf hwf' hp n).1 hn)
  rw [hlocal.parse_congr (read_found_congr hwf' hne hm hn hbytes.symm)] at ho
  exact ⟨o, ho⟩

/-- Where the tree could be built before a change, it can be after it exactly if the file can be refreshed. -/
theorem build_isOk_of_change (hwf : disk.WellFormed) (hwf' : disk'.WellFormed) (hlocal : registry.ReadsOwnFile)
    (hchange : FileChange scanner root path f disk disk') (hbuilt : ∃ res, build registry scanner disk root = .ok res)
    (previous : Graph) : (∃ res, rebuildFile registry scanner disk' previous root path = .ok res) ↔
      ∃ res, build registry scanner disk' root = .ok res := by
  rw [rebuildFile_isOk_iff hwf' hchange, build_isOk_iff hwf']
  refine ⟨fun ⟨hcompiles, hfile⟩ => ⟨hcompiles, fun p => ?_⟩, fun ⟨hcompiles, hall⟩ => ⟨hcompiles, hall _⟩⟩
  by_cases hp : p = ofNames f
  · exact hp ▸ hfile
  · exact parsesAt_other hwf hwf' hlocal hchange hp (((build_isOk_iff hwf).1 hbuilt).2 p)

end

/-! ## Runs -/

/-- A tree of files whose parsers keep their promise, and whose paths do not share ids. -/
structure Readable (registry : Registry) (scanner : Scanner) (root : String) (disk : FileTree) : Prop where
  wf : disk.WellFormed
  sound : (inventory registry scanner disk root).Sound (absolute root)

/-- The graphs of a run: a tree is built, and then one file after another changes and is refreshed in the
    graph of the step before. -/
inductive Refreshed (registry : Registry) (scanner : Scanner) (root : String) : FileTree → Graph → Prop
  | built {disk : FileTree} {res : BuildResult} (readable : Readable registry scanner root disk)
      (ok : build registry scanner disk root = .ok res) : Refreshed registry scanner root disk res.graph
  | refreshed {disk disk' : FileTree} {g : Graph} {path : String} {f : List String} {res : BuildResult}
      (before : Refreshed registry scanner root disk g) (change : FileChange scanner root path f disk disk')
      (readable : Readable registry scanner root disk')
      (ok : rebuildFile registry scanner disk' g root path = .ok res) :
      Refreshed registry scanner root disk' res.graph

namespace Refreshed

variable {disk : FileTree} {g : Graph}

theorem readable (h : Refreshed registry scanner root disk g) : Readable registry scanner root disk := by
  cases h with
  | built readable _ => exact readable
  | refreshed _ _ readable _ => exact readable

/-- Through a run, the graph shows the inventory of the tree. -/
theorem shows_inventory (hlocal : registry.ReadsOwnFile) (h : Refreshed registry scanner root disk g) :
    ∃ crossing, (inventory registry scanner disk root).ShownIn (absolute root) g crossing := by
  induction h with
  | built readable ok => exact ⟨_, shows_build readable.wf readable.sound ok⟩
  | refreshed before change readable ok ih =>
      obtain ⟨crossing, hshows⟩ := ih
      exact ⟨_, shows_refresh before.readable.wf readable.wf hlocal before.readable.sound readable.sound change
        hshows ok⟩

/-- Through a run, the tree could be built anew. -/
theorem build_isOk (hlocal : registry.ReadsOwnFile) (h : Refreshed registry scanner root disk g) :
    ∃ res, build registry scanner disk root = .ok res := by
  induction h with
  | built _ ok => exact ⟨_, ok⟩
  | refreshed before change readable ok ih =>
      exact (build_isOk_of_change before.readable.wf readable.wf hlocal change ih _).1 ⟨_, ok⟩

end Refreshed

/-- **Refreshing agrees with building.** After every step of a run, the tree builds anew, and the graph of the
    run has the structure of that build; and whatever file changes next, refreshing it succeeds exactly if
    building the changed tree does. -/
theorem refreshed_has_structure_of_build (hlocal : registry.ReadsOwnFile) {disk : FileTree} {g : Graph}
    (h : Refreshed registry scanner root disk g) :
    (∃ res, build registry scanner disk root = .ok res ∧ SameStructure g res.graph) ∧
      ∀ (disk' : FileTree) (path : String) (f : List String), FileChange scanner root path f disk disk' →
        Readable registry scanner root disk' →
        ((∃ res, rebuildFile registry scanner disk' g root path = .ok res) ↔
          ∃ res, build registry scanner disk' root = .ok res) := by
  obtain ⟨res, hres⟩ := h.build_isOk hlocal
  have hreadable := h.readable
  refine ⟨⟨res, hres, ?_⟩, fun disk' path f hchange hreadable' => ?_⟩
  · obtain ⟨crossing, hshows⟩ := h.shows_inventory hlocal
    exact hshows.sameStructure (shows_build hreadable.wf hreadable.sound hres)
  · exact build_isOk_of_change hreadable.wf hreadable'.wf hlocal hchange ⟨res, hres⟩ g

/-! ## A package and a module -/

/-- A language in which every file imports the module that its text names. -/
def importFiles : Reader where
  language := "python"
  extensions := [".py"]
  kinds := []
  extract file := .ok { entities := [], relationships := [], fileMetadata := [("imports", .list [file.source])] }

/-- The registry of that language. -/
def importRegistry : Registry := Registry.empty.register "python" importFiles.toParser

/-- A scanner that accepts the files of one extension and goes by no patterns. -/
def scannerFor (extension : String) : Scanner where
  options :=
    { extensions := [extension]
      skipPatterns := []
      respectGitignore := false
      maxDepth := 5
      maxFileSize := 100 }
  skip := []
  glob := Glob.matcher

theorem lower_py : Unicode.lower ".py" = ".py" := by decide +kernel

/-- The size that the folders of the disks below report. -/
def blockSize : Nat := 4096

/-- The disk whose folder `r` has the given entries. -/
def diskOf (entries : List (String × FileTree)) : FileTree :=
  .folder blockSize [("r", .folder blockSize entries)]

/-- A disk of one file, which imports something. -/
def scriptDisk : FileTree := diskOf [("a.py", .file "util".toUTF8)]

/-- The disk with the package that is imported, in a folder of its own. -/
def packageDisk : FileTree :=
  diskOf [("a.py", .file "util".toUTF8), ("util", .folder blockSize [("__init__.py", .file "".toUTF8)])]

/-- The disk with a module of the same name beside the package. -/
def moduleDisk : FileTree :=
  diskOf [("a.py", .file "util".toUTF8), ("util", .folder blockSize [("__init__.py", .file "".toUTF8)]),
    ("util.py", .file "".toUTF8)]

theorem importRegistry_ofReaders : importRegistry.OfReaders := Registry.OfReaders.empty.register _ _

theorem wellFormed_diskOf {entries : List (String × FileTree)} (h : FileTree.WellFormed (.folder blockSize entries)) :
    (diskOf entries).WellFormed :=
  .folder (by simpa using (by decide : IsName "r")) (by simp) (by simpa using h)

theorem wellFormed_package : FileTree.WellFormed (.folder blockSize [("__init__.py", .file "".toUTF8)]) :=
  .folder (by decide) (by decide) (by simpa using .file _)

/-- What a scan of the package finds, and that the outputs pass the check. -/
theorem packageDisk_scanned :
    findsOf (scannerFor ".py") packageDisk "/r" = [⟨"a.py", some 4⟩, ⟨"util", none⟩, ⟨"util/__init__.py", some 0⟩] ∧
      Plain importRegistry (scannerFor ".py") packageDisk "/r" := by
  have hfinds : findsOf (scannerFor ".py") packageDisk "/r"
      = [⟨"a.py", some 4⟩, ⟨"util", none⟩, ⟨"util/__init__.py", some 0⟩] := by
    have hat : packageDisk.at? (absoluteSegments "/r")
        = some (.folder blockSize [("a.py", .file "util".toUTF8),
            ("util", .folder blockSize [("__init__.py", .file "".toUTF8)])]) := rfl
    simp only [findsOf, hat]
    rw [findsInNameOrder_of_sorted (by decide +kernel)]
    decide +kernel
  refine ⟨hfinds, ?_⟩
  simp only [Plain, pieces, outputs, hfinds]
  decide +kernel

/-- The same of the module beside the package. -/
theorem moduleDisk_scanned :
    findsOf (scannerFor ".py") moduleDisk "/r"
        = [⟨"a.py", some 4⟩, ⟨"util", none⟩, ⟨"util/__init__.py", some 0⟩, ⟨"util.py", some 0⟩] ∧
      Plain importRegistry (scannerFor ".py") moduleDisk "/r" := by
  have hfinds : findsOf (scannerFor ".py") moduleDisk "/r"
      = [⟨"a.py", some 4⟩, ⟨"util", none⟩, ⟨"util/__init__.py", some 0⟩, ⟨"util.py", some 0⟩] := by
    have hat : moduleDisk.at? (absoluteSegments "/r")
        = some (.folder blockSize [("a.py", .file "util".toUTF8),
            ("util", .folder blockSize [("__init__.py", .file "".toUTF8)]), ("util.py", .file "".toUTF8)]) := rfl
    simp only [findsOf, hat]
    rw [findsInNameOrder_of_sorted (by decide +kernel)]
    decide +kernel
  refine ⟨hfinds, ?_⟩
  simp only [Plain, pieces, outputs, hfinds]
  decide +kernel

theorem readable_scriptDisk : Readable importRegistry (scannerFor ".py") "/r" scriptDisk where
  wf := wellFormed_diskOf (.folder (by decide) (by decide) (by simpa using .file _))
  sound := sound_of_plain (by decide +kernel)

theorem readable_packageDisk : Readable importRegistry (scannerFor ".py") "/r" packageDisk where
  wf := wellFormed_diskOf (.folder (by decide) (by decide) (by simpa using ⟨.file _, wellFormed_package⟩))
  sound := sound_of_plain packageDisk_scanned.2

theorem readable_moduleDisk : Readable importRegistry (scannerFor ".py") "/r" moduleDisk where
  wf := wellFormed_diskOf (.folder (by decide) (by decide) (by simpa using ⟨.file _, wellFormed_package, .file _⟩))
  sound := sound_of_plain moduleDisk_scanned.2

theorem change_packageDisk :
    FileChange (scannerFor ".py") "/r" "util/__init__.py" ["util", "__init__.py"] scriptDisk packageDisk := by
  have hpath : "util/__init__.py" = ofNames ["util", "__init__.py"] := rfl
  have hres : absoluteSegments (resolve (absolute "/r") "util/__init__.py")
      = absoluteSegments "/r" ++ ["util", "__init__.py"] := by
    rw [hpath]
    exact absoluteSegments_resolve (by decide) (by simp)
  have hfound : found? (scannerFor ".py") packageDisk "/r" (ofNames ["util", "__init__.py"]) = some (some 0) := by
    rw [found?, packageDisk_scanned.1]
    rfl
  have hinspect := (inspect_eq_ok_iff readable_packageDisk.wf hres (by simp) rfl _).2
    ⟨compiles_of_unasked rfl packageDisk, 0, rfl, hfound⟩
  have hplace : FileTree.place blockSize (.file "".toUTF8) scriptDisk (absoluteSegments "/r" ++ ["util", "__init__.py"])
      = .ok packageDisk := rfl
  exact FileChange.of_place hres (by simp) (by simp) rfl hplace (.inr ⟨_, hinspect⟩)

theorem resolve_module :
    absoluteSegments (resolve (absolute "/r") "util.py") = absoluteSegments "/r" ++ ["util.py"] := by
  have hpath : "util.py" = ofNames ["util.py"] := rfl
  rw [congrArg (resolve (absolute "/r")) hpath]
  exact absoluteSegments_resolve (by decide) (by simp)

theorem change_moduleDisk : FileChange (scannerFor ".py") "/r" "util.py" ["util.py"] packageDisk moduleDisk :=
  have hplace : FileTree.place blockSize (.file "".toUTF8) packageDisk (absoluteSegments "/r" ++ ["util.py"])
      = .ok moduleDisk := rfl
  FileChange.of_place resolve_module (by simp) (by simp) rfl hplace (.inl rfl)

theorem change_back : FileChange (scannerFor ".py") "/r" "util.py" ["util.py"] moduleDisk packageDisk :=
  FileChange.of_removeAt resolve_module (by simp) (by simp) rfl

/-- The package is added in a new folder, and then the module is added and deleted again. -/
theorem refreshed_packageDisk : ∃ g, Refreshed importRegistry (scannerFor ".py") "/r" packageDisk g := by
  have hparses : ∀ disk p, ParsesAt importRegistry (scannerFor ".py") disk "/r" p :=
    parsesAt_of_readers importRegistry_ofReaders
  have hcompiles : ∀ disk, (scannerFor ".py").Compiles disk "/r" := compiles_of_unasked rfl
  obtain ⟨a, ha⟩ := (build_isOk_iff readable_scriptDisk.wf).2 ⟨hcompiles scriptDisk, hparses scriptDisk⟩
  obtain ⟨b, hb⟩ := (rebuildFile_isOk_iff readable_packageDisk.wf change_packageDisk a.graph).2
    ⟨hcompiles _, hparses _ _⟩
  obtain ⟨c, hc⟩ := (rebuildFile_isOk_iff readable_moduleDisk.wf change_moduleDisk b.graph).2
    ⟨hcompiles _, hparses _ _⟩
  obtain ⟨d, hd⟩ := (rebuildFile_isOk_iff readable_packageDisk.wf change_back c.graph).2
    ⟨hcompiles _, hparses _ _⟩
  exact ⟨_, (((Refreshed.built readable_scriptDisk ha).refreshed change_packageDisk readable_packageDisk hb).refreshed
    change_moduleDisk readable_moduleDisk hc).refreshed change_back readable_packageDisk hd⟩

theorem refreshed_packageDisk_has_structure_of_build : importRegistry.ReadsOwnFile ∧
    ∃ g, Refreshed importRegistry (scannerFor ".py") "/r" packageDisk g ∧
      (∃ res, build importRegistry (scannerFor ".py") packageDisk "/r" = .ok res ∧ SameStructure g res.graph) ∧
      ∀ (disk' : FileTree) (path : String) (f : List String),
        FileChange (scannerFor ".py") "/r" path f packageDisk disk' →
        Readable importRegistry (scannerFor ".py") "/r" disk' →
        ((∃ res, rebuildFile importRegistry (scannerFor ".py") disk' g "/r" path = .ok res) ↔
          ∃ res, build importRegistry (scannerFor ".py") disk' "/r" = .ok res) := by
  obtain ⟨g, hg⟩ := refreshed_packageDisk
  have hlocal := Registry.readsOwnFile_of_readers importRegistry_ofReaders
  exact ⟨hlocal, g, hg, refreshed_has_structure_of_build hlocal hg⟩

end Build

end CodeAtlas
