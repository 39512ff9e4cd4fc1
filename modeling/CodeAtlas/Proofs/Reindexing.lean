import CodeAtlas.Proofs.Saving
import CodeAtlas.Proofs.Search.Documents
import CodeAtlas.Proofs.Search.Entities

set_option autoImplicit false

/-! # Keeping an index up to date

A repository is opened by building it, and then one file after another changes and is refreshed: `Follows` is such a
run. Every step leaves an index that is up to date with the tree, `UpToDate`: its graph is that of a run of refreshes
and its lexical index has the documents of that graph as the tree stands now. A rebuild of the same tree gives a graph
of the same entities and the same documents, so searches by text and by structure and the listings of kinds answer
alike (`search_of_follows`). A build sees the tree below its root only (`build_eq_of_same_tree`): what a save writes
elsewhere does not matter. -/

namespace CodeAtlas

open CodeAtlas.Scan CodeAtlas.Path CodeAtlas.Graph

namespace Build

variable {registry : Registry} {scanner : Scanner} {disk disk' : FileTree} {root : String}

/-! ## The tree below the root -/

theorem fileAt?_eq_of_same_tree (hsame : disk'.at? (absoluteSegments root) = disk.at? (absoluteSegments root))
    (m : List String) : disk'.fileAt? (absoluteSegments root ++ m) = disk.fileAt? (absoluteSegments root ++ m) := by
  simp only [FileTree.fileAt?, FileTree.at?_append, hsame]

theorem scan_eq_of_same_tree (hsame : disk'.at? (absoluteSegments root) = disk.at? (absoluteSegments root)) :
    scan scanner disk' root = scan scanner disk root := by
  have hfilters := @filters_eq scanner disk disk' root (fileAt?_eq_of_same_tree hsame _)
  have hinside : ∀ (fs : Filters), insideOf fs disk' (absolute root) = insideOf fs disk (absolute root) := by
    intro fs
    unfold insideOf
    unfold FileTree.at? at hsame
    rw [FileTree.list, FileTree.list, FileTree.find_eq, FileTree.find_eq, absoluteSegments_absolute]
    cases h : disk.lookup (absoluteSegments root) <;> cases h' : disk'.lookup (absoluteSegments root) <;>
      simp only [h, h', Option.some.injEq, reduceCtorEq] at hsame ⊢
    rw [hsame]
  simp only [scan, hfilters, walk_eq, hinside]

theorem parseAll_congr {files : List ScannedFile}
    (h : ∀ file ∈ files, registry.parse disk' file.absolutePath (some root)
      = registry.parse disk file.absolutePath (some root)) :
    parseAll registry disk' root files = parseAll registry disk root files := by
  induction files with
  | nil => rfl
  | cons file rest ih =>
      simp only [parseAll, ih fun f hf => h f (List.mem_cons_of_mem _ hf), h file (List.mem_cons_self ..)]

/-- **A build sees the tree below its root only.** -/
theorem build_eq_of_same_tree (hlocal : registry.ReadsOwnFile) (hwf : disk.WellFormed)
    (hsame : disk'.at? (absoluteSegments root) = disk.at? (absoluteSegments root)) :
    build registry scanner disk' root = build registry scanner disk root := by
  rw [build_eq_scan, build_eq_scan, scan_eq_of_same_tree hsame]
  cases hscan : scan scanner disk root with
  | error fault => rfl
  | ok s =>
  obtain ⟨-, rfl⟩ := (scan_eq_ok_iff ..).1 hscan
  have hparse : ∀ file ∈ (scanner.scanned disk root).files,
      registry.parse disk' file.absolutePath (some (absolute root))
        = registry.parse disk file.absolutePath (some (absolute root)) := fun file hfile => by
    obtain ⟨n, heq, hfound⟩ := (mem_scanned_files hwf file).1 hfile
    obtain ⟨m, hne, hm, hpath⟩ := names_of_found?_file hwf hfound
    rw [heq, hpath]
    rw [hpath] at hfound
    exact hlocal.parse_congr (read_found_congr hwf hne hm hfound (fileAt?_eq_of_same_tree hsame m)) _
  simp only [bind, Except.bind, buildScanned, finish, parseInto, parseAll_congr hparse]

end Build

namespace Builder

theorem isBusy_settled {α : Type} (b : Builder) (result : Except Fault α) : (b.settled result).isBusy = false := by
  cases result <;> rfl

/-- A builder that is made of a configuration has its parsers and does nothing yet. -/
theorem of_ofConfig {glob : String → Except Fault Matcher} {registry : Registry} {config : GraphConfig} {b : Builder}
    (h : ofConfig glob registry config = .ok b) : b.registry = registry ∧ b.isBusy = false := by
  unfold ofConfig at h
  cases hs : Scanner.ofOptions glob (.ofConfig config registry.supportedExtensions) with
  | error fault => simp [hs, Except.map] at h
  | ok scanner =>
      rw [hs] at h
      obtain rfl := Except.ok.inj h
      exact ⟨rfl, rfl⟩

theorem run_of_free {b : Builder} (h : b.isBusy = false) (root : String) (body : Except Fault BuildResult) :
    b.run root body = (b.settled body, body) := by
  rw [run, h]
  rfl

end Builder

namespace Repository

open Build Search

variable {registry : Registry} {disk : FileTree} {r : Repository}

/-! ## Updates -/

/-- The repository with a graph taken over; texts that `reuse` knows are kept. -/
def taking (r : Repository) (disk : FileTree) (reuse : Entity → Option String) (res : BuildResult) : Repository where
  rootPath := r.rootPath
  config := r.config
  builder := r.builder.settled (.ok res : Except Fault BuildResult)
  state := .assemble res.graph (textIndexFor r.config disk r.rootPath reuse res.graph) r.config (some res.report)

/-- An update takes a graph over if the builder gives one, and says so if it does not. -/
theorem update_cases (hfree : r.builder.isBusy = false) (disk : FileTree) (reuse : Entity → Option String)
    (body : Except Fault BuildResult) :
    (∃ res, body = .ok res ∧ (r.update disk reuse (r.builder.run r.rootPath body)).result = .ok res.report ∧
        (r.update disk reuse (r.builder.run r.rootPath body)).repository = r.taking disk reuse res) ∨
      ∃ fault, body = .error fault ∧ (r.update disk reuse (r.builder.run r.rootPath body)).result = .error fault := by
  rw [Builder.run_of_free hfree]
  cases body with
  | error fault => exact .inr ⟨fault, rfl, rfl⟩
  | ok res => exact .inl ⟨res, rfl, rfl, rfl⟩

/-- An update succeeds exactly if the builder does. -/
theorem update_isOk_iff (hfree : r.builder.isBusy = false) (disk : FileTree) (reuse : Entity → Option String)
    (body : Except Fault BuildResult) :
    (∃ report, (r.update disk reuse (r.builder.run r.rootPath body)).result = .ok report) ↔ ∃ res, body = .ok res := by
  obtain ⟨res, hbody, hreport, -⟩ | ⟨fault, hbody, hreport⟩ := update_cases hfree disk reuse body
  · exact iff_of_true ⟨_, hreport⟩ ⟨_, hbody⟩
  · exact iff_of_false (by simp [hreport]) (by simp [hbody])

theorem rebuild_cases (hfree : r.builder.isBusy = false) (disk : FileTree) :
    (∃ res, build r.builder.registry r.builder.scanner disk r.rootPath = .ok res ∧
        (r.rebuild disk).result = .ok res.report ∧ (r.rebuild disk).repository = r.taking disk (fun _ => none) res) ∨
      ∃ fault, build r.builder.registry r.builder.scanner disk r.rootPath = .error fault ∧
        (r.rebuild disk).result = .error fault :=
  update_cases hfree disk _ _

theorem refreshFile_cases (hfree : r.builder.isBusy = false) (disk : FileTree) (path : String) :
    (∃ res, rebuildFile r.builder.registry r.builder.scanner disk r.state.graph r.rootPath (r.relativePath path)
          = .ok res ∧ (r.refreshFile disk path).result = .ok res.report ∧
        (r.refreshFile disk path).repository
          = r.taking disk (storedText r.state.text (r.relativePath path)) res) ∨
      ∃ fault, rebuildFile r.builder.registry r.builder.scanner disk r.state.graph r.rootPath (r.relativePath path)
          = .error fault ∧ (r.refreshFile disk path).result = .error fault :=
  update_cases hfree disk _ _

/-! ## Being up to date -/

/-- The graph is that of a run of refreshes up to the tree, and the texts are those of its entities there. -/
structure UpToDate (registry : Registry) (disk : FileTree) (r : Repository) : Prop where
  registry_eq : r.builder.registry = registry
  free : r.builder.isBusy = false
  root_eq : absolute r.rootPath = r.rootPath
  refreshed : Refreshed registry r.builder.scanner r.rootPath disk r.state.graph
  state_eq : ∃ report, r.state = .assemble r.state.graph
    (textIndexFor r.config disk r.rootPath (fun _ => none) r.state.graph) r.config report

namespace UpToDate

/-- A build of a readable tree leaves an index that is up to date. -/
theorem of_build (hroot : absolute r.rootPath = r.rootPath)
    (hreadable : Readable r.builder.registry r.builder.scanner r.rootPath disk) {res : BuildResult}
    (hres : build r.builder.registry r.builder.scanner disk r.rootPath = .ok res) :
    UpToDate r.builder.registry disk (r.taking disk (fun _ => none) res) where
  registry_eq := rfl
  free := Builder.isBusy_settled _ _
  root_eq := hroot
  refreshed := .built hreadable hres
  state_eq := ⟨some res.report, rfl⟩

theorem relativePath_eq (h : UpToDate registry disk r) {disk' : FileTree} {path : String} {f : List String}
    (hchange : FileChange r.builder.scanner r.rootPath path f disk disk') : r.relativePath path = ofNames f := by
  rw [relativePath, ← h.root_eq]
  exact toRepository_resolve hchange.resolves hchange.ne_nil

theorem text_eq (h : UpToDate registry disk r) :
    r.state.text = textIndexFor r.config disk r.rootPath (fun _ => none) r.state.graph := by
  obtain ⟨report, hstate⟩ := h.state_eq
  exact congrArg IndexState.text hstate

theorem retriever_eq (h : UpToDate registry disk r) : r.state.retriever = Retriever.onGraph r.state.graph
    (textIndexFor r.config disk r.rootPath (fun _ => none) r.state.graph) r.config.retrieval := by
  obtain ⟨report, hstate⟩ := h.state_eq
  exact congrArg IndexState.retriever hstate

/-- A refresh of the file that changed leaves the index up to date. -/
theorem refreshFile (h : UpToDate registry disk r) (hlocal : registry.ReadsOwnFile) {disk' : FileTree}
    {path : String} {f : List String} (hchange : FileChange r.builder.scanner r.rootPath path f disk disk')
    (hreadable : Readable registry r.builder.scanner r.rootPath disk') {report : BuildReport}
    (hok : (r.refreshFile disk' path).result = .ok report) :
    UpToDate registry disk' (r.refreshFile disk' path).repository := by
  obtain ⟨res, hres, -, hrepository⟩ | ⟨fault, -, hfault⟩ := refreshFile_cases h.free disk' path
  · rw [h.relativePath_eq hchange, h.registry_eq] at hres
    have hrefreshed : Refreshed registry r.builder.scanner r.rootPath disk' res.graph :=
      h.refreshed.refreshed (hchange.at_names hreadable.wf) hreadable hres
    obtain ⟨crossing, hshown⟩ := h.refreshed.shows_inventory hlocal
    obtain ⟨crossing', hshown'⟩ := hrefreshed.shows_inventory hlocal
    have htexts := textIndexFor_storedText h.refreshed.readable hreadable hlocal hchange hshown hshown' r.config
    rw [h.root_eq, ← h.text_eq, ← h.relativePath_eq hchange] at htexts
    rw [hrepository]
    refine ⟨h.registry_eq, Builder.isBusy_settled _ _, h.root_eq, hrefreshed, some res.report, ?_⟩
    simp only [taking, htexts]
    rfl
  · rw [hok] at hfault
    exact absurd hfault (by simp)

end UpToDate

/-! ## Runs -/

/-- What is opened with a report is what a rebuild of a repository made of it. -/
theorem rebuilt_of_openRoot {o : OpenOptions} {after : FileTree} {root : String} {force : Bool}
    (h : openRoot o disk root force = (after, .ok r)) (hbuilt : r.state.report.isSome = true) :
    ∃ r₀ : Repository, r₀.builder.registry = o.registry ∧ r₀.builder.isBusy = false ∧ r₀.rootPath = absolute root ∧
      (∃ report, (r₀.rebuild disk).result = .ok report) ∧ r = (r₀.rebuild disk).repository := by
  have hopen : ∃ config, openWith o config disk (absolute root) force = (after, .ok r) := by
    unfold openRoot at h
    cases hc : o.config with
    | some config => exact ⟨config, by simpa only [hc] using h⟩
    | none =>
        cases hl : Config.load disk o.home (absolute root) [] with
        | ok config => exact ⟨config, by simpa only [hc, hl] using h⟩
        | error e => simp [hc, hl] at h
  obtain ⟨config, hopen⟩ := hopen
  unfold openWith at hopen
  cases hbuilder : Builder.ofConfig o.glob o.registry config.graph with
  | error fault => simp [hbuilder] at hopen
  | ok builder =>
  obtain ⟨hregistry, hfree⟩ := Builder.of_ofConfig hbuilder
  refine ⟨⟨absolute root, config, builder, .empty config⟩, hregistry, hfree, rfl, ?_⟩
  rw [hbuilder] at hopen
  cases hcached : if force = true then none else cachedState? disk config (absolute root) with
  | some state =>
      -- what is served from snapshots has no report
      simp only [hcached, Prod.mk.injEq, Except.ok.injEq] at hopen
      obtain ⟨-, rfl⟩ := hopen
      have hserved : cachedState? disk config (absolute root) = some state := by
        split at hcached
        · exact absurd hcached (by simp)
        · exact hcached
      simp [report_of_cachedState? hserved] at hbuilt
  | none =>
      simp only [hcached] at hopen
      split at hopen
      · next report hreport => exact ⟨⟨report, hreport⟩, (Except.ok.inj (Prod.mk.inj hopen).2).symm⟩
      · exact absurd (Prod.mk.inj hopen).2 (by simp)

/-- The repositories of a run: a tree is opened by a build, and then one file after another changes and is
    refreshed. -/
inductive Follows (o : OpenOptions) : FileTree → Repository → Prop
  | opened {disk after : FileTree} {root : String} {force : Bool} {r : Repository}
      (ok : openRoot o disk root force = (after, .ok r)) (built : r.state.report.isSome = true)
      (readable : Readable o.registry r.builder.scanner r.rootPath disk) : Follows o disk r
  | refreshed {disk disk' : FileTree} {r : Repository} {path : String} {f : List String} {report : BuildReport}
      (before : Follows o disk r) (change : FileChange r.builder.scanner r.rootPath path f disk disk')
      (readable : Readable o.registry r.builder.scanner r.rootPath disk')
      (ok : (r.refreshFile disk' path).result = .ok report) : Follows o disk' (r.refreshFile disk' path).repository

/-- Through a run, the index is up to date. -/
theorem Follows.upToDate {o : OpenOptions} (hlocal : o.registry.ReadsOwnFile) (h : Follows o disk r) :
    UpToDate o.registry disk r := by
  induction h with
  | opened ok built readable =>
      obtain ⟨r₀, hregistry, hfree, hroot, ⟨report, hreport⟩, rfl⟩ := rebuilt_of_openRoot ok built
      obtain ⟨res, hres, -, hrepository⟩ | ⟨fault, -, hfault⟩ := rebuild_cases hfree _
      · rw [hrepository, ← hregistry] at readable
        rw [hrepository, ← hregistry]
        exact .of_build (by rw [hroot, absolute_absolute]) readable hres
      · rw [hreport] at hfault
        exact absurd hfault (by simp)
  | refreshed before change readable ok ih => exact ih.refreshFile hlocal change readable ok

/-! ## Searches -/

/-- Graphs that show what stands in a tree have the same texts there. -/
theorem textIndexFor_eq {scanner : Scanner} {disk disk₁ : FileTree} {root : String} (hwf : disk.WellFormed)
    (hsame : disk₁.at? (absoluteSegments root) = disk.at? (absoluteSegments root)) {g h : Graph}
    {crossing crossing' : Relationship → Prop}
    (hg : (inventory registry scanner disk root).ShownIn (absolute root) g crossing)
    (hh : (inventory registry scanner disk root).ShownIn (absolute root) h crossing') (config : Config) :
    textIndexFor config disk₁ (absolute root) (fun _ => none) h
      = textIndexFor config disk (absolute root) (fun _ => none) g := by
  have hperm := entities_perm_of_mem hg.valid hh.valid (hg.mem_entities_congr hh)
  simp only [textIndexFor, buildDocuments_none, toSnapshot, ← Entity.sortById_eq_of_perm hg.valid.nodup_entities hperm]
  refine congrArg (Bm25.build _) (List.map_congr_left fun e he => ?_)
  have hat := (hg.mem_entities_iff e).1 ((Entity.sortById_perm g.entities).mem_iff.1 he)
  exact document_eq_of_fileAt? hwf hat (fun m _ => fileAt?_eq_of_same_tree hsame m) _

/-- An index that is up to date finds what a rebuild of the same tree would find. -/
theorem UpToDate.retriever_rebuild (h : UpToDate registry disk r) (hlocal : registry.ReadsOwnFile) {disk₁ : FileTree}
    (hsame : disk₁.at? (absoluteSegments r.rootPath) = disk.at? (absoluteSegments r.rootPath)) :
    (∃ report, (r.rebuild disk₁).result = .ok report) ∧
      ∃ (g k : Graph) (text : Bm25 Float), Valid g ∧ Valid k ∧ (∀ e, e ∈ g.entities ↔ e ∈ k.entities) ∧
        r.state.retriever = Retriever.onGraph g text r.config.retrieval ∧
        (r.rebuild disk₁).repository.state.retriever = Retriever.onGraph k text r.config.retrieval := by
  have hreadable := h.refreshed.readable
  obtain ⟨built, hbuilt⟩ := h.refreshed.build_isOk hlocal
  have hbuilt₁ := (build_eq_of_same_tree hlocal hreadable.wf hsame).trans hbuilt
  obtain ⟨res, hres, hreport, hrepository⟩ | ⟨fault, hfault, -⟩ := rebuild_cases h.free disk₁
  · rw [h.registry_eq, hbuilt₁] at hres
    obtain rfl := Except.ok.inj hres
    obtain ⟨crossing, hshown⟩ := h.refreshed.shows_inventory hlocal
    have hshown' := shows_build hreadable.wf hreadable.sound hbuilt
    have htexts := textIndexFor_eq hreadable.wf hsame hshown hshown' r.config
    rw [h.root_eq] at htexts
    refine ⟨⟨_, hreport⟩, r.state.graph, built.graph, _, hshown.valid, hshown'.valid,
      hshown.mem_entities_congr hshown', h.retriever_eq, ?_⟩
    rw [hrepository, ← htexts]
    rfl
  · rw [h.registry_eq, hbuilt₁] at hfault
    exact absurd hfault (by simp)

/-- A refresh of an index that is up to date succeeds exactly if a rebuild would. -/
theorem UpToDate.refreshFile_isOk_iff (h : UpToDate registry disk r) (hlocal : registry.ReadsOwnFile)
    {disk' : FileTree} {path : String} {f : List String}
    (hchange : FileChange r.builder.scanner r.rootPath path f disk disk')
    (hreadable : Readable registry r.builder.scanner r.rootPath disk') :
    (∃ report, (r.refreshFile disk' path).result = .ok report) ↔ ∃ report, (r.rebuild disk').result = .ok report := by
  have hbuilds := build_isOk_of_change h.refreshed.readable.wf hreadable.wf hlocal (hchange.at_names hreadable.wf)
    (h.refreshed.build_isOk hlocal) r.state.graph
  rw [← h.relativePath_eq hchange, ← h.registry_eq] at hbuilds
  exact (update_isOk_iff h.free disk' _ _).trans (hbuilds.trans (update_isOk_iff h.free disk' _ _).symm)

/-- A readable tree that builds can be opened. -/
theorem exists_follows_opened {o : OpenOptions} {config : Config} {scanner : Scanner} {root : String}
    (huses : Uses o disk root config)
    (hbuilder : Builder.ofConfig o.glob o.registry config.graph = .ok ⟨o.registry, scanner, .idle⟩)
    (hreadable : Readable o.registry scanner (absolute root) disk)
    (hbuilds : ∃ res, build o.registry scanner disk (absolute root) = .ok res) :
    ∃ r, Follows o disk r ∧ r.rootPath = absolute root ∧ r.builder.scanner = scanner := by
  obtain ⟨r, hr⟩ : ∃ r : Repository, r = ⟨absolute root, config, ⟨o.registry, scanner, .idle⟩, .empty config⟩ :=
    ⟨_, rfl⟩
  have hroot : r.rootPath = absolute root := by rw [hr]
  have hregistry : r.builder.registry = o.registry := by rw [hr]
  have hopts : r.builder.scanner = scanner := by rw [hr]
  have hfree : r.builder.isBusy = false := by rw [hr]; rfl
  rw [← hroot, ← hopts] at hreadable
  rw [← hroot, ← hopts, ← hregistry] at hbuilds
  obtain ⟨res, -, hreport, hrepository⟩ | ⟨fault, hfault, -⟩ := rebuild_cases hfree disk
  · have hopen : openRoot o disk root true = ((r.rebuild disk).disk, .ok (r.taking disk (fun _ => none) res)) := by
      rw [openRoot_eq huses, openWith, hbuilder]
      simp only [if_true, ← hr, hreport, hrepository]
    exact ⟨_, .opened hopen rfl hreadable, hroot, hopts⟩
  · obtain ⟨res, hres⟩ := hbuilds
    exact absurd (hres.symm.trans hfault) (by simp)

/-- A file that changed can be refreshed if the tree still builds. -/
theorem Follows.exists_refreshed {o : OpenOptions} (hlocal : o.registry.ReadsOwnFile) (h : Follows o disk r)
    {disk' : FileTree} {path : String} {f : List String}
    (hchange : FileChange r.builder.scanner r.rootPath path f disk disk')
    (hreadable : Readable o.registry r.builder.scanner r.rootPath disk')
    (hbuilds : ∃ res, build o.registry r.builder.scanner disk' r.rootPath = .ok res) : ∃ r', Follows o disk' r' := by
  have hup := h.upToDate hlocal
  rw [← hup.registry_eq] at hbuilds
  obtain ⟨report, hok⟩ := (hup.refreshFile_isOk_iff hlocal hchange hreadable).2
    ((update_isOk_iff hup.free disk' _ _).2 hbuilds)
  exact ⟨_, h.refreshed hchange hreadable hok⟩

/-- **Refreshed searches are rebuilt searches.** After every step of a run, the tree is rebuilt without a fault, and
    every search by text or by structure and every listing of a kind gives what it gives after that; and whatever
    file changes next, refreshing it succeeds exactly if a rebuild does. -/
theorem search_of_follows {o : OpenOptions} (hlocal : o.registry.ReadsOwnFile) (h : Follows o disk r) :
    (∀ disk₁ : FileTree, disk₁.at? (absoluteSegments r.rootPath) = disk.at? (absoluteSegments r.rootPath) →
      (∃ report, (r.rebuild disk₁).result = .ok report) ∧
      (∀ (query mode : String) (topK : Option Rat), mode = "text" ∨ mode = "structure" →
        r.search query (some mode) topK = (r.rebuild disk₁).repository.search query (some mode) topK) ∧
      ∀ (kind : String) (filter : Option String) (topK : Option Rat),
        r.searchByKind kind filter topK = (r.rebuild disk₁).repository.searchByKind kind filter topK) ∧
    ∀ (disk' : FileTree) (path : String) (f : List String),
      FileChange r.builder.scanner r.rootPath path f disk disk' →
      Readable o.registry r.builder.scanner r.rootPath disk' →
      ((∃ report, (r.refreshFile disk' path).result = .ok report) ↔
        ∃ report, (r.rebuild disk').result = .ok report) := by
  have hup := h.upToDate hlocal
  refine ⟨fun disk₁ hsame => ?_, fun disk' path f hchange hreadable =>
    hup.refreshFile_isOk_iff hlocal hchange hreadable⟩
  obtain ⟨hok, g, k, text, hg, hk, hentities, hrefreshed, hrebuilt⟩ := hup.retriever_rebuild hlocal hsame
  refine ⟨hok, fun query mode topK hmode => ?_, fun kind filter topK => ?_⟩
  · rw [Repository.search, Repository.search, hrefreshed, hrebuilt]
    rcases hmode with rfl | rfl
    · exact Retriever.search_eq hg hk hentities text _ query (.inl rfl) topK
    · exact Retriever.search_eq hg hk hentities text _ query (.inr rfl) topK
  · rw [Repository.searchByKind, Repository.searchByKind, hrefreshed, hrebuilt]
    exact Retriever.searchByKind_eq hg hk hentities text text _ kind filter topK

/-! ## A package that is added -/

/-- A configuration for the files of the language in which every file is an import. -/
def importConfig : Config := { cacheConfig with graph := ⟨some [".py"], [], false, 5, 100, 8⟩ }

/-- Opening with that language only. -/
def importOptions : OpenOptions := ⟨"/home", some importConfig, importRegistry, Glob.matcher⟩

theorem builder_importConfig : Builder.ofConfig importOptions.glob importOptions.registry importConfig.graph
    = .ok ⟨importRegistry, scannerFor ".py", .idle⟩ := by
  have hoptions : Options.ofConfig importConfig.graph importOptions.registry.supportedExtensions
      = (scannerFor ".py").options := by
    simp [Options.ofConfig, importConfig, scannerFor, lower_py]
  rw [Builder.ofConfig, hoptions]
  rfl

/-- A script is opened, and then the package that it imports is added and refreshed. -/
theorem follows_packageDisk : ∃ r, Follows importOptions packageDisk r := by
  have hlocal : importOptions.registry.ReadsOwnFile := Registry.readsOwnFile_of_readers importRegistry_ofReaders
  have hbuilds : ∀ disk : FileTree, disk.WellFormed →
      ∃ res, build importRegistry (scannerFor ".py") disk "/r" = .ok res :=
    fun disk hwf => (build_isOk_iff hwf).2
      ⟨compiles_of_unasked rfl disk, parsesAt_of_readers importRegistry_ofReaders disk⟩
  have hroot : absolute "/r" = "/r" := by decide
  have huses : Uses importOptions scriptDisk "/r" importConfig := rfl
  obtain ⟨r, hr, hrootPath, hoptions⟩ := exists_follows_opened huses builder_importConfig
    (by rw [hroot]; exact readable_scriptDisk) (by rw [hroot]; exact hbuilds scriptDisk readable_scriptDisk.wf)
  rw [hroot] at hrootPath
  exact Follows.exists_refreshed hlocal hr (by rw [hoptions, hrootPath]; exact change_packageDisk)
    (by rw [hoptions, hrootPath]; exact readable_packageDisk)
    (by rw [hoptions, hrootPath]; exact hbuilds packageDisk readable_packageDisk.wf)

theorem search_of_follows_package : importOptions.registry.ReadsOwnFile ∧ ∃ r, Follows importOptions packageDisk r ∧
    (∀ disk₁ : FileTree, disk₁.at? (absoluteSegments r.rootPath) = packageDisk.at? (absoluteSegments r.rootPath) →
      (∃ report, (r.rebuild disk₁).result = .ok report) ∧
      (∀ (query mode : String) (topK : Option Rat), mode = "text" ∨ mode = "structure" →
        r.search query (some mode) topK = (r.rebuild disk₁).repository.search query (some mode) topK) ∧
      ∀ (kind : String) (filter : Option String) (topK : Option Rat),
        r.searchByKind kind filter topK = (r.rebuild disk₁).repository.searchByKind kind filter topK) ∧
    ∀ (disk' : FileTree) (path : String) (f : List String),
      FileChange r.builder.scanner r.rootPath path f packageDisk disk' →
      Readable importOptions.registry r.builder.scanner r.rootPath disk' →
      ((∃ report, (r.refreshFile disk' path).result = .ok report) ↔
        ∃ report, (r.rebuild disk').result = .ok report) := by
  obtain ⟨r, hr⟩ := follows_packageDisk
  have hlocal : importOptions.registry.ReadsOwnFile := Registry.readsOwnFile_of_readers importRegistry_ofReaders
  exact ⟨hlocal, r, hr, search_of_follows hlocal hr⟩

end Repository

end CodeAtlas
