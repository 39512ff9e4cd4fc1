import CodeAtlas.Proofs.Build.Inventory

set_option autoImplicit false

/-! # Changes of one file

`FileChange` is a change of one regular file of a repository: it is written, rewritten or deleted; folders
stay, and new ones appear above the file only, if the filters accept it. Two facts about such a change carry
everything that is proved about refreshing: `inspect_eq_ok_iff`, that putting the file through the filters
says what a scan would find at its path, and `FileChange.differ`, that the inventories before and after
differ at the file and in new folders above it only. A path where the inventories of two trees differ in this
way is `Refreshable`; in one tree, every path is that names no folder. -/

namespace CodeAtlas

open CodeAtlas.Scan CodeAtlas.Path

/-- Every parser of a registry makes of a file what the bytes of that file say, whatever else is on the
    disk. -/
def Registry.ReadsOwnFile (registry : Registry) : Prop :=
  ∀ path p, registry.parserFor path = .ok (some p) → ∀ (disk disk' : FileTree) (root : Option String),
    disk.read (absolute path) = disk'.read (absolute path) → p.parse disk path root = p.parse disk' path root

/-- So the registry makes of a file what its bytes say. -/
theorem Registry.ReadsOwnFile.parse_congr {registry : Registry} (h : registry.ReadsOwnFile) {disk disk' : FileTree}
    {path : String} (hread : disk'.read (absolute path) = disk.read (absolute path)) (root : Option String) :
    registry.parse disk' path root = registry.parse disk path root := by
  unfold Registry.parse
  cases hp : registry.parserFor path with
  | error e => rfl
  | ok parser =>
      cases parser with
      | none => rfl
      | some p => simp only [bind, Except.bind, h path p hp disk' disk _ hread]

/-- The readers of the languages do so. -/
theorem Reader.parse_eq_of_read_eq (r : Reader) {disk disk' : FileTree} {path : String}
    (h : disk.read (absolute path) = disk'.read (absolute path)) (root : Option String) :
    r.toParser.parse disk path root = r.toParser.parse disk' path root := by
  simp only [Reader.toParser, Reader.read, h]

namespace Registry

/-- Is every registered parser the reader of a language? -/
def OfReaders (registry : Registry) : Prop :=
  ∀ p ∈ registry.byExtension.values ++ registry.byLanguage.values, ∃ r : Reader, p = r.toParser

theorem OfReaders.empty : empty.OfReaders := fun p hp => absurd hp (by simp [Registry.empty])

/-- With one more reader registered, all parsers are still readers. -/
theorem OfReaders.register {registry : Registry} (h : registry.OfReaders) (language : String) (r : Reader) :
    (registry.register language r.toParser).OfReaders := by
  have hclaimed : ∀ (extensions : List String) (d : Dict String Parser),
      (∀ p ∈ d.values, ∃ r : Reader, p = r.toParser) →
      ∀ p ∈ (extensions.foldl (fun d e => d.insert (Unicode.lower e) r.toParser) d).values,
        ∃ r : Reader, p = r.toParser := by
    intro extensions
    induction extensions with
    | nil => intro d hd; exact hd
    | cons e rest ih =>
        intro d hd
        refine ih _ fun p hp => ?_
        rcases Dict.mem_values_insert hp with rfl | hp
        · exact ⟨r, rfl⟩
        · exact hd p hp
  intro p hp
  rcases List.mem_append.1 hp with hp | hp
  · exact hclaimed _ _ (fun q hq => h q (List.mem_append_left _ hq)) p hp
  · rcases Dict.mem_values_insert hp with rfl | hp
    · exact ⟨r, rfl⟩
    · exact h p (List.mem_append_right _ hp)

theorem firstAble_of_readers (path : String) {l : List Parser} (h : ∀ p ∈ l, ∃ r : Reader, p = r.toParser) :
    firstAble path l = .ok none ∨ ∃ p ∈ l, firstAble path l = .ok (some p) := by
  induction l with
  | nil => exact .inl rfl
  | cons p rest ih =>
      obtain ⟨r, rfl⟩ := h p (List.mem_cons_self ..)
      by_cases hcan : r.canParse path = true
      · exact .inr ⟨_, List.mem_cons_self .., by
          simp [firstAble, Reader.toParser, hcan, bind, Except.bind, pure, Except.pure]⟩
      · have hskip : firstAble path (r.toParser :: rest) = firstAble path rest := by
          simp [firstAble, Reader.toParser, hcan, bind, Except.bind]
        rw [hskip]
        exact (ih fun q hq => h q (List.mem_cons_of_mem _ hq)).imp_right
          fun ⟨q, hq, hfirst⟩ => ⟨q, List.mem_cons_of_mem _ hq, hfirst⟩

/-- Readers can be asked for any file. -/
theorem parserFor_of_readers {registry : Registry} (h : registry.OfReaders) (path : String) :
    registry.parserFor path = .ok none ∨ ∃ r : Reader, registry.parserFor path = .ok (some r.toParser) := by
  unfold parserFor
  cases hget : registry.byExtension.get? (extension path) with
  | some p =>
      obtain ⟨r, rfl⟩ := h p (List.mem_append_left _ (Dict.mem_values_of_get? hget))
      exact .inr ⟨r, rfl⟩
  | none =>
      rcases firstAble_of_readers path fun p hp => h p (List.mem_append_right _ hp) with hnone | ⟨p, hp, hfirst⟩
      · exact .inl hnone
      · obtain ⟨r, rfl⟩ := h p (List.mem_append_right _ hp)
        exact .inr ⟨r, hfirst⟩

theorem readsOwnFile_of_readers {registry : Registry} (h : registry.OfReaders) : registry.ReadsOwnFile := by
  intro path p hp disk disk' root hread
  rcases parserFor_of_readers h path with hnone | ⟨r, hr⟩
  · rw [hnone] at hp
    exact absurd (Except.ok.inj hp) (by simp)
  · rw [hr] at hp
    obtain rfl := Option.some.inj (Except.ok.inj hp)
    exact r.parse_eq_of_read_eq hread root

end Registry

namespace Build

/-! ## Putting one path through the filters -/

section

variable {scanner : Scanner} {disk : FileTree} {root path : String} {f : List String}

/-- No beginning of a path is refused. -/
theorem findSome?_prefixes_eq_none_iff (fs : Filters) (hf : AllNames f) (hne : f ≠ []) :
    (prefixes (ofNames f)).findSome? fs.refuses? = none ↔
      ∀ q, q ≠ [] → q <+: f → fs.refuses? (ofNames q) = none := by
  rw [List.findSome?_eq_none_iff]
  constructor
  · exact fun h q hq hqf => h _ ((mem_prefixes_iff hf hne _).2 ⟨q, hq, hqf, rfl⟩)
  · intro h p hp
    obtain ⟨q, hq, hqf, rfl⟩ := (mem_prefixes_iff hf hne p).1 hp
    exact h q hq hqf

/-- To be refused nowhere on the way and not to lie too deep is to be accepted with a way in. -/
theorem accepts_iff (fs : Filters) (hf : AllNames f) (hne : f ≠ []) (n : Nat) :
    ((∀ q, q ≠ [] → q <+: f → fs.refuses? (ofNames q) = none) ∧ f.length - 1 ≤ fs.maxDepth ∧
        fs.checkFile (ofNames f) (some n) = .ok n) ↔ fs.Accepts f n ∧ WayIn fs f := by
  constructor
  · rintro ⟨hrefuse, hdepth, hcheck⟩
    refine ⟨⟨hrefuse f hne (List.prefix_refl f), hcheck⟩, fun q hq hqne hqnil => ⟨hrefuse q hqnil hq, ?_⟩⟩
    have hle := hq.length_le
    have hlt : q.length ≠ f.length := fun he => hqne (hq.eq_of_length he)
    omega
  · rintro ⟨⟨hrefuse, hcheck⟩, hway⟩
    refine ⟨fun q hqnil hq => ?_, ?_, hcheck⟩
    · by_cases hqf : q = f
      · rw [hqf]; exact hrefuse
      · exact (hway q hq hqf hqnil).1
    · obtain ⟨dir, name, rfl⟩ := eq_append_singleton hne
      by_cases hdir : dir = []
      · simp [hdir]
      · have henter := (hway dir (List.prefix_append ..) (by simp) hdir).2
        simpa using henter

theorem sizeOf_lookup {l : List String} (h : disk.isFolderAt l = false) :
    Scan.sizeOf (disk.lookup l) = (disk.fileAt? l).map ByteArray.size := by
  unfold FileTree.isFolderAt FileTree.at? at h
  unfold FileTree.fileAt? FileTree.at?
  cases hl : disk.lookup l with
  | missing => rfl
  | belowFile => rfl
  | node t =>
      cases t with
      | file bytes => rfl
      | folder size entries => simp [hl] at h

theorem checkFile_none (fs : Filters) (p : String) : ∃ r, fs.checkFile p none = .error r := by
  unfold Filters.checkFile
  split
  · exact ⟨_, rfl⟩
  · exact ⟨_, rfl⟩

theorem allNames_of_resolves (hres : absoluteSegments (resolve (absolute root) path) = absoluteSegments root ++ f) :
    AllNames f := by
  have hall := allNames_absoluteSegments (resolve (absolute root) path)
  rw [hres] at hall
  exact hall.of_append_right

/-- Below the root, a path is listed by its names. -/
theorem toRepository_resolve (hres : absoluteSegments (resolve (absolute root) path) = absoluteSegments root ++ f)
    (hne : f ≠ []) : toRepository (absolute root) (resolve (absolute root) path) = ofNames f := by
  rw [resolve_eq, hres, toRepository_slash (allNames_of_resolves hres) hne, ofNames_of_ne_nil hne]

/-- The checks of a path, in terms of its names and of what stands there. -/
theorem examine_below (fs : Filters) (hf : AllNames f) (hne : f ≠ []) :
    fs.examine disk (join (absolute root) (ofNames f)) (ofNames f) =
      match (prefixes (ofNames f)).findSome? fs.refuses? with
      | some r => .error r
      | none =>
        if fs.maxDepth < f.length - 1 then .error .depth
        else
          match fs.checkFile (ofNames f) (Scan.sizeOf (disk.lookup (absoluteSegments root ++ f))) with
          | .error r => .error r
          | .ok size => .ok (scannedFile (absolute root) (ofNames f) size) := by
  have hlength : (segments (ofNames f)).length = f.length := by
    rw [ofNames_of_ne_nil hne, segments_ofSegments hf hne]
  have hfind : disk.find (join (absolute root) (ofNames f)) = disk.lookup (absoluteSegments root ++ f) := by
    rw [ofNames_of_ne_nil hne, join_root hf hne, FileTree.find_eq,
      absoluteSegments_slash ((allNames_absoluteSegments root).append hf)]
  rw [Filters.examine, hlength, hfind]
  rfl

/-- Below the root, a path goes through the filters of the root. -/
theorem inspect_below (hres : absoluteSegments (resolve (absolute root) path) = absoluteSegments root ++ f)
    (hne : f ≠ []) :
    inspect scanner disk (absolute root) path = (scanner.filters disk (absolute root)).map fun fs =>
      fs.examine disk (join (absolute root) (ofNames f)) (ofNames f) := by
  have hf := allNames_of_resolves hres
  have habs : resolve (absolute root) path = join (absolute root) (ofNames f) := by
    rw [resolve_eq, hres, ofNames_of_ne_nil hne, join_root hf hne]
  have hrel : toRepository (absolute root) (join (absolute root) (ofNames f)) = ofNames f := by
    rw [ofNames_of_ne_nil hne, join_root hf hne, toRepository_slash hf hne]
  have hbelow : ¬ (isAbsolute (ofNames f) = true ∨ ofNames f = ".") := by
    rw [ofNames_eq_dot_iff hf, ofNames_of_ne_nil hne, isAbsolute_ofSegments hf hne]
    simp [hne]
  simp only [inspect, absolute_absolute, habs, hrel, if_neg hbelow]

/-- A path that does not lead below the root is refused, and nothing stands there. -/
theorem inspect_outside
    (hout : ¬ ∃ f, f ≠ [] ∧ absoluteSegments (resolve (absolute root) path) = absoluteSegments root ++ f) :
    (∃ reason, inspect scanner disk (absolute root) path = .ok (.error reason)) ∧
      ∀ m, AllNames m → relative (absolute root) (resolve (absolute root) path) ≠ ofNames m := by
  obtain ⟨hrelative, hrepository⟩ := not_below (allNames_absoluteSegments _) hout
  rw [← resolve_eq] at hrelative hrepository
  refine ⟨⟨.unreadable, ?_⟩, hrelative⟩
  simp only [inspect, absolute_absolute, if_pos hrepository]

/-- A path passes the checks exactly if what stands there reports a size that the filters accept there. Whether it
    is a file is not asked. -/
theorem examine_eq_ok_iff (fs : Filters) (hf : AllNames f) (hne : f ≠ []) (file : ScannedFile) :
    fs.examine disk (join (absolute root) (ofNames f)) (ofNames f) = .ok file ↔
      ∃ n, file = scannedFile (absolute root) (ofNames f) n ∧
        Scan.sizeOf (disk.lookup (absoluteSegments root ++ f)) = some n ∧ fs.Accepts f n ∧ WayIn fs f := by
  simp only [examine_below fs hf hne, ← accepts_iff _ hf hne, ← findSome?_prefixes_eq_none_iff _ hf hne]
  generalize Scan.sizeOf (disk.lookup (absoluteSegments root ++ f)) = size
  cases hrefuse : (prefixes (ofNames f)).findSome? fs.refuses? with
  | some r => simp
  | none =>
      by_cases hdeep : fs.maxDepth < f.length - 1
      · simp [hdeep, Nat.not_le.2 hdeep]
      · have hle := Nat.not_lt.1 hdeep
        cases size with
        | none =>
            obtain ⟨r, hr⟩ := checkFile_none fs (ofNames f)
            simp [hdeep, hr]
        | some k =>
            cases hc : fs.checkFile (ofNames f) (some k) with
            | error r =>
                simp only [if_neg hdeep, reduceCtorEq, false_iff, not_exists, not_and, Option.some.injEq]
                rintro n - rfl - -
                rw [hc]
                simp
            | ok n =>
                obtain rfl := checkFile_eq_ok hc
                simp [hdeep, hle, hc, eq_comm]

theorem inspect_below_eq_ok_iff (hres : absoluteSegments (resolve (absolute root) path) = absoluteSegments root ++ f)
    (hne : f ≠ []) (file : ScannedFile) :
    inspect scanner disk (absolute root) path = .ok (.ok file) ↔ scanner.Compiles disk root ∧
      ∃ n, file = scannedFile (absolute root) (ofNames f) n ∧
        Scan.sizeOf (disk.lookup (absoluteSegments root ++ f)) = some n ∧
        (scanner.filtersIn disk root).Accepts f n ∧
        WayIn (scanner.filtersIn disk root) f := by
  rw [inspect_below hres hne, ← examine_eq_ok_iff _ (allNames_of_resolves hres) hne]
  cases hfilters : scanner.filters disk (absolute root) with
  | error fault => simp [Scanner.Compiles, hfilters, Except.map]
  | ok fs =>
      have hcompiles : scanner.Compiles disk root := ⟨fs, hfilters⟩
      have hfs : scanner.filtersIn disk root = fs := Except.ok.inj (hcompiles.filters_eq.symm.trans hfilters)
      simp [hcompiles, hfs, Except.map]

/-- The checks of a path that names no folder say what the scan finds there. -/
theorem inspect_eq_ok_iff (hwf : disk.WellFormed)
    (hres : absoluteSegments (resolve (absolute root) path) = absoluteSegments root ++ f) (hne : f ≠ [])
    (hfile : disk.isFolderAt (absoluteSegments root ++ f) = false) (file : ScannedFile) :
    inspect scanner disk (absolute root) path = .ok (.ok file) ↔ scanner.Compiles disk root ∧
      ∃ n, file = scannedFile (absolute root) (ofNames f) n ∧
        found? scanner disk root (ofNames f) = some (some n) := by
  simp only [inspect_below_eq_ok_iff hres hne, sizeOf_lookup hfile, Option.map_eq_some_iff,
    found?_file_iff hwf hne (allNames_of_resolves hres)]

/-- Where the ignore file compiles, a path is accepted or refused. -/
theorem inspect_cases (hcompiles : scanner.Compiles disk root) (path : String) :
    ∃ inspected, inspect scanner disk (absolute root) path = .ok inspected := by
  rw [inspect_absolute]
  unfold inspect
  dsimp only
  split
  · exact ⟨_, rfl⟩
  · rw [hcompiles.filters_eq]
    exact ⟨_, rfl⟩

/-- Where it does not, no path below the root can be put through the filters. -/
theorem inspect_eq_error (hcompiles : ¬ scanner.Compiles disk root)
    (hres : absoluteSegments (resolve (absolute root) path) = absoluteSegments root ++ f) (hne : f ≠ []) :
    ∃ fault, inspect scanner disk (absolute root) path = .error fault := by
  rw [inspect_below hres hne]
  cases hfilters : scanner.filters disk (absolute root) with
  | error fault => exact ⟨fault, rfl⟩
  | ok fs => exact absurd ⟨fs, hfilters⟩ hcompiles

end

/-! ## Changes -/

/-- The file that a path names, at the names `f` below the root, is written, rewritten or deleted: it is no
    folder, the other files keep their bytes, folders stay, and new ones appear above the file only, if the
    filters accept it. The ignore file is not touched. -/
structure FileChange (scanner : Scanner) (root path : String) (f : List String) (disk disk' : FileTree) :
    Prop where
  resolves : absoluteSegments (resolve (absolute root) path) = absoluteSegments root ++ f
  ne_nil : f ≠ []
  ne_ignore : f ≠ [".gitignore"]
  file_before : disk.isFolderAt (absoluteSegments root ++ f) = false
  file_after : disk'.isFolderAt (absoluteSegments root ++ f) = false
  others_eq : ∀ m, m ≠ f → disk'.fileAt? (absoluteSegments root ++ m) = disk.fileAt? (absoluteSegments root ++ m)
  folders_stay : ∀ m, disk.isFolderAt (absoluteSegments root ++ m) = true →
    disk'.isFolderAt (absoluteSegments root ++ m) = true
  folders_new : ∀ m, disk'.isFolderAt (absoluteSegments root ++ m) = true →
    disk.isFolderAt (absoluteSegments root ++ m) = true ∨
      (m <+: f ∧ ∃ file, inspect scanner disk' (absolute root) path = .ok (.ok file))

/-- To write a file below folders that are there, or that the filters let be made for it, is a change of it. -/
theorem FileChange.of_place {scanner : Scanner} {root path : String} {f : List String} {disk disk' : FileTree}
    {fresh : Nat} {bytes : ByteArray}
    (hres : absoluteSegments (resolve (absolute root) path) = absoluteSegments root ++ f) (hne : f ≠ [])
    (hignore : f ≠ [".gitignore"]) (hfile : disk.isFolderAt (absoluteSegments root ++ f) = false)
    (hplace : FileTree.place fresh (.file bytes) disk (absoluteSegments root ++ f) = .ok disk')
    (hfolders : disk.isFolderAt (absoluteSegments root ++ f.dropLast) = true ∨
      ∃ file, inspect scanner disk' (absolute root) path = .ok (.ok file)) :
    FileChange scanner root path f disk disk' := by
  refine ⟨hres, hne, hignore, hfile, FileTree.not_isFolderAt_place hplace,
    fun m hm => FileTree.fileAt?_place_of_ne hplace hfile (by simpa using hm), fun m hm => ?_, fun m hm => ?_⟩
  · have hmf : absoluteSegments root ++ m ≠ absoluteSegments root ++ f := fun he => by
      rw [he, hfile] at hm
      cases hm
    exact (FileTree.isFolderAt_place_iff hplace hfile hmf).2 (.inl hm)
  · have hmf : absoluteSegments root ++ m ≠ absoluteSegments root ++ f := fun he => by
      rw [he, FileTree.not_isFolderAt_place hplace] at hm
      cases hm
    rcases (FileTree.isFolderAt_place_iff hplace hfile hmf).1 hm with hold | hup
    · exact .inl hold
    · rw [List.prefix_append_right_inj] at hup
      refine hfolders.imp (fun hdir => ?_) fun hinspect => ⟨hup, hinspect⟩
      -- a folder above the file is the one it lies in, or above that one
      obtain ⟨dir, name, rfl⟩ := eq_append_singleton hne
      rw [List.dropLast_concat] at hdir
      obtain ⟨k, rfl⟩ := (List.prefix_concat_iff.1 hup).resolve_left (by simpa using hmf)
      by_cases hk : k = []
      · simpa [hk] using hdir
      · obtain ⟨size, entries, hentries⟩ := (FileTree.isFolderAt_iff _ _).1 hdir
        exact FileTree.isFolderAt_of_append hk (by rw [List.append_assoc, hentries]; rfl)

/-- To delete a file is a change of it. -/
theorem FileChange.of_removeAt {scanner : Scanner} {root path : String} {f : List String} {disk : FileTree}
    (hres : absoluteSegments (resolve (absolute root) path) = absoluteSegments root ++ f) (hne : f ≠ [])
    (hignore : f ≠ [".gitignore"]) (hfile : disk.isFolderAt (absoluteSegments root ++ f) = false) :
    FileChange scanner root path f disk (disk.removeAt (absoluteSegments root ++ f)) := by
  have hroot : absoluteSegments root ++ f ≠ [] := by simp [hne]
  have hfolders := FileTree.isFolderAt_removeAt hroot hfile
  exact ⟨hres, hne, hignore, hfile, FileTree.not_isFolderAt_removeAt hroot disk,
    fun m hm => FileTree.fileAt?_removeAt_of_ne hroot hfile (by simpa using hm),
    fun m hm => (hfolders _).trans hm, fun m hm => .inl ((hfolders _).symm.trans hm)⟩

/-- Two inventories differ at one file and in new folders above it only. -/
structure Inventory.DifferAt (I I' : Inventory) (f : List String) : Prop where
  file_before : I.found? (ofNames f) ≠ some none
  file_after : I'.found? (ofNames f) ≠ some none
  file_iff : ∀ p, p ≠ ofNames f → ∀ n, I'.found? p = some (some n) ↔ I.found? p = some (some n)
  folders_stay : ∀ p, I.found? p = some none → I'.found? p = some none
  folders_new : ∀ p, I'.found? p = some none → I.found? p = some none ∨
    ((∃ q, q <+: f ∧ p = ofNames q) ∧ ∃ n, I'.found? (ofNames f) = some (some n))
  output_eq : ∀ p n, p ≠ ofNames f → I'.found? p = some (some n) → I'.output? p = I.output? p

section

variable {registry : Registry} {scanner : Scanner} {disk disk' : FileTree} {root path : String} {f : List String}

/-- Below the root, a file is read where its names lead to it. -/
theorem read_join {m : List String} (hm : AllNames m) (hne : m ≠ []) (bytes : ByteArray) :
    disk.read (join (absolute root) (ofNames m)) = .ok bytes
      ↔ disk.fileAt? (absoluteSegments root ++ m) = some bytes := by
  have hall : AllNames (absoluteSegments root ++ m) := (allNames_absoluteSegments root).append hm
  have hslash : ("/" ++ ofSegments (absoluteSegments root ++ m)).endsWith "/" = false := by
    simpa using @not_endsWith_slash "" _ hall (by simp [hne])
  rw [ofNames_of_ne_nil hne, join_root hm hne, FileTree.read_eq_ok_iff hslash, absoluteSegments_slash hall]

/-- If the ignore file keeps its bytes, its patterns stay the same. -/
theorem ignored_eq (hsame : disk'.fileAt? (absoluteSegments root ++ [".gitignore"])
      = disk.fileAt? (absoluteSegments root ++ [".gitignore"])) :
    scanner.ignored disk' (absolute root) = scanner.ignored disk (absolute root) := by
  have hname : AllNames [".gitignore"] := .singleton (by decide)
  have hread := fun d : FileTree => @read_join d root _ hname (by simp)
  simp only [ofNames, List.cons_ne_nil, if_false, ofSegments_singleton] at hread
  have hlines : readGitignore disk' (absolute root) = readGitignore disk (absolute root) := by
    unfold readGitignore
    cases h : disk.fileAt? (absoluteSegments root ++ [".gitignore"]) with
    | some bytes => rw [(hread disk bytes).2 h, (hread disk' bytes).2 (hsame.trans h)]
    | none =>
        have hnone : ∀ d : FileTree, d.fileAt? (absoluteSegments root ++ [".gitignore"]) = none →
            ∃ e, d.read (join (absolute root) ".gitignore") = .error e := by
          intro d hd
          cases hr : d.read (join (absolute root) ".gitignore") with
          | error e => exact ⟨e, rfl⟩
          | ok bytes =>
              rw [(hread d bytes).1 hr] at hd
              exact absurd hd (by simp)
        obtain ⟨e, he⟩ := hnone disk h
        obtain ⟨e', he'⟩ := hnone disk' (hsame.trans h)
        rw [he, he']
  simp only [Scanner.ignored, hlines]

theorem filters_eq (hsame : disk'.fileAt? (absoluteSegments root ++ [".gitignore"])
      = disk.fileAt? (absoluteSegments root ++ [".gitignore"])) :
    scanner.filters disk' (absolute root) = scanner.filters disk (absolute root) := by
  simp only [Scanner.filters, ignored_eq hsame]

theorem output?_congr (hlocal : registry.ReadsOwnFile) {path : String}
    (hread : disk'.read (absolute path) = disk.read (absolute path)) :
    output? registry disk' root path = output? registry disk root path := by
  unfold output?
  rw [hlocal.parse_congr hread]

/-- The path of a file below the root is absolute. -/
theorem absolute_join {m : List String} (hm : AllNames m) (hne : m ≠ []) :
    absolute (join (absolute root) (ofNames m)) = join (absolute root) (ofNames m) := by
  rw [ofNames_of_ne_nil hne, join_root hm hne, absolute_eq,
    absoluteSegments_slash ((allNames_absoluteSegments root).append hm)]

/-- A file that is found is read alike on every disk that has its bytes. -/
theorem read_found_congr (hwf : disk.WellFormed) {m : List String} (hne : m ≠ []) (hm : AllNames m) {n : Nat}
    (hfound : found? scanner disk root (ofNames m) = some (some n))
    (hsame : disk'.fileAt? (absoluteSegments root ++ m) = disk.fileAt? (absoluteSegments root ++ m)) :
    disk'.read (absolute (join (absolute root) (ofNames m)))
      = disk.read (absolute (join (absolute root) (ofNames m))) := by
  obtain ⟨⟨bytes, hbytes, -⟩, -⟩ := (found?_file_iff hwf hne hm n).1 hfound
  rw [absolute_join hm hne, (read_join hm hne bytes).2 hbytes, (read_join hm hne bytes).2 (hsame.trans hbytes)]

namespace FileChange

theorem names (h : FileChange scanner root path f disk disk') : AllNames f := allNames_of_resolves h.resolves

/-- The patterns of the ignore file stay the same, and so do the filters. -/
theorem filters_eq (h : FileChange scanner root path f disk disk') :
    scanner.filters disk' (absolute root) = scanner.filters disk (absolute root) :=
  Build.filters_eq (h.others_eq _ (Ne.symm h.ne_ignore))

theorem filtersIn_eq (h : FileChange scanner root path f disk disk') :
    scanner.filtersIn disk' root = scanner.filtersIn disk root := by
  simp only [Scanner.filtersIn, h.filters_eq]

/-- It is a change of the file as it is called from the root. -/
theorem at_names (h : FileChange scanner root path f disk disk') (hwf' : disk'.WellFormed) :
    FileChange scanner root (ofNames f) f disk disk' := by
  have hres := @absoluteSegments_resolve root f h.names h.ne_nil
  refine ⟨hres, h.ne_nil, h.ne_ignore, h.file_before, h.file_after, h.others_eq, h.folders_stay, fun m hm => ?_⟩
  refine (h.folders_new m hm).imp_right fun ⟨hmf, file, hfile⟩ => ⟨hmf, file, ?_⟩
  rw [inspect_eq_ok_iff hwf' h.resolves h.ne_nil h.file_after] at hfile
  rwa [inspect_eq_ok_iff hwf' hres h.ne_nil h.file_after]

/-- Other files are found before and after. -/
theorem found?_other_iff (h : FileChange scanner root path f disk disk') (hwf : disk.WellFormed)
    (hwf' : disk'.WellFormed) {p : String} (hp : p ≠ ofNames f) (n : Nat) :
    found? scanner disk' root p = some (some n) ↔ found? scanner disk root p = some (some n) := by
  -- what is found is found under names, and the root is no file
  have hnames : ∀ m, AllNames m → p = ofNames m → (found? scanner disk' root p = some (some n) ↔
      found? scanner disk root p = some (some n)) := by
    rintro m hm rfl
    by_cases hnil : m = []
    · subst hnil
      simp
    · have hmf : m ≠ f := fun he => hp (by rw [he])
      rw [found?_file_iff hwf' hnil hm, found?_file_iff hwf hnil hm, h.others_eq m hmf, h.filtersIn_eq]
  constructor
  · intro hfound
    obtain ⟨m, hm, hpm⟩ := names_of_found? hwf' hfound
    exact (hnames m hm hpm).1 hfound
  · intro hfound
    obtain ⟨m, hm, hpm⟩ := names_of_found? hwf hfound
    exact (hnames m hm hpm).2 hfound

/-- Folders are found after if they were found before. -/
theorem found?_folder_after (h : FileChange scanner root path f disk disk') (hwf : disk.WellFormed)
    (hwf' : disk'.WellFormed) {p : String} (hfound : found? scanner disk root p = some none) :
    found? scanner disk' root p = some none := by
  obtain ⟨m, hm, rfl⟩ := names_of_found? hwf hfound
  by_cases hnil : m = []
  · subst hnil
    exact @found?_root scanner disk' root
  · obtain ⟨hat, henters, hway⟩ := (found?_folder_iff hwf hnil hm).1 hfound
    rw [← h.filtersIn_eq] at henters hway
    exact (found?_folder_iff hwf' hnil hm).2 ⟨h.folders_stay m hat, henters, hway⟩

/-- A folder found after was found before, or lies above the file, which is found as well. -/
theorem found?_folder_before (h : FileChange scanner root path f disk disk') (hwf : disk.WellFormed)
    (hwf' : disk'.WellFormed) {p : String} (hfound : found? scanner disk' root p = some none) :
    found? scanner disk root p = some none ∨
      ((∃ q, q <+: f ∧ p = ofNames q) ∧ ∃ n, found? scanner disk' root (ofNames f) = some (some n)) := by
  obtain ⟨m, hm, rfl⟩ := names_of_found? hwf' hfound
  by_cases hnil : m = []
  · subst hnil
    exact .inl (@found?_root scanner disk root)
  · obtain ⟨hat, henters, hway⟩ := (found?_folder_iff hwf' hnil hm).1 hfound
    rcases h.folders_new m hat with hold | ⟨hmf, file, hfile⟩
    · rw [h.filtersIn_eq] at henters hway
      exact .inl ((found?_folder_iff hwf hnil hm).2 ⟨hold, henters, hway⟩)
    · obtain ⟨-, n, -, hn⟩ := (inspect_eq_ok_iff hwf' h.resolves h.ne_nil h.file_after file).1 hfile
      exact .inr ⟨⟨m, hmf, rfl⟩, n, hn⟩

/-- Other files have the same bytes and so the same output. -/
theorem output?_other (h : FileChange scanner root path f disk disk') (hwf' : disk'.WellFormed)
    (hlocal : registry.ReadsOwnFile) {p : String} {n : Nat} (hp : p ≠ ofNames f)
    (hfound : found? scanner disk' root p = some (some n)) :
    (inventory registry scanner disk' root).output? p = (inventory registry scanner disk root).output? p := by
  obtain ⟨m, hne, hm, rfl⟩ := names_of_found?_file hwf' hfound
  have hmf : m ≠ f := fun he => hp (by rw [he])
  exact output?_congr hlocal (read_found_congr hwf' hne hm hfound (h.others_eq m hmf).symm).symm

/-- The inventories before and after a change differ at the file and in new folders above it. -/
theorem differ (h : FileChange scanner root path f disk disk') (hwf : disk.WellFormed) (hwf' : disk'.WellFormed)
    (hlocal : registry.ReadsOwnFile) :
    (inventory registry scanner disk root).DifferAt (inventory registry scanner disk' root) f where
  file_before hfolder := by
    have hat := ((found?_folder_iff hwf h.ne_nil h.names).1 hfolder).1
    rw [h.file_before] at hat
    cases hat
  file_after hfolder := by
    have hat := ((found?_folder_iff hwf' h.ne_nil h.names).1 hfolder).1
    rw [h.file_after] at hat
    cases hat
  file_iff _ hp n := h.found?_other_iff hwf hwf' hp n
  folders_stay _ hfound := h.found?_folder_after hwf hwf' hfound
  folders_new _ hfound := h.found?_folder_before hwf hwf' hfound
  output_eq _ _ hp hfound := h.output?_other hwf' hlocal hp hfound

end FileChange

/-! ## Paths to refresh -/

/-- A path that can be refreshed between two trees: it names no folder, and the inventories differ at it and in
    new folders above it only. -/
structure Refreshable (registry : Registry) (scanner : Scanner) (root path : String) (f : List String)
    (disk disk' : FileTree) : Prop where
  resolves : absoluteSegments (resolve (absolute root) path) = absoluteSegments root ++ f
  ne_nil : f ≠ []
  file_after : disk'.isFolderAt (absoluteSegments root ++ f) = false
  differ : (inventory registry scanner disk root).DifferAt (inventory registry scanner disk' root) f

namespace Refreshable

theorem names (h : Refreshable registry scanner root path f disk disk') : AllNames f := allNames_of_resolves h.resolves

theorem of_change (h : FileChange scanner root path f disk disk') (hwf : disk.WellFormed) (hwf' : disk'.WellFormed)
    (hlocal : registry.ReadsOwnFile) : Refreshable registry scanner root path f disk disk' :=
  ⟨h.resolves, h.ne_nil, h.file_after, h.differ hwf hwf' hlocal⟩

/-- Where nothing changes, every path that is no folder can be refreshed. -/
theorem of_unchanged (hwf : disk.WellFormed)
    (hres : absoluteSegments (resolve (absolute root) path) = absoluteSegments root ++ f) (hne : f ≠ [])
    (hfile : disk.isFolderAt (absoluteSegments root ++ f) = false) :
    Refreshable registry scanner root path f disk disk := by
  have hfolder : (inventory registry scanner disk root).found? (ofNames f) ≠ some none := fun hfound => by
    have hat := ((found?_folder_iff hwf hne (allNames_of_resolves hres)).1 hfound).1
    rw [hfile] at hat
    exact absurd hat (by simp)
  exact ⟨hres, hne, hfile, hfolder, hfolder, fun _ _ _ => Iff.rfl, fun _ h => h, fun _ h => .inl h, fun _ _ _ _ => rfl⟩

end Refreshable

end

end Build

end CodeAtlas
