import CodeAtlas.Proofs.Build.RefreshRun

set_option autoImplicit false

/-! # One path and the whole scan

One path can be put through the filters of a scan, and the answer should be the file that the scan lists there. A
walk asks of every entry whether it is a folder or a file; for a single path only its name, the folders above it and
the size of what stands there are asked for, and a folder has all three. `inspect_agrees_iff` says that this is the
only difference: the answers agree at a path exactly if it names no folder that would pass for a file. -/

namespace CodeAtlas.Build

open CodeAtlas.Scan CodeAtlas.Path

/-- What a single path gives is what a scan lists at that path, if it lists anything there. -/
def InspectAgrees (scanner : Scanner) (disk : FileTree) (root path : String) : Prop :=
  ∀ file, inspect scanner disk root path = .ok (.ok file) ↔
    ∃ res, scan scanner disk root = .ok res ∧ file ∈ res.files ∧
      file.path = toRepository (absolute root) (resolve (absolute root) path)

/-- A path names a folder below the root whose name, place and reported size the filters of the root accept of a
    file. -/
structure PassesForFile (scanner : Scanner) (disk : FileTree) (root path : String) (m : List String) (size : Nat) :
    Prop where
  resolves : absoluteSegments (resolve (absolute root) path) = absoluteSegments root ++ m
  ne_nil : m ≠ []
  folder : ∃ entries, disk.at? (absoluteSegments root ++ m) = some (.folder size entries)
  compiles : scanner.Compiles disk root
  accepted : (scanner.filtersIn disk root).Accepts m size
  wayIn : WayIn (scanner.filtersIn disk root) m

section

variable {scanner : Scanner} {disk : FileTree} {root path : String} {f : List String}

/-- What a scan lists at a path is what it finds there. -/
theorem scan_lists_iff (hwf : disk.WellFormed) (p : String) (file : ScannedFile) :
    (∃ res, scan scanner disk root = .ok res ∧ file ∈ res.files ∧ file.path = p) ↔ scanner.Compiles disk root ∧
      ∃ n, file = scannedFile (absolute root) p n ∧ found? scanner disk root p = some (some n) := by
  constructor
  · rintro ⟨res, hres, hfile, rfl⟩
    obtain ⟨hcompiles, rfl⟩ := (scan_eq_ok_iff ..).1 hres
    exact ⟨hcompiles, (mem_scanned_files hwf file).1 hfile⟩
  · rintro ⟨hcompiles, n, rfl, hfound⟩
    exact ⟨_, (scan_eq_ok_iff ..).2 ⟨hcompiles, rfl⟩, (mem_scanned_files hwf _).2 ⟨n, rfl, hfound⟩, rfl⟩

theorem sizeOf_folder {l : List String} {size : Nat} {entries : List (String × FileTree)}
    (h : disk.at? l = some (.folder size entries)) : Scan.sizeOf (disk.lookup l) = some size := by
  unfold FileTree.at? at h
  split at h
  · next t ht =>
      obtain rfl := Option.some.inj h
      rw [ht, Scan.sizeOf, FileTree.size]
  · exact absurd h (by simp)

/-- Where no folder stands, the checks of a path agree with the scan. -/
theorem inspectAgrees_of_not_folder (hwf : disk.WellFormed)
    (hres : absoluteSegments (resolve (absolute root) path) = absoluteSegments root ++ f) (hne : f ≠ [])
    (hfile : disk.isFolderAt (absoluteSegments root ++ f) = false) : InspectAgrees scanner disk root path := by
  intro file
  rw [← inspect_absolute, inspect_eq_ok_iff hwf hres hne hfile, toRepository_resolve hres hne, scan_lists_iff hwf]

/-- Where a folder stands, a scan lists no file, and the checks of the path pass if the folder passes for one. -/
theorem inspectAgrees_folder_iff (hwf : disk.WellFormed)
    (hres : absoluteSegments (resolve (absolute root) path) = absoluteSegments root ++ f) (hne : f ≠ []) {size : Nat}
    {entries : List (String × FileTree)} (hat : disk.at? (absoluteSegments root ++ f) = some (.folder size entries)) :
    InspectAgrees scanner disk root path ↔ ¬ PassesForFile scanner disk root path f size := by
  have hnone : ∀ file, ¬ ∃ res, scan scanner disk root = .ok res ∧ file ∈ res.files ∧
      file.path = toRepository (absolute root) (resolve (absolute root) path) := by
    intro file
    rw [toRepository_resolve hres hne, scan_lists_iff hwf]
    rintro ⟨-, n, -, hfound⟩
    obtain ⟨⟨bytes, hbytes, -⟩, -⟩ := (found?_file_iff hwf hne (allNames_of_resolves hres) n).1 hfound
    rw [FileTree.fileAt?_eq_some_iff, hat] at hbytes
    exact absurd hbytes (by simp)
  have hpass : ∀ file, inspect scanner disk root path = .ok (.ok file) ↔
      file = scannedFile (absolute root) (ofNames f) size ∧ PassesForFile scanner disk root path f size := by
    intro file
    rw [← inspect_absolute, inspect_below_eq_ok_iff hres hne, sizeOf_folder hat]
    constructor
    · rintro ⟨hcompiles, n, hfile, hsize, haccepted, hway⟩
      obtain rfl := Option.some.inj hsize
      exact ⟨hfile, hres, hne, ⟨entries, hat⟩, hcompiles, haccepted, hway⟩
    · rintro ⟨hfile, hp⟩
      exact ⟨hp.compiles, size, hfile, rfl, hp.accepted, hp.wayIn⟩
  constructor
  · exact fun hagrees hp => hnone _ ((hagrees _).1 ((hpass _).2 ⟨rfl, hp⟩))
  · exact fun hp file => iff_of_false (fun hok => hp ((hpass file).1 hok).2) (hnone file)

/-- Outside the root, and at the root itself, a path is refused and nothing is listed. -/
theorem inspectAgrees_outside (hwf : disk.WellFormed)
    (hout : ¬ ∃ f, f ≠ [] ∧ absoluteSegments (resolve (absolute root) path) = absoluteSegments root ++ f) :
    InspectAgrees scanner disk root path := by
  obtain ⟨⟨reason, hrefused⟩, -⟩ := @inspect_outside scanner disk root path hout
  have hrepository := (not_below (allNames_absoluteSegments _) hout).2
  rw [← resolve_eq] at hrepository
  refine fun file => iff_of_false (fun hok => ?_) fun hlisted => ?_
  · rw [← inspect_absolute, hrefused] at hok
    exact absurd hok (by simp)
  · obtain ⟨-, n, -, hfound⟩ := (scan_lists_iff hwf _ file).1 hlisted
    obtain ⟨m, hne, hm, hpath⟩ := names_of_found?_file hwf hfound
    rw [hpath, ofNames_eq_dot_iff hm, ofNames_of_ne_nil hne, isAbsolute_ofSegments hm hne] at hrepository
    simp [hne] at hrepository

end

/-- **One path and the whole scan agree,** for all scanners, well-formed trees, roots and paths, exactly if the path
    names no folder that would pass for a file. -/
theorem inspect_agrees_iff (scanner : Scanner) {disk : FileTree} (hwf : disk.WellFormed) (root path : String) :
    InspectAgrees scanner disk root path ↔ ∀ m size, ¬ PassesForFile scanner disk root path m size := by
  by_cases hbelow : ∃ f, f ≠ [] ∧ absoluteSegments (resolve (absolute root) path) = absoluteSegments root ++ f
  · obtain ⟨f, hne, hres⟩ := hbelow
    have honly : ∀ m size, PassesForFile scanner disk root path m size → m = f := fun m size hm =>
      List.append_cancel_left (hm.resolves.symm.trans hres)
    cases hfolder : disk.isFolderAt (absoluteSegments root ++ f) with
    | false =>
        refine iff_of_true (inspectAgrees_of_not_folder hwf hres hne hfolder) fun m size hm => ?_
        obtain rfl := honly m size hm
        obtain ⟨entries, hat⟩ := hm.folder
        rw [(FileTree.isFolderAt_iff ..).2 ⟨size, entries, hat⟩] at hfolder
        exact absurd hfolder (by simp)
    | true =>
        obtain ⟨size, entries, hat⟩ := (FileTree.isFolderAt_iff ..).1 hfolder
        rw [inspectAgrees_folder_iff hwf hres hne hat]
        refine ⟨fun hno m n hm => hno ?_, fun hno => hno f size⟩
        obtain rfl := honly m n hm
        obtain ⟨entries', hat'⟩ := hm.folder
        obtain ⟨rfl, -⟩ : n = size ∧ entries' = entries := by simpa using hat'.symm.trans hat
        exact hm
  · exact iff_of_true (inspectAgrees_outside hwf hbelow) fun m size hm => hbelow ⟨m, hm.ne_nil, hm.resolves⟩

/-- A tree with a folder that is called like a file. -/
def libraryDisk : FileTree := diskOf [("lib.py", .folder blockSize [("x.txt", .file "a".toUTF8)])]

/-- A scanner that takes files of up to a mebibyte. -/
def mebibyteScanner : Scanner where
  options := { (scannerFor ".py").options with maxFileSize := 1048576 }
  skip := []
  glob := Glob.matcher

/-- The folder passes for a file if files may be as large as the folder reports to be, and else does not. -/
theorem inspect_libraryDisk_agrees_iff : libraryDisk.WellFormed ∧
    ¬ InspectAgrees mebibyteScanner libraryDisk "/r" "lib.py" ∧
    InspectAgrees (scannerFor ".py") libraryDisk "/r" "lib.py" := by
  have hwf : libraryDisk.WellFormed :=
    wellFormed_diskOf (.folder (by decide) (by decide)
      (by simpa using .folder (by decide) (by decide) (by simpa using .file _)))
  have hres : absoluteSegments (resolve (absolute "/r") "lib.py") = absoluteSegments "/r" ++ ["lib.py"] := by
    decide +kernel
  refine ⟨hwf, fun hagrees => ?_, ?_⟩
  · refine (inspect_agrees_iff _ hwf "/r" "lib.py").1 hagrees ["lib.py"] blockSize
      ⟨hres, by simp, ⟨_, rfl⟩, compiles_of_unasked rfl libraryDisk, ⟨by decide +kernel, rfl⟩, fun q hq hne hnil => ?_⟩
    obtain ⟨t, rfl, ht⟩ := (List.prefix_cons_iff.1 hq).resolve_left hnil
    exact absurd (by rw [List.prefix_nil.1 ht]) hne
  · refine (inspect_agrees_iff _ hwf "/r" "lib.py").2 fun m size hm => ?_
    obtain rfl : m = ["lib.py"] := List.append_cancel_left (hm.resolves.symm.trans hres)
    obtain ⟨entries, hat⟩ := hm.folder
    obtain rfl : blockSize = size := by simpa using (FileTree.folder.inj (Option.some.inj (hat.symm.trans rfl))).1.symm
    exact absurd hm.accepted.2 (by decide +kernel)

end CodeAtlas.Build
