import CodeAtlas.Proofs.Build.Change
import CodeAtlas.Proofs.Build.Whole
import CodeAtlas.Proofs.IgnoreFile
import CodeAtlas.Proofs.Order
import Mathlib

set_option autoImplicit false

/-! # A scan is a tree

A scan lists a folder before what it finds in it (`ParentsFirst`), links every find to the folder it lies in, and
accounts for every entry of the folders it walks into: each is found or counted by the reason it is left out
(`walkEntry_weighs`). Ids put path and name together without marking where one ends; for a path and its own last name
that is no loss (`eq_of_lastPart`), so finds of different paths have different ids.

`scan_isTree` puts this together, and says that the order in which folders list their entries plays no part. -/

namespace CodeAtlas

open CodeAtlas.Path

/-! ## Ids of finds -/

/-- The part of a text after its last slash. -/
def lastPart (l : List Char) : List Char := (l.reverse.takeWhile (· != '/')).reverse

theorem slash_notMem_lastPart (l : List Char) : '/' ∉ lastPart l := by
  intro h
  have hall := List.all_eq_true.1 (List.all_takeWhile (p := (· != '/'))) '/' (List.mem_reverse.1 h)
  simp at hall

/-- What has no slash prolongs the last part. -/
theorem lastPart_append {w : List Char} (hw : '/' ∉ w) (l : List Char) : lastPart (l ++ w) = lastPart l ++ w := by
  have hall : ∀ c ∈ w.reverse, (c != '/') = true := fun c hc => by
    rw [bne_iff_ne]
    rintro rfl
    exact hw (List.mem_reverse.1 hc)
  rw [lastPart, List.reverse_append, List.takeWhile_append_of_pos hall, List.reverse_append, List.reverse_reverse,
    lastPart]

theorem toList_basename_ofNames {l : List String} (h : AllNames l) (hl : l ≠ []) :
    (basename (ofNames l)).toList = lastPart (ofNames l).toList := by
  obtain ⟨dir, name, rfl⟩ := eq_append_singleton hl
  have hname : IsName name := h name (by simp)
  rw [basename_ofNames dir hname, lastPart, takeWhile_reverse_ofNames dir hname, List.reverse_reverse]

/-- The shorter of two paths cannot go on into the name of the other: the longer one's name would be longer still. -/
theorem eq_nil_of_lastPart {p v : List Char} (h : ':' :: lastPart p = v ++ ':' :: lastPart (p ++ v)) : v = [] := by
  cases v with
  | nil => rfl
  | cons c w =>
      rw [List.cons_append, List.cons.injEq] at h
      obtain ⟨rfl, h⟩ := h
      have hw : '/' ∉ ':' :: w := by
        have hmem := slash_notMem_lastPart p
        rw [h] at hmem
        simpa using fun hw => hmem (List.mem_append_left _ hw)
      have hlength := congrArg List.length h
      rw [lastPart_append hw] at hlength
      simp only [List.length_append, List.length_cons] at hlength
      omega

theorem eq_of_lastPart {p p' : List Char} (h : p ++ ':' :: lastPart p = p' ++ ':' :: lastPart p') : p = p' := by
  rcases List.append_eq_append_iff.1 h with ⟨v, rfl, hv⟩ | ⟨v, rfl, hv⟩
  · rw [eq_nil_of_lastPart hv, List.append_nil]
  · rw [eq_nil_of_lastPart hv, List.append_nil]

namespace Scan

variable {s : Scanner} {disk : FileTree} {root : String}

theorem id_entity {x : Find} (hx : x.path ≠ ".") (root : String) : (x.entity root).id
    = entityId (if x.size = none then .directory else .file) x.path (basename x.path) 1 := by
  obtain ⟨p, _ | n⟩ := x
  · simp only [Find.entity, directoryEntity, if_neg hx]
    rfl
  · rfl

/-- Finds of different paths have different ids. -/
theorem path_eq_of_id_eq {x y : Find} {l m : List String} (hl : AllNames l) (hm : AllNames m) (hl' : l ≠ [])
    (hm' : m ≠ []) (hx : x.path = ofNames l) (hy : y.path = ofNames m)
    (hid : (x.entity root).id = (y.entity root).id) : x.path = y.path := by
  rw [id_entity (by rw [hx, Ne, ofNames_eq_dot_iff hl]; exact hl') root,
    id_entity (by rw [hy, Ne, ofNames_eq_dot_iff hm]; exact hm') root, entityId_eq_iff] at hid
  have hplace := congrArg String.toList hid.2.1
  rw [hx, hy] at hplace ⊢
  simp only [String.toList_append, toList_basename_ofNames hl hl', toList_basename_ofNames hm hm',
    List.append_assoc] at hplace
  exact String.toList_inj.1 (eq_of_lastPart hplace)

theorem colon_notMem_of_place {p b r : List Char} (hr : ':' ∉ r) (h : p ++ ':' :: b = '.' :: ':' :: r) : p = ['.'] := by
  have hcount := congrArg (List.count ':') h
  have hb : ':' ∉ b := by
    rw [← List.count_eq_zero] at hr ⊢
    simp [hr] at hcount
    omega
  exact (@append_colon_inj p ['.'] b r hb hr h).1

/-- No find has the id of a root whose name has no colon. -/
theorem id_root_ne {x : Find} (hroot : ':' ∉ (basename (absolute root)).toList) (hx : x.path ≠ ".") :
    (directoryEntity (absolute root) ".").id ≠ (x.entity (absolute root)).id := by
  intro hid
  have hname : ':' ∉ (if basename (absolute root) = "" then "." else basename (absolute root)).toList := by
    split
    · decide
    · exact hroot
  have hid' : (directoryEntity (absolute root) ".").id
      = entityId .directory "." (if basename (absolute root) = "" then "." else basename (absolute root)) 1 := by
    simp only [directoryEntity, Entity.create, absolute_absolute, if_true]
  rw [hid', id_entity hx, entityId_eq_iff] at hid
  have hplace := congrArg String.toList hid.2.1.symm
  simp only [String.toList_append, List.append_assoc] at hplace
  exact hx (String.toList_inj.1 (colon_notMem_of_place hname hplace))

/-! ## Folders come first -/

/-- Does every find lie in a known folder, or in one found before it? -/
def ParentsFirst : List String → List Find → Prop
  | _, [] => True
  | known, x :: rest =>
    dirname x.path ∈ known ∧ ParentsFirst (if x.size = none then x.path :: known else known) rest

namespace ParentsFirst

theorem mono {finds : List Find} {known known' : List String} (hsub : known ⊆ known') (h : ParentsFirst known finds) :
    ParentsFirst known' finds := by
  induction finds generalizing known known' with
  | nil => exact trivial
  | cons x rest ih =>
      refine ⟨hsub h.1, ih ?_ h.2⟩
      split
      · exact List.cons_subset_cons _ hsub
      · exact hsub

theorem append {a b : List Find} {known : List String} (ha : ParentsFirst known a) (hb : ParentsFirst known b) :
    ParentsFirst known (a ++ b) := by
  induction a generalizing known with
  | nil => exact hb
  | cons x rest ih =>
      refine ⟨ha.1, ih ha.2 (hb.mono ?_)⟩
      split
      · exact List.subset_cons_self _ _
      · exact List.Subset.refl _

theorem flatten {ls : List (List Find)} {known : List String} (h : ∀ l ∈ ls, ParentsFirst known l) :
    ParentsFirst known ls.flatten := by
  induction ls with
  | nil => exact trivial
  | cons l rest ih =>
      exact (h l List.mem_cons_self).append (ih fun l' hl' => h l' (List.mem_cons_of_mem _ hl'))

theorem inNameOrder {l : List (String × List Find)} {known : List String} (h : ∀ e ∈ l, ParentsFirst known e.2) :
    ParentsFirst known (findsInNameOrder l) := by
  refine flatten fun finds hfinds => ?_
  obtain ⟨e, he, rfl⟩ := List.mem_map.1 hfinds
  exact h e (List.mem_mergeSort.1 he)

/-- What comes before a find has its folder. -/
theorem parent {before after : List Find} {x : Find} {known : List String}
    (h : ParentsFirst known (before ++ x :: after)) :
    dirname x.path ∈ known ∨ ∃ y ∈ before, y.size = none ∧ y.path = dirname x.path := by
  induction before generalizing known with
  | nil => exact .inl h.1
  | cons y rest ih =>
      rcases ih h.2 with hknown | ⟨z, hz, hfolder⟩
      · split at hknown
        · next hsize =>
            rcases List.mem_cons.1 hknown with hy | hknown
            · exact .inr ⟨y, List.mem_cons_self, hsize, hy.symm⟩
            · exact .inl hknown
        · exact .inl hknown
      · exact .inr ⟨z, List.mem_cons_of_mem _ hz, hfolder⟩

end ParentsFirst

theorem findsIn_parentsFirst {f : Filters} {dir : List String} (hd : AllNames dir)
    {entries : List (String × FileTree)} {known : List String}
    (h : ∀ e ∈ entries, ParentsFirst known (findsAt f (ofNames (dir ++ [e.1])) e.2)) :
    ParentsFirst known (findsInNameOrder (findsIn f (ofNames dir) entries)) := by
  refine ParentsFirst.inNameOrder fun e' he' => ?_
  rw [findsIn_eq_map] at he'
  obtain ⟨e, he, rfl⟩ := List.mem_map.1 he'
  rw [childPath_ofNames hd]
  exact h e he

theorem findsAt_parentsFirst (f : Filters) (t : FileTree) :
    t.WellFormed → ∀ {dir : List String} {name : String} {known : List String}, AllNames dir → IsName name →
      ofNames dir ∈ known → ParentsFirst known (findsAt f (ofNames (dir ++ [name])) t) := by
  induction t using FileTree.induction with
  | file bytes =>
      intro _ dir name known hd hn hknown
      have hparent := dirname_ofNames hd hn
      unfold findsAt
      split
      · exact trivial
      · split
        · exact trivial
        · exact ⟨hparent ▸ hknown, trivial⟩
  | folder size entries ih =>
      intro hwf dir name known hd hn hknown
      have hall : AllNames (dir ++ [name]) := hd.append (.singleton hn)
      have hparent := dirname_ofNames hd hn
      unfold findsAt
      split
      · exact trivial
      · split
        · exact trivial
        · exact ⟨hparent ▸ hknown, findsIn_parentsFirst hall fun e he =>
            ih e he (hwf.entry he).2 hall (hwf.entry he).1 List.mem_cons_self⟩

theorem findsOf_parentsFirst (s : Scanner) (hwf : disk.WellFormed) (root : String) :
    ParentsFirst ["."] (findsOf s disk root) := by
  unfold findsOf
  split
  · next size entries hat =>
      have hinside := (hwf.at? hat).2
      rw [← ofNames_nil]
      exact findsIn_parentsFirst .nil fun e he =>
        findsAt_parentsFirst _ e.2 (hinside.entry he).2 .nil (hinside.entry he).1 List.mem_cons_self
  · exact trivial

/-! ## Every entry counts -/

namespace ScanResult

/-- How many entities were found and how many entries left out. -/
def weight (res : ScanResult) : Nat := res.entities.length + (SkipReason.all.map res.skipped).sum

@[simp] theorem weight_empty : empty.weight = 0 := rfl

@[simp] theorem weight_skip (r : SkipReason) : (skip r).weight = 1 := by cases r <;> rfl

@[simp] theorem weight_append (a b : ScanResult) : (a.append b).weight = a.weight + b.weight := by
  have hsum := @List.sum_map_add SkipReason Nat _ SkipReason.all a.skipped b.skipped
  simp only [weight, append, List.length_append, hsum]
  omega

theorem weight_foldl (l : List ScanResult) (res : ScanResult) :
    (l.foldl append res).weight = res.weight + (l.map weight).sum := by
  induction l generalizing res with
  | nil => simp
  | cons a rest ih => rw [List.foldl_cons, ih, weight_append, List.map_cons, List.sum_cons, Nat.add_assoc]

theorem weight_inNameOrder (l : List (String × ScanResult)) :
    (inNameOrder l).weight = (l.map fun e => e.2.weight).sum := by
  have hperm := (List.mergeSort_perm l fun a b => Text.atMost a.1 b.1).map fun e => e.2.weight
  rw [inNameOrder, weight_foldl, weight_empty, Nat.zero_add, List.map_map]
  exact hperm.sum_eq

end ScanResult

/-- How many entries the folder at a path has. -/
def entryCount (disk : FileTree) (path : String) : Nat :=
  match disk.list path with
  | .ok entries => entries.length
  | .error _ => 0

theorem entryCount_eq {size : Nat} {entries : List (String × FileTree)} {p : String}
    (h : disk.at? (absoluteSegments p) = some (.folder size entries)) : entryCount disk p = entries.length := by
  rw [FileTree.at?] at h
  rw [entryCount, FileTree.list, FileTree.find_eq]
  cases hlookup : disk.lookup (absoluteSegments p) <;> simp only [hlookup, Option.some.injEq, reduceCtorEq] at h
  simp only [h]

/-- How many entries lie in a find; a file has none. -/
def inside (disk : FileTree) (root : String) (x : Find) : Nat :=
  if x.size = none then entryCount disk (resolve (absolute root) x.path) else 0

theorem sum_findsIn (f : Filters) {dir : List String} (hd : AllNames dir) (entries : List (String × FileTree))
    (n : Find → Nat) :
    ((findsInNameOrder (findsIn f (ofNames dir) entries)).map n).sum
      = (entries.map fun e => ((findsAt f (ofNames (dir ++ [e.1])) e.2).map n).sum).sum := by
  have hperm := ((List.mergeSort_perm (findsIn f (ofNames dir) entries) fun a b => Text.atMost a.1 b.1).map
    (·.2)).flatten
  rw [findsInNameOrder, (hperm.map n).sum_eq, findsIn_eq_map, List.map_flatten, List.sum_flatten, List.map_map,
    List.map_map, List.map_map]
  simp only [Function.comp_def, childPath_ofNames hd]

/-- The entries of a folder weigh as much as they are, and as lie in the folders found below it. -/
theorem walkEntries_weigh {f : Filters} {dir : List String} (hd : AllNames dir)
    (entries : List (String × FileTree)) (parent : Entity) (n : Find → Nat)
    (h : ∀ e ∈ entries, (walkEntry f (absolute root) parent (ofNames (dir ++ [e.1])) e.2).weight
      = 1 + ((findsAt f (ofNames (dir ++ [e.1])) e.2).map n).sum) :
    (inNameOrder (walkEntries f (absolute root) parent (ofNames dir) entries)).weight
      = entries.length + ((findsInNameOrder (findsIn f (ofNames dir) entries)).map n).sum := by
  rw [ScanResult.weight_inNameOrder, sum_findsIn f hd, walkEntries_eq_map, List.map_map]
  simp only [Function.comp_def, childPath_ofNames hd]
  rw [List.map_congr_left h, List.sum_map_add]
  simp

/-- **Every entry counts.** An entry is found or left out, and with it what lies in the folders found there. -/
theorem walkEntry_weighs (f : Filters) (hwf : disk.WellFormed) (root : String) (t : FileTree) :
    ∀ {l : List String} (parent : Entity), l ≠ [] → disk.at? (absoluteSegments root ++ l) = some t →
      (walkEntry f (absolute root) parent (ofNames l) t).weight
        = 1 + ((findsAt f (ofNames l) t).map (inside disk root)).sum := by
  induction t using FileTree.induction with
  | file bytes =>
      intro l parent _ _
      cases hr : f.refuses? (ofNames l) with
      | some r => simp [walkEntry, findsAt, hr]
      | none =>
          cases hc : f.checkFile (ofNames l) (some bytes.size) with
          | error r => simp [walkEntry, findsAt, hr, hc]
          | ok size => simp [walkEntry, findsAt, hr, hc, inside, foundFile, ScanResult.weight, SkipReason.all,
              SkipCounts.none]
  | folder size entries ih =>
      intro l parent hl hat
      have hnames : AllNames l := (hwf.at? hat).1.of_append_right
      have hentries := (hwf.at? hat).2
      cases hr : f.refuses? (ofNames l) with
      | some r => simp [walkEntry, findsAt, hr]
      | none =>
          by_cases hdeep : f.maxDepth < depthOf (ofNames l)
          · simp [walkEntry, findsAt, hr, hdeep]
          · have hbelow := @walkEntries_weigh root f l hnames entries (directoryEntity (absolute root) (ofNames l))
              (inside disk root) fun e he => ih e he _ (by simp) (by
                rw [← List.append_assoc, FileTree.at?_append, hat, Option.bind_some, hentries.at?_cons_iff]
                exact ⟨e.2, he, FileTree.at?_nil _⟩)
            have hinside : inside disk root ⟨ofNames l, none⟩ = entries.length := by
              have hfolder : disk.at? (absoluteSegments (resolve (absolute root) (ofNames l)))
                  = some (.folder size entries) := by
                rw [absoluteSegments_resolve hnames hl, hat]
              rw [inside, if_pos rfl, entryCount_eq hfolder]
            simp only [walkEntry, findsAt, hr, if_neg hdeep, ScanResult.weight_append, hbelow, List.map_cons,
              List.sum_cons, hinside]
            rfl

/-! ## The order of a listing -/

/-- A folder holds the same in whatever order it lists its entries. -/
theorem standsAt_folder_of_perm {size size' : Nat} {entries entries' : List (String × FileTree)}
    (h : (FileTree.folder size entries).WellFormed) (hperm : entries.Perm entries') (l : List String) :
    (FileTree.folder size entries).standsAt l = (FileTree.folder size' entries').standsAt l := by
  have hlookup (name : String) : entries.lookup name = entries'.lookup name := by
    refine Option.ext fun u => ?_
    rw [FileTree.lookup_eq_some_iff_mem h.nodup_names,
      FileTree.lookup_eq_some_iff_mem ((hperm.map (·.1)).nodup_iff.1 h.nodup_names), hperm.mem_iff]
  cases l with
  | nil => simp [FileTree.standsAt]
  | cons name rest => rw [FileTree.standsAt_folder_cons, FileTree.standsAt_folder_cons, hlookup]

theorem inNameOrder_eq_of_perm {l l' : List (String × ScanResult)} (hnodup : (l.map (·.1)).Nodup) (hperm : l.Perm l') :
    inNameOrder l = inNameOrder l' := by
  rw [inNameOrder, inNameOrder, mergeSort_id_eq_of_perm hnodup hperm]

/-- Entries of folders that hold the same, wherever they stand in their folders. -/
theorem exists_entry_of_standsAt {size size' : Nat} {entries entries' : List (String × FileTree)} {name : String}
    {u : FileTree} (h : (FileTree.folder size entries).WellFormed) (h' : (FileTree.folder size' entries').WellFormed)
    (hsame : ∀ l, (FileTree.folder size entries).standsAt l = (FileTree.folder size' entries').standsAt l)
    (hu : (name, u) ∈ entries) : ∃ v, (name, v) ∈ entries' ∧ ∀ l, u.standsAt l = v.standsAt l := by
  have hlookup := (h.lookup_eq_some_iff name u).2 hu
  have hbelow : ∀ l, u.standsAt l = (entries'.lookup name).bind (·.standsAt l) := fun l => by
    have hl := hsame (name :: l)
    rwa [FileTree.standsAt_folder_cons, FileTree.standsAt_folder_cons, hlookup, Option.bind_some] at hl
  cases hlookup' : entries'.lookup name with
  | none =>
      have hnothing := hbelow []
      rw [hlookup', FileTree.standsAt, FileTree.at?_nil] at hnothing
      exact absurd hnothing (by simp)
  | some v =>
      refine ⟨v, (h'.lookup_eq_some_iff name v).1 hlookup', fun l => ?_⟩
      rw [hbelow l, hlookup', Option.bind_some]

theorem walkEntries_eq_of_standsAt {f : Filters} {size size' : Nat} {entries entries' : List (String × FileTree)}
    (h : (FileTree.folder size entries).WellFormed) (h' : (FileTree.folder size' entries').WellFormed)
    (hsame : ∀ l, (FileTree.folder size entries).standsAt l = (FileTree.folder size' entries').standsAt l)
    (hentry : ∀ e ∈ entries, ∀ u : FileTree, u.WellFormed → (∀ l, e.2.standsAt l = u.standsAt l) →
      ∀ parent path, walkEntry f root parent path e.2 = walkEntry f root parent path u)
    (parent : Entity) (dir : String) :
    inNameOrder (walkEntries f root parent dir entries) = inNameOrder (walkEntries f root parent dir entries') := by
  have hnodup : ∀ {n : Nat} {l : List (String × FileTree)}, (FileTree.folder n l).WellFormed →
      ((walkEntries f root parent dir l).map (·.1)).Nodup := fun {n l} hl => by
    rw [walkEntries_eq_map, List.map_map]
    exact hl.nodup_names
  refine inNameOrder_eq_of_perm (hnodup h) ?_
  rw [List.perm_ext_iff_of_nodup (hnodup h).of_map (hnodup h').of_map]
  intro r
  rw [walkEntries_eq_map, walkEntries_eq_map, List.mem_map, List.mem_map]
  constructor
  · rintro ⟨⟨name, u⟩, hu, rfl⟩
    obtain ⟨v, hv, huv⟩ := exists_entry_of_standsAt h h' hsame hu
    exact ⟨(name, v), hv, by rw [hentry _ hu v (h'.entry hv).2 huv]⟩
  · rintro ⟨⟨name, v⟩, hv, rfl⟩
    obtain ⟨u, hu, hvu⟩ := exists_entry_of_standsAt h' h (fun l => (hsame l).symm) hv
    exact ⟨(name, u), hu, by rw [hentry _ hu v (h'.entry hv).2 fun l => (hvu l).symm]⟩

/-- What a walk makes of an entry does not depend on the order in which folders list their entries. -/
theorem walkEntry_eq_of_standsAt (f : Filters) (root : String) (t : FileTree) :
    t.WellFormed → ∀ {u : FileTree}, u.WellFormed → (∀ l, t.standsAt l = u.standsAt l) →
      ∀ parent path, walkEntry f root parent path t = walkEntry f root parent path u := by
  induction t using FileTree.induction with
  | file bytes =>
      intro _ u _ hsame parent path
      have hhere := hsame []
      cases u with
      | file bytes' =>
          simp only [FileTree.standsAt, FileTree.at?_nil, Option.map_some, Option.some.injEq] at hhere
          rw [hhere]
      | folder size entries => simp [FileTree.standsAt] at hhere
  | folder size entries ih =>
      intro hwf u hwf' hsame parent path
      have hhere := hsame []
      cases u with
      | file bytes => simp [FileTree.standsAt] at hhere
      | folder size' entries' =>
          have hinside := @walkEntries_eq_of_standsAt root f size size' entries entries' hwf hwf' hsame
            (fun e he u hu hsame => ih e he (hwf.entry he).2 hu hsame) (directoryEntity root path) path
          simp only [walkEntry, hinside]

theorem insideOf_folder (f : Filters) {size : Nat} {entries : List (String × FileTree)}
    (hat : disk.at? (absoluteSegments root) = some (.folder size entries)) : insideOf f disk (absolute root)
      = inNameOrder (walkEntries f (absolute root) (directoryEntity (absolute root) ".") "." entries) := by
  rw [FileTree.at?] at hat
  rw [insideOf, FileTree.list, FileTree.find_eq, absoluteSegments_absolute]
  cases hlookup : disk.lookup (absoluteSegments root) <;> simp only [hlookup, Option.some.injEq, reduceCtorEq] at hat
  simp only [hat]

theorem insideOf_no_folder (f : Filters) (h : disk.isFolderAt (absoluteSegments root) = false) :
    insideOf f disk (absolute root) = .skip .unreadable := by
  rw [FileTree.isFolderAt, FileTree.at?] at h
  rw [insideOf, FileTree.list, FileTree.find_eq, absoluteSegments_absolute]
  cases hlookup : disk.lookup (absoluteSegments root) with
  | missing => rfl
  | belowFile => rfl
  | node t =>
      cases t with
      | file bytes => rfl
      | folder size entries => exact absurd h (by simp [hlookup])

/-- **The order of a listing plays no part.** -/
theorem scan_eq_of_standsAt (s : Scanner) {disk disk' : FileTree} (hwf : disk.WellFormed) (hwf' : disk'.WellFormed)
    (hsame : ∀ l, disk'.standsAt l = disk.standsAt l) (root : String) : scan s disk' root = scan s disk root := by
  have hfilters : s.filters disk' (absolute root) = s.filters disk (absolute root) := by
    refine Build.filters_eq (Option.ext fun bytes => ?_)
    rw [FileTree.fileAt?_eq_some_iff_standsAt, FileTree.fileAt?_eq_some_iff_standsAt, hsame]
  have hfolder : disk'.isFolderAt (absoluteSegments root) = disk.isFolderAt (absoluteSegments root) :=
    Bool.eq_iff_iff.2 (by rw [FileTree.isFolderAt_iff_standsAt, FileTree.isFolderAt_iff_standsAt, hsame])
  have hinside (f : Filters) : insideOf f disk' (absolute root) = insideOf f disk (absolute root) := by
    cases h : disk.isFolderAt (absoluteSegments root) with
    | false => rw [insideOf_no_folder f h, insideOf_no_folder f (hfolder.trans h)]
    | true =>
        obtain ⟨size, entries, hat⟩ := (FileTree.isFolderAt_iff _ _).1 h
        obtain ⟨size', entries', hat'⟩ := (FileTree.isFolderAt_iff _ _).1 (hfolder.trans h)
        have hbelow (d : FileTree) {t : FileTree} (ht : d.at? (absoluteSegments root) = some t) (l : List String) :
            t.standsAt l = d.standsAt (absoluteSegments root ++ l) := by
          rw [FileTree.standsAt, FileTree.standsAt, FileTree.at?_append, ht, Option.bind_some]
        rw [insideOf_folder f hat, insideOf_folder f hat']
        refine walkEntries_eq_of_standsAt (hwf'.at? hat').2 (hwf.at? hat).2 (fun l => ?_) (fun e he u hu hsame => ?_) _ _
        · rw [hbelow disk hat, hbelow disk' hat', hsame]
        · exact walkEntry_eq_of_standsAt f _ e.2 ((hwf'.at? hat').2.entry he).2 hu hsame
  simp only [scan, hfilters, walk_eq, hinside]

/-! ## Whole scans -/

/-- What a scan of a folder comes to. -/
structure IsTree (disk : FileTree) (root : String) (res : ScanResult) : Prop where
  root_first : res.entities.head? = some (directoryEntity (absolute root) ".")
  nodup_paths : (res.entities.map Entity.path).Nodup
  nodup_ids : (res.entities.map Entity.id).Nodup
  /-- A folder comes before what lies in it, and nothing but the containment in that folder enters a find. -/
  parent : ∀ before e after, res.entities = before ++ e :: after → before ≠ [] →
    ∃ d ∈ before, d.kind = .directory ∧ d.path = dirname e.path ∧
      res.relationships.filter (·.target = e.id) = [Scan.containment d.id e.id]
  links : res.relationships.length + 1 = res.entities.length
  /-- The files are the entities of files, in their order. -/
  files : res.files.map (fun s => fileEntity s.path s.size) = res.entities.filter (·.kind = .file)
  file_ids : ∀ s ∈ res.files, s = ⟨join (absolute root) s.path, s.path, s.size, (fileEntity s.path s.size).id⟩
  /-- Every entry of a folder that was walked into is found or left out. -/
  counted : ((res.entities.filter (·.kind = .directory)).map fun d =>
      entryCount disk (resolve (absolute root) d.path)).sum + 1
    = res.entities.length + (SkipReason.all.map res.skipped).sum

theorem names_of_mem_findsOf (hwf : disk.WellFormed) {x : Find} (hx : x ∈ findsOf s disk root) :
    ∃ m, AllNames m ∧ m ≠ [] ∧ x.path = ofNames m := by
  obtain ⟨m, u, hm, hat, -, -, rfl⟩ := (mem_findsOf_iff s hwf root x).1 hx
  exact ⟨m, (hwf.at? hat).1.of_append_right, hm, path_findOf m u⟩

theorem absoluteSegments_resolve_dot (root : String) :
    absoluteSegments (resolve (absolute root) ".") = absoluteSegments root := by
  have hsegments : segments (absolute root ++ "/" ++ ".") = segments (absolute root) ++ ["."] := by
    rw [segments_append, segments_of_no_slash (s := ".") (by decide)]
  have hdot (l : List String) : resolveSegments false (l ++ ["."]) = resolveSegments false l := by
    simp [resolveSegments, push]
  have hrel : isAbsolute "." = false := by decide +kernel
  rw [resolve, hrel, if_neg (by simp), absoluteSegments_absolute, absoluteSegments, hsegments, hdot, ← absoluteSegments,
    absoluteSegments_absolute]

theorem nodup_ids_findsOf (hwf : disk.WellFormed) :
    ((findsOf s disk root).map fun x => (x.entity (absolute root)).id).Nodup := by
  have hpaths := nodup_findsOf s hwf root
  refine List.Nodup.map_on (fun x hx y hy hid => ?_) hpaths.of_map
  obtain ⟨l, hl, hl', hpath⟩ := names_of_mem_findsOf hwf hx
  obtain ⟨m, hm, hm', hpath'⟩ := names_of_mem_findsOf hwf hy
  exact List.inj_on_of_nodup_map hpaths hx hy (path_eq_of_id_eq hl hm hl' hm' hpath hpath' hid)

@[simp] theorem kind_directoryEntity (root dir : String) : (directoryEntity root dir).kind = .directory := rfl

@[simp] theorem kind_entity_folder (root p : String) : (Find.entity root ⟨p, none⟩).kind = .directory := rfl

@[simp] theorem kind_entity_file (root p : String) (n : Nat) : (Find.entity root ⟨p, some n⟩).kind = .file := rfl

/-- The files of finds are the entities of files among theirs. -/
theorem map_fileEntity_file? (root : String) (finds : List Find) :
    (finds.filterMap (Find.file? root)).map (fun s => fileEntity s.path s.size)
      = (finds.map (Find.entity root)).filter (·.kind = .file) := by
  induction finds with
  | nil => rfl
  | cons x rest ih =>
      obtain ⟨p, _ | n⟩ := x
      · exact ih
      · exact congrArg (fileEntity p n :: ·) ih

/-- The entries of the folders among the entities of finds are those that lie in the finds. -/
theorem sum_entryCount (finds : List Find) :
    (((finds.map (Find.entity (absolute root))).filter (·.kind = .directory)).map fun d =>
      entryCount disk (resolve (absolute root) d.path)).sum = (finds.map (inside disk root)).sum := by
  induction finds with
  | nil => rfl
  | cons x rest ih =>
      obtain ⟨p, _ | n⟩ := x
      · simp [inside, ih]
      · simp [inside, ih]

/-- A find is entered by its containment in its folder, and by nothing else. -/
theorem filter_target_eq (hwf : disk.WellFormed) {x : Find} (hx : x ∈ findsOf s disk root) :
    ((findsOf s disk root).map (Find.containment (absolute root))).filter
      (·.target = (x.entity (absolute root)).id) = [x.containment (absolute root)] := by
  have hnodup := @nodup_ids_findsOf s disk root hwf
  have hone := Build.filter_eq_find? hnodup (x.entity (absolute root)).id
  cases hfind : (findsOf s disk root).find?
      (fun y => (y.entity (absolute root)).id = (x.entity (absolute root)).id) with
  | none => exact absurd (List.find?_eq_none.1 hfind x hx) (by simp)
  | some y =>
      have hid : (y.entity (absolute root)).id = (x.entity (absolute root)).id := by simpa using List.find?_some hfind
      obtain rfl := List.inj_on_of_nodup_map hnodup (List.mem_of_find?_eq_some hfind) hx hid
      rw [hfind] at hone
      rw [List.filter_map]
      exact congrArg (List.map (Find.containment (absolute root))) hone

/-- The entity of the folder of a find comes before the find's own. -/
theorem exists_parent (hwf : disk.WellFormed) {before after : List Find} {x : Find}
    (h : findsOf s disk root = before ++ x :: after) :
    directoryEntity (absolute root) (dirname x.path)
      ∈ directoryEntity (absolute root) "." :: before.map (Find.entity (absolute root)) := by
  have hfirst := findsOf_parentsFirst s hwf root
  rw [h] at hfirst
  rcases hfirst.parent with hroot | ⟨⟨p, size⟩, hy, rfl, rfl⟩
  · rw [List.mem_singleton.1 hroot]
    exact List.mem_cons_self
  · exact List.mem_cons_of_mem _ (List.mem_map_of_mem hy)

/-- A scan weighs its root, and what lies in the folders that were walked into. -/
theorem scanned_weight (s : Scanner) (hwf : disk.WellFormed) {size : Nat} {entries : List (String × FileTree)}
    (hat : disk.at? (absoluteSegments root) = some (.folder size entries)) :
    (s.scanned disk root).weight = 1 + (entries.length + ((findsOf s disk root).map (inside disk root)).sum) := by
  have hentries := (hwf.at? hat).2
  have hinside := @walkEntries_weigh root (s.filtersIn disk root) [] .nil entries
    (directoryEntity (absolute root) ".") (inside disk root) fun e he =>
      walkEntry_weighs _ hwf root e.2 _ (by simp) (by
        rw [FileTree.at?_append, hat, Option.bind_some, List.nil_append, hentries.at?_cons_iff]
        exact ⟨e.2, he, FileTree.at?_nil _⟩)
  rw [ofNames_nil] at hinside
  rw [Scanner.scanned, walk_eq, ScanResult.weight_append, insideOf_folder _ hat, hinside, findsOf, hat]
  rfl

theorem scanned_isTree (s : Scanner) (hwf : disk.WellFormed) {root : String}
    (hfolder : disk.isFolderAt (absoluteSegments root) = true)
    (hname : ':' ∉ (basename (absolute root)).toList) : IsTree disk root (s.scanned disk root) := by
  obtain ⟨size, entries, hat⟩ := (FileTree.isFolderAt_iff _ _).1 hfolder
  obtain ⟨hents, hrels, hfiles⟩ := scanned_reads s hwf root
  have hdot : ∀ x ∈ findsOf s disk root, x.path ≠ "." := fun x hx => Build.path_ne_dot hwf hx
  constructor
  · rw [hents, List.head?_cons]
  · have hpaths : ((findsOf s disk root).map (Find.entity (absolute root))).map Entity.path
        = (findsOf s disk root).map Find.path := by
      simp
    rw [hents, List.map_cons, hpaths, List.nodup_cons]
    refine ⟨fun hmem => ?_, nodup_findsOf s hwf root⟩
    obtain ⟨x, hx, hpath⟩ := List.mem_map.1 hmem
    exact hdot x hx hpath
  · rw [hents, List.map_cons, List.map_map, List.nodup_cons]
    refine ⟨fun hmem => ?_, nodup_ids_findsOf hwf⟩
    obtain ⟨x, hx, hid⟩ := List.mem_map.1 hmem
    exact id_root_ne hname (hdot x hx) hid.symm
  · intro before e after hsplit hne
    obtain ⟨d, before, rfl⟩ := List.exists_cons_of_ne_nil hne
    rw [hents, List.cons_append, List.cons.injEq] at hsplit
    obtain ⟨rfl, hsplit⟩ := hsplit
    obtain ⟨l, m, hfinds, rfl, hm⟩ := List.map_eq_append_iff.1 hsplit
    obtain ⟨x, after', rfl, rfl, -⟩ := List.map_eq_cons_iff.1 hm
    refine ⟨_, exists_parent hwf hfinds, rfl, by rw [Find.path_entity]; rfl, ?_⟩
    rw [hrels]
    exact filter_target_eq hwf (hfinds ▸ by simp)
  · rw [hents, hrels]
    simp
  · rw [hfiles, hents, map_fileEntity_file?]
    rfl
  · intro file hs
    rw [hfiles] at hs
    obtain ⟨⟨p, size⟩, -, hfile⟩ := List.mem_filterMap.1 hs
    obtain ⟨n, -, rfl⟩ := Option.map_eq_some_iff.1 hfile
    rfl
  · have hweight := scanned_weight s hwf hat
    have hroot : entryCount disk (resolve (absolute root) ".") = entries.length :=
      entryCount_eq ((absoluteSegments_resolve_dot root).symm ▸ hat)
    have hsum := @sum_entryCount disk root (findsOf s disk root)
    rw [ScanResult.weight] at hweight
    rw [hweight, hents, List.filter_cons_of_pos (by simp), List.map_cons, List.sum_cons, hsum]
    exact (congrArg (· + _ + 1) hroot).trans (Nat.add_comm _ _)

/-- **A scan is a tree, and nothing is lost.** Scanned with any options whose patterns compile, as those of its ignore
    file do, a folder whose name has no colon gives a tree of entities of different paths and ids, each behind that of its
    folder; its files are the entities of files; every entry of a folder that was walked into is found or counted as left
    out; and all of this is the same in whatever order folders list their entries. -/
theorem scan_isTree (glob : String → Except Fault Matcher) (o : Options) (hwf : disk.WellFormed) {root : String}
    (hfolder : disk.isFolderAt (absoluteSegments root) = true)
    (hname : ':' ∉ (basename (absolute root)).toList)
    (hskip : ∀ p ∈ trimmed o.skipPatterns, ∃ m, glob p = .ok m)
    (hignore : o.respectGitignore = true →
      ∀ p ∈ trimmed (readGitignore disk (absolute root)), ∃ m, glob p = .ok m) :
    ∃ s res, Scanner.ofOptions glob o = .ok s ∧ scan s disk root = .ok res ∧ IsTree disk root res ∧
      ∀ disk' : FileTree, disk'.WellFormed → (∀ l, disk'.standsAt l = disk.standsAt l) →
        scan s disk' root = .ok res := by
  obtain ⟨skip, hskip⟩ := (exists_compileAll_iff glob o.skipPatterns).2 hskip
  have hscanner : Scanner.ofOptions glob o = .ok ⟨o, skip, glob⟩ := by rw [Scanner.ofOptions, hskip]; rfl
  have hcompiles : (⟨o, skip, glob⟩ : Scanner).Compiles disk root := by
    rw [Scanner.compiles_iff, Scanner.ignored]
    split
    · next hrespect => exact hignore hrespect
    · simp [trimmed]
  have hscan := (scan_eq_ok_iff ⟨o, skip, glob⟩ disk root _).2 ⟨hcompiles, rfl⟩
  refine ⟨_, _, hscanner, hscan, scanned_isTree _ hwf hfolder hname, fun disk' hwf' hsame => ?_⟩
  rw [scan_eq_of_standsAt _ hwf hwf' hsame, hscan]

/-! ## A repository of a script and a note -/

/-- The entries of a repository. -/
def noteEntries : List (String × FileTree) :=
  [("src", .folder 40 [("m.py", .file "x = 1".toUTF8)]), ("note.txt", .file "".toUTF8),
    (".gitignore", .file "build".toUTF8)]

/-- A disk of one repository. -/
def diskWith (entries : List (String × FileTree)) : FileTree := .folder 40 [("r", .folder 40 entries)]

/-- The options that accept scripts. -/
def scriptOptions : Options := ⟨[".py"], ["dist"], true, 20, 1000⟩

theorem wellFormed_noteEntries : FileTree.WellFormed (.folder 40 noteEntries) := by
  have hsrc : FileTree.WellFormed (.folder 40 [("m.py", .file "x = 1".toUTF8)]) :=
    .folder (by decide) (by decide) (by simpa using .file _)
  exact .folder (by decide) (by decide) (by simpa [noteEntries] using ⟨hsrc, .file _, .file _⟩)

theorem wellFormed_diskWith {entries : List (String × FileTree)} (h : FileTree.WellFormed (.folder 40 entries)) :
    (diskWith entries).WellFormed :=
  .folder (by simpa using (by decide : IsName "r")) (by simp) (by simpa using h)

/-- A skip pattern that compiles. -/
theorem matcher_dist : ∃ m, Glob.matcher "dist" = .ok m := by
  have hglob : Glob.compile "dist" = .ok ⟨[[.literal "dist".toList]], false⟩ := by rfl
  exact ⟨_, (Glob.matcher_eq_ok_iff ..).2 ⟨_, hglob, rfl⟩⟩

theorem matcher_build : ∃ m, Glob.matcher "build" = .ok m := by
  have hglob : Glob.compile "build" = .ok ⟨[[.literal "build".toList]], false⟩ := by rfl
  exact ⟨_, (Glob.matcher_eq_ok_iff ..).2 ⟨_, hglob, rfl⟩⟩

theorem forall_scriptOptions_matcher : ∀ p ∈ trimmed scriptOptions.skipPatterns, ∃ m, Glob.matcher p = .ok m := by
  have htrimmed : trimmed scriptOptions.skipPatterns = ["dist"] := by decide +kernel
  rw [htrimmed]
  simpa using matcher_dist

/-- Listed the other way round, the folder, the script and the note come to the same tree. -/
theorem scan_noteEntries_isTree :
    (diskWith noteEntries).WellFormed ∧ (diskWith noteEntries).isFolderAt (absoluteSegments "/r") = true ∧
      ':' ∉ (basename (absolute "/r")).toList ∧
      (∀ p ∈ trimmed scriptOptions.skipPatterns, ∃ m, Glob.matcher p = .ok m) ∧
      (∀ p ∈ trimmed (readGitignore (diskWith noteEntries) (absolute "/r")), ∃ m, Glob.matcher p = .ok m) ∧
      ∃ s res, Scanner.ofOptions Glob.matcher scriptOptions = .ok s ∧ scan s (diskWith noteEntries) "/r" = .ok res ∧
        IsTree (diskWith noteEntries) "/r" res ∧ scan s (diskWith noteEntries.reverse) "/r" = .ok res := by
  have hwf := wellFormed_diskWith wellFormed_noteEntries
  have hreverse : FileTree.WellFormed (.folder 40 noteEntries.reverse) := by
    have hentry : ∀ e ∈ noteEntries.reverse, IsName e.1 ∧ e.2.WellFormed := fun e he =>
      wellFormed_noteEntries.entry (List.mem_reverse.1 he)
    exact .folder (fun e he => (hentry e he).1) (by decide) fun e he => (hentry e he).2
  have hsame (l : List String) : (diskWith noteEntries.reverse).standsAt l = (diskWith noteEntries).standsAt l := by
    cases l with
    | nil => rfl
    | cons name rest =>
        rw [diskWith, diskWith, FileTree.standsAt_folder_cons, FileTree.standsAt_folder_cons]
        cases hname : name == "r" with
        | true =>
            simp only [List.lookup_cons, hname, Option.bind_some]
            exact standsAt_folder_of_perm hreverse (List.reverse_perm _) rest
        | false => simp only [List.lookup_cons, hname, List.lookup_nil]
  have hroot : (diskWith noteEntries).isFolderAt (absoluteSegments "/r") = true := by decide +kernel
  have hname : ':' ∉ (basename (absolute "/r")).toList := by decide +kernel
  have hignore : ∀ p ∈ trimmed (readGitignore (diskWith noteEntries) (absolute "/r")),
      ∃ m, Glob.matcher p = .ok m := by
    have htrimmed : trimmed (readGitignore (diskWith noteEntries) (absolute "/r")) = ["build"] := by decide +kernel
    rw [htrimmed]
    simpa using matcher_build
  obtain ⟨s, res, hs, hscan, htree, hlisted⟩ :=
    scan_isTree Glob.matcher scriptOptions hwf hroot hname forall_scriptOptions_matcher fun _ => hignore
  exact ⟨hwf, hroot, hname, forall_scriptOptions_matcher, hignore, s, res, hs, hscan, htree,
    hlisted _ (wellFormed_diskWith hreverse) hsame⟩

/-! ## A line that is too long -/

/-- A line of letters is its own pattern. -/
theorem mem_trimmed_ignorePatterns {cs : List Char} (hne : cs ≠ []) (hletters : ∀ c ∈ cs, c = 'a') :
    String.ofList cs ∈ trimmed (ignorePatterns (String.ofList cs)) := by
  have hblank : ∀ c ∈ cs, Text.isBlank c = false := fun c hc => hletters c hc ▸ by decide
  have htrim : Text.trim (String.ofList cs) = String.ofList cs := by
    rw [Text.trim, String.toList_ofList, Text.stripList_of_forall hblank]
  have hempty : String.ofList cs ≠ "" := fun he => hne (by simpa using congrArg String.toList he)
  have hline : Text.linesOfEither (String.ofList cs) = [String.ofList cs] := by
    have hfeed : ∀ c ∈ cs, (c == '\n') = false := fun c hc => hletters c hc ▸ by decide
    simp [Text.linesOfEither, Text.splitList_of_forall hfeed]
  have hfirst : ∀ c, cs.head? = some c → c = 'a' := fun c hc => hletters c (List.mem_of_mem_head? hc)
  have hlast : ∀ c, cs.getLast? = some c → c = 'a' := fun c hc => hletters c (List.mem_of_getLast? hc)
  have hkept : String.ofList cs ∈ ignoreLines (String.ofList cs) := by
    have hmark (c : Char) {start : String} (hstart : start.toList = [c]) (hc : c ≠ 'a') :
        (String.ofList cs).startsWith start = false := by
      rw [← Bool.not_eq_true, Text.startsWith_iff_head? hstart, String.toList_ofList]
      exact fun h => hc (hfirst c h)
    have hhash := @hmark '#' "#" rfl (by decide)
    have hbang := @hmark '!' "!" rfl (by decide)
    simp [ignoreLines, hline, htrim, hempty, hhash, hbang]
  have hstrip : stripSlashes (String.ofList cs) = String.ofList cs := by
    have hhead : cs.head? ≠ some '/' := fun h => absurd (hfirst '/' h) (by decide)
    have hend : cs.getLast? ≠ some '/' := fun h => absurd (hlast '/' h) (by decide)
    simp [stripSlashes, hhead, hend]
  refine List.mem_filter.2 ⟨List.mem_map.2 ⟨String.ofList cs, ?_, htrim⟩, by simpa using hempty⟩
  exact (mem_ignorePatterns_iff ..).2 ⟨hempty, _, hkept, hstrip⟩

/-- The line of one letter more than a pattern may have. -/
def longLine : String := String.ofList (List.replicate (Glob.maxLength + 1) 'a')

/-- It does not compile. -/
theorem matcher_longLine : Glob.matcher longLine = .error .longPattern := by
  have hunits : (Glob.unitChars longLine).length = Glob.maxLength + 1 := by
    have hwidth : Text.width 'a' = 1 := by decide
    simp [Glob.unitChars, longLine, hwidth]
  have hcompile : Glob.compile longLine = .error .longPattern := by
    rw [Glob.compile, hunits]
    exact if_pos (Nat.lt_succ_self _)
  rw [Glob.matcher, hcompile]
  rfl

/-- A repository with a script and an ignore file of that line. -/
def longLineEntries : List (String × FileTree) :=
  [(".gitignore", .file longLine.toUTF8), ("m.py", .file "x = 1".toUTF8)]

/-- The ignore file is read as that line. -/
theorem longLine_mem_readGitignore :
    longLine ∈ trimmed (readGitignore (diskWith longLineEntries) (absolute "/r")) := by
  have hread : ignoreText (diskWith longLineEntries) (absolute "/r") = longLine := by
    have hat : (diskWith longLineEntries).fileAt? (absoluteSegments "/r" ++ [".gitignore"])
        = some longLine.toUTF8 := rfl
    have hbytes := (@Build.read_join _ "/r" [".gitignore"] (by decide) (by simp) _).2 hat
    have hpath : ".gitignore" = ofNames [".gitignore"] := rfl
    rw [ignoreText, congrArg (join (absolute "/r")) hpath, hbytes]
    exact Text.decodeLossy_toUTF8 longLine
  rw [readGitignore_eq, hread]
  exact mem_trimmed_ignorePatterns (by simp) fun c hc => List.eq_of_mem_replicate hc

/-- The folder is as it should be, and so are the options, but no scan of it gives a result. -/
theorem scan_longLine_fails :
    (diskWith longLineEntries).WellFormed ∧ (diskWith longLineEntries).isFolderAt (absoluteSegments "/r") = true ∧
      ':' ∉ (basename (absolute "/r")).toList ∧
      ∃ s, Scanner.ofOptions Glob.matcher scriptOptions = .ok s ∧
        ¬ ∃ res, scan s (diskWith longLineEntries) "/r" = .ok res := by
  have hwf : (diskWith longLineEntries).WellFormed :=
    wellFormed_diskWith (.folder (by decide) (by decide) (by simpa [longLineEntries] using ⟨.file _, .file _⟩))
  have hroot : (diskWith longLineEntries).isFolderAt (absoluteSegments "/r") = true := by rfl
  obtain ⟨skip, hskip⟩ := (exists_compileAll_iff Glob.matcher _).2 forall_scriptOptions_matcher
  have hscanner : Scanner.ofOptions Glob.matcher scriptOptions = .ok ⟨scriptOptions, skip, Glob.matcher⟩ := by
    rw [Scanner.ofOptions, hskip]
    rfl
  refine ⟨hwf, hroot, by decide +kernel, _, hscanner, ?_⟩
  rintro ⟨res, hres⟩
  -- a result takes a matcher for every pattern
  have hcompiles := ((scan_eq_ok_iff ..).1 hres).1
  rw [Scanner.compiles_iff] at hcompiles
  obtain ⟨m, hm⟩ := hcompiles longLine longLine_mem_readGitignore
  dsimp only at hm
  rw [matcher_longLine] at hm
  exact absurd hm (by simp)

end Scan

end CodeAtlas
