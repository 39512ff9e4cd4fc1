import CodeAtlas.Proofs.FileTree

set_option autoImplicit false

/-! # What a scan finds

A walk takes up folders and files one by one; the entities, the containments and the files of its result
are three readings of that one list of finds. `Scan.findsAt` is the list, `walkEntry_reads` says that the
result of a walk is read off it, and `mem_findsOf_iff` says which folders and files are on it: those that
stand in the repository and that the filters let through, with every folder above them. No path is found
twice. -/

namespace CodeAtlas.Scan

open CodeAtlas.Path

/-! ## Finds -/

/-- The accepted file at a path, with its size. -/
def scannedFile (root path : String) (n : Nat) : ScannedFile :=
  ⟨join root path, path, n, (fileEntity path n).id⟩

/-- A folder or a file that a scan takes up. -/
structure Find where
  path : String
  /-- The size of a file; a folder has none. -/
  size : Option Nat
deriving DecidableEq

namespace Find

/-- The entity of a find. -/
def entity (root : String) (x : Find) : Entity :=
  match x.size with
  | none => directoryEntity root x.path
  | some n => fileEntity x.path n

/-- The containment of a find in its folder. -/
def containment (root : String) (x : Find) : Relationship :=
  Scan.containment (directoryEntity root (dirname x.path)).id (x.entity root).id

/-- The accepted file that a find is, if it is one. -/
def file? (root : String) (x : Find) : Option ScannedFile :=
  x.size.map (scannedFile root x.path)

@[simp] theorem path_entity (root : String) (x : Find) : (x.entity root).path = x.path := by
  obtain ⟨p, _ | n⟩ := x <;> rfl

end Find

/-- The finds of named entries, in the order of the names. -/
def findsInNameOrder (l : List (String × List Find)) : List Find :=
  ((l.mergeSort fun a b => Text.atMost a.1 b.1).map (·.2)).flatten

theorem findsInNameOrder_of_sorted {l : List (String × List Find)}
    (h : l.Pairwise fun a b => Text.atMost a.1 b.1 = true) : findsInNameOrder l = (l.map (·.2)).flatten := by
  rw [findsInNameOrder, List.mergeSort_of_pairwise h]

mutual

/-- What a walk takes up at an entry of a folder and below it. -/
def findsAt (f : Filters) (path : String) : FileTree → List Find
  | .file bytes =>
    match f.refuses? path with
    | some _ => []
    | none =>
      match f.checkFile path (some bytes.size) with
      | .error _ => []
      | .ok size => [⟨path, some size⟩]
  | .folder _ entries =>
    match f.refuses? path with
    | some _ => []
    | none => if f.maxDepth < depthOf path then [] else ⟨path, none⟩ :: findsInNameOrder (findsIn f path entries)

/-- What a walk takes up at each entry of a folder. -/
def findsIn (f : Filters) (dir : String) : List (String × FileTree) → List (String × List Find)
  | [] => []
  | (name, t) :: rest => (name, findsAt f (childPath dir name) t) :: findsIn f dir rest

end

theorem findsIn_eq_map (f : Filters) (dir : String) (entries : List (String × FileTree)) :
    findsIn f dir entries = entries.map fun e => (e.1, findsAt f (childPath dir e.1) e.2) := by
  induction entries with
  | nil => rfl
  | cons e rest ih => rw [findsIn, ih]; rfl

theorem walkEntries_eq_map (f : Filters) (root : String) (parent : Entity) (dir : String)
    (entries : List (String × FileTree)) :
    walkEntries f root parent dir entries
      = entries.map fun e => (e.1, walkEntry f root parent (childPath dir e.1) e.2) := by
  induction entries with
  | nil => rfl
  | cons e rest ih => rw [walkEntries, ih]; rfl

/-! ## A result as a reading of its finds -/

/-- The entities, containments and files of a result are read off a list of finds. -/
structure Reads (root : String) (finds : List Find) (res : ScanResult) : Prop where
  entities : res.entities = finds.map (Find.entity root)
  relationships : res.relationships = finds.map (Find.containment root)
  files : res.files = finds.filterMap (Find.file? root)

namespace Reads

variable {root : String}

theorem nothing (r : SkipReason) : Reads root [] (.skip r) := ⟨rfl, rfl, rfl⟩

theorem append {l m : List Find} {a b : ScanResult} (ha : Reads root l a) (hb : Reads root m b) :
    Reads root (l ++ m) (a.append b) where
  entities := by rw [ScanResult.append, ha.entities, hb.entities, List.map_append]
  relationships := by rw [ScanResult.append, ha.relationships, hb.relationships, List.map_append]
  files := by rw [ScanResult.append, ha.files, hb.files, List.filterMap_append]

/-- Results one after another read the lists one after another. -/
theorem foldl (l : List (String × List Find × ScanResult)) (h : ∀ e ∈ l, Reads root e.2.1 e.2.2) :
    ∀ {m : List Find} {res : ScanResult}, Reads root m res →
      Reads root (m ++ (l.map (·.2.1)).flatten) ((l.map (·.2.2)).foldl ScanResult.append res) := by
  induction l with
  | nil => intro m res hm; simpa using hm
  | cons e rest ih =>
      intro m res hm
      have hrest := ih (fun e he => h e (List.mem_cons_of_mem _ he))
        (hm.append (h e (List.mem_cons_self ..)))
      simpa using hrest

/-- Sorting by name does not look at what stands beside the name. -/
theorem mergeSort_map_name {α β : Type} (l : List (String × α)) (g : α → β) :
    (l.map fun e => (e.1, g e.2)).mergeSort (fun a b => Text.atMost a.1 b.1)
      = (l.mergeSort fun a b => Text.atMost a.1 b.1).map fun e => (e.1, g e.2) :=
  (List.map_mergeSort (f := fun e : String × α => (e.1, g e.2)) fun _ _ _ _ => rfl).symm

/-- Put in the order of names, entries keep what they read. -/
theorem inNameOrder (l : List (String × List Find × ScanResult)) (h : ∀ e ∈ l, Reads root e.2.1 e.2.2) :
    Reads root (findsInNameOrder (l.map fun e => (e.1, e.2.1)))
      (Scan.inNameOrder (l.map fun e => (e.1, e.2.2))) := by
  have hempty : Reads root [] .empty := ⟨rfl, rfl, rfl⟩
  have hsorted := foldl (l.mergeSort fun a b => Text.atMost a.1 b.1)
    (fun e he => h e (List.mem_mergeSort.1 he)) hempty
  rw [findsInNameOrder, Scan.inNameOrder, mergeSort_map_name l (·.1), mergeSort_map_name l (·.2)]
  simpa [Function.comp_def] using hsorted

end Reads

/-- The results of a folder's entries read their finds if each of them does. -/
theorem walkEntries_reads {f : Filters} {root : String} {dir : List String}
    (entries : List (String × FileTree)) (hd : AllNames dir)
    (h : ∀ e ∈ entries, Reads root (findsAt f (ofNames (dir ++ [e.1])) e.2)
      (walkEntry f root (directoryEntity root (ofNames dir)) (ofNames (dir ++ [e.1])) e.2)) :
    Reads root (findsInNameOrder (findsIn f (ofNames dir) entries))
      (Scan.inNameOrder (walkEntries f root (directoryEntity root (ofNames dir)) (ofNames dir) entries)) := by
  have hall := @Reads.inNameOrder root
    (entries.map fun e => (e.1, findsAt f (ofNames (dir ++ [e.1])) e.2,
      walkEntry f root (directoryEntity root (ofNames dir)) (ofNames (dir ++ [e.1])) e.2)) (by
    intro e' he'
    obtain ⟨e, he, rfl⟩ := List.mem_map.1 he'
    exact h e he)
  rw [findsIn_eq_map, walkEntries_eq_map]
  simpa only [childPath_ofNames hd, List.map_map, Function.comp_def] using hall

/-- **A walk is read off its finds.** -/
theorem walkEntry_reads (f : Filters) (root : String) (t : FileTree) :
    t.WellFormed → ∀ {dir : List String} {name : String}, AllNames dir → IsName name →
      Reads root (findsAt f (ofNames (dir ++ [name])) t)
        (walkEntry f root (directoryEntity root (ofNames dir)) (ofNames (dir ++ [name])) t) := by
  induction t using FileTree.induction with
  | file bytes =>
      intro _ dir name hd hn
      cases hr : f.refuses? (ofNames (dir ++ [name])) with
      | some r => simpa only [findsAt, walkEntry, hr] using Reads.nothing r
      | none =>
          cases hc : f.checkFile (ofNames (dir ++ [name])) (some bytes.size) with
          | error r => simpa only [findsAt, walkEntry, hr, hc] using Reads.nothing r
          | ok size =>
              simp only [findsAt, walkEntry, hr, hc]
              exact ⟨rfl, by simp [foundFile, Find.containment, Find.entity, dirname_ofNames hd hn], rfl⟩
  | folder size entries ih =>
      intro hwf dir name hd hn
      cases hr : f.refuses? (ofNames (dir ++ [name])) with
      | some r => simpa only [findsAt, walkEntry, hr] using Reads.nothing r
      | none =>
          by_cases hdeep : f.maxDepth < depthOf (ofNames (dir ++ [name]))
          · simpa only [findsAt, walkEntry, hr, if_pos hdeep] using Reads.nothing .depth
          · simp only [findsAt, walkEntry, hr, if_neg hdeep]
            have hself : Reads root [⟨ofNames (dir ++ [name]), none⟩]
                { ScanResult.empty with
                  entities := [directoryEntity root (ofNames (dir ++ [name]))]
                  relationships := [containment (directoryEntity root (ofNames dir)).id
                    (directoryEntity root (ofNames (dir ++ [name]))).id] } :=
              ⟨rfl, by simp [Find.containment, Find.entity, dirname_ofNames hd hn], rfl⟩
            have hall : AllNames (dir ++ [name]) := hd.append (.singleton hn)
            exact hself.append (walkEntries_reads entries hall fun e he =>
              ih e he (hwf.entry he).2 hall (hwf.entry he).1)

/-! ## Which entries are found -/

/-- Is the folder that names lead to walked into? -/
def Filters.Enters (f : Filters) (m : List String) : Prop :=
  f.refuses? (ofNames m) = none ∧ m.length ≤ f.maxDepth

/-- Do the filters accept the file that names lead to? -/
def Filters.Accepts (f : Filters) (m : List String) (size : Nat) : Prop :=
  f.refuses? (ofNames m) = none ∧ f.checkFile (ofNames m) (some size) = .ok size

/-- Is the entry that names lead to taken up, once its folder is walked into? -/
def Filters.TakesUp (f : Filters) (m : List String) : FileTree → Prop
  | .file bytes => f.Accepts m bytes.size
  | .folder _ _ => f.Enters m

/-- The find that the entry at a list of names makes. -/
def findOf (m : List String) : FileTree → Find
  | .file bytes => ⟨ofNames m, some bytes.size⟩
  | .folder _ _ => ⟨ofNames m, none⟩

@[simp] theorem path_findOf (m : List String) (u : FileTree) : (findOf m u).path = ofNames m := by
  cases u <;> rfl

theorem checkFile_eq_ok {f : Filters} {p : String} {n k : Nat} (h : f.checkFile p (some n) = .ok k) : k = n := by
  unfold Filters.checkFile at h
  split at h
  · simp only at h
    split at h
    · exact absurd h (by simp)
    · exact (Except.ok.inj h).symm
  · exact absurd h (by simp)

theorem mem_findsInNameOrder (l : List (String × List Find)) (x : Find) :
    x ∈ findsInNameOrder l ↔ ∃ e ∈ l, x ∈ e.2 := by
  rw [findsInNameOrder, List.mem_flatten]
  constructor
  · rintro ⟨finds, hfinds, hx⟩
    obtain ⟨e, he, rfl⟩ := List.mem_map.1 hfinds
    exact ⟨e, List.mem_mergeSort.1 he, hx⟩
  · rintro ⟨e, he, hx⟩
    exact ⟨e.2, List.mem_map.2 ⟨e, List.mem_mergeSort.2 he, rfl⟩, hx⟩

theorem mem_findsIn_iff (f : Filters) {dir : List String} (hd : AllNames dir)
    (entries : List (String × FileTree)) (x : Find) :
    x ∈ findsInNameOrder (findsIn f (ofNames dir) entries)
      ↔ ∃ e ∈ entries, x ∈ findsAt f (ofNames (dir ++ [e.1])) e.2 := by
  rw [mem_findsInNameOrder, findsIn_eq_map]
  simp [childPath_ofNames hd]

/-- A file is found where it is taken up. -/
theorem mem_findsAt_file_iff (f : Filters) (bytes : ByteArray) (l : List String) (x : Find) :
    x ∈ findsAt f (ofNames l) (.file bytes) ↔ f.TakesUp l (.file bytes) ∧ x = findOf l (.file bytes) := by
  cases hr : f.refuses? (ofNames l) with
  | some r => simp [findsAt, hr, Filters.TakesUp, Filters.Accepts]
  | none =>
      cases hc : f.checkFile (ofNames l) (some bytes.size) with
      | error r => simp [findsAt, hr, hc, Filters.TakesUp, Filters.Accepts]
      | ok size =>
          obtain rfl := checkFile_eq_ok hc
          simp [findsAt, hr, hc, Filters.TakesUp, Filters.Accepts, findOf]

/-- A folder that is walked into is found, and what its entries hold. -/
theorem mem_findsAt_folder_iff (f : Filters) (size : Nat) (entries : List (String × FileTree)) {l : List String}
    (hl : AllNames l) (x : Find) :
    x ∈ findsAt f (ofNames l) (.folder size entries) ↔ f.Enters l ∧
      (x = findOf l (.folder size entries) ∨ ∃ e ∈ entries, x ∈ findsAt f (ofNames (l ++ [e.1])) e.2) := by
  cases hr : f.refuses? (ofNames l) with
  | some r => simp [findsAt, hr, Filters.Enters]
  | none =>
      by_cases hdeep : f.maxDepth < l.length
      · simp [findsAt, hr, depthOf_ofNames hl, hdeep, Filters.Enters, Nat.not_le.2 hdeep]
      · simp [findsAt, hr, depthOf_ofNames hl, hdeep, Filters.Enters, Nat.not_lt.1 hdeep, mem_findsIn_iff f hl, findOf]

/-- The way to what lies below an entry begins where the entry lies. -/
theorem forall_way_cons_iff {P : List String → Prop} (s : String) (rel : List String) :
    (∀ q, q <+: s :: rel → q ≠ s :: rel → P q) ↔ P [] ∧ ∀ q, q <+: rel → q ≠ rel → P (s :: q) := by
  constructor
  · intro h
    refine ⟨h [] (by simp) (by simp), fun q hq hne => ?_⟩
    exact h (s :: q) (List.cons_prefix_cons.2 ⟨rfl, hq⟩) (by simpa using hne)
  · rintro ⟨hnil, hcons⟩ q hq hne
    cases q with
    | nil => exact hnil
    | cons s' q =>
        obtain ⟨rfl, hrest⟩ := List.cons_prefix_cons.1 hq
        exact hcons q hrest fun he => hne (by rw [he])

/-- An entry is found at or below a place exactly if it is taken up, and every folder on the way walked
    into. -/
theorem mem_findsAt_iff (f : Filters) (t : FileTree) :
    t.WellFormed → ∀ {l : List String}, AllNames l → ∀ x, x ∈ findsAt f (ofNames l) t ↔
      ∃ rel u, t.at? rel = some u ∧ f.TakesUp (l ++ rel) u ∧
        (∀ q, q <+: rel → q ≠ rel → f.Enters (l ++ q)) ∧ x = findOf (l ++ rel) u := by
  induction t using FileTree.induction with
  | file bytes =>
      intro _ l _ x
      rw [mem_findsAt_file_iff]
      constructor
      · rintro ⟨htake, rfl⟩
        exact ⟨[], .file bytes, by simp, by simpa using htake, by simp, by simp⟩
      · rintro ⟨rel, u, hu, htake, -, rfl⟩
        cases rel with
        | cons s rest => simp at hu
        | nil =>
            simp only [FileTree.at?_nil, Option.some.injEq] at hu
            subst hu
            rw [List.append_nil] at htake ⊢
            exact ⟨htake, rfl⟩
  | folder size entries ih =>
      intro hwf l hl x
      -- the names of an entry are its folder's and its own, and the hypothesis is about what lies below them
      have hentry : ∀ s v, (s, v) ∈ entries → (x ∈ findsAt f (ofNames (l ++ [s])) v ↔ ∃ rel u, v.at? rel = some u ∧
          f.TakesUp (l ++ s :: rel) u ∧ (∀ q, q <+: rel → q ≠ rel → f.Enters (l ++ s :: q)) ∧
          x = findOf (l ++ s :: rel) u) := by
        intro s v he
        have hnames := hwf.entry he
        have hbelow := ih (s, v) he hnames.2 (hl.append (.singleton hnames.1)) x
        simpa only [List.append_assoc, List.singleton_append] using hbelow
      rw [mem_findsAt_folder_iff f size entries hl]
      constructor
      · rintro ⟨henter, rfl | ⟨⟨s, v⟩, he, hx⟩⟩
        · exact ⟨[], .folder size entries, by simp, by simpa [Filters.TakesUp] using henter, by simp, by simp⟩
        · obtain ⟨rel, u, hu, htake, hway, rfl⟩ := (hentry s v he).1 hx
          refine ⟨s :: rel, u, (hwf.at?_cons_iff s rel u).2 ⟨v, he, hu⟩, htake, ?_, rfl⟩
          rw [@forall_way_cons_iff (fun q => f.Enters (l ++ q)) s rel, List.append_nil]
          exact ⟨henter, hway⟩
      · rintro ⟨rel, u, hu, htake, hway, rfl⟩
        cases rel with
        | nil =>
            simp only [FileTree.at?_nil, Option.some.injEq] at hu
            subst hu
            rw [List.append_nil] at htake ⊢
            exact ⟨htake, .inl rfl⟩
        | cons s rel =>
            obtain ⟨v, he, hu⟩ := (hwf.at?_cons_iff s rel u).1 hu
            rw [@forall_way_cons_iff (fun q => f.Enters (l ++ q)) s rel, List.append_nil] at hway
            exact ⟨hway.1, .inr ⟨(s, v), he, (hentry s v he).2 ⟨rel, u, hu, htake, hway.2, rfl⟩⟩⟩

/-! ## No path is found twice -/

/-- Below two entries of one folder, different paths are found. -/
theorem ne_path_of_ne_name {f : Filters} {dir : List String} {a b : String} {t u : FileTree}
    (hd : AllNames dir) (ha : IsName a) (hb : IsName b) (hab : a ≠ b) (ht : t.WellFormed) (hu : u.WellFormed)
    {x y : Find} (hx : x ∈ findsAt f (ofNames (dir ++ [a])) t) (hy : y ∈ findsAt f (ofNames (dir ++ [b])) u) :
    x.path ≠ y.path := by
  have hda : AllNames (dir ++ [a]) := hd.append (.singleton ha)
  have hdb : AllNames (dir ++ [b]) := hd.append (.singleton hb)
  obtain ⟨rel, v, hv, -, -, rfl⟩ := (mem_findsAt_iff f t ht hda x).1 hx
  obtain ⟨rel', w, hw, -, -, rfl⟩ := (mem_findsAt_iff f u hu hdb y).1 hy
  intro he
  rw [path_findOf, path_findOf] at he
  have hnames := ofNames_inj (hda.append (ht.at? hv).1) (hdb.append (hu.at? hw).1) he
  simp only [List.append_assoc, List.append_cancel_left_eq, List.singleton_append, List.cons.injEq] at hnames
  exact hab hnames.1

theorem nodup_findsIn {f : Filters} {dir : List String} (hd : AllNames dir)
    {size : Nat} {entries : List (String × FileTree)} (hwf : (FileTree.folder size entries).WellFormed)
    (h : ∀ e ∈ entries, ((findsAt f (ofNames (dir ++ [e.1])) e.2).map Find.path).Nodup) :
    ((findsInNameOrder (findsIn f (ofNames dir) entries)).map Find.path).Nodup := by
  have hperm : (findsInNameOrder (findsIn f (ofNames dir) entries)).Perm
      (entries.flatMap fun e => findsAt f (ofNames (dir ++ [e.1])) e.2) := by
    rw [findsInNameOrder, findsIn_eq_map]
    refine (((List.mergeSort_perm _ _).map _).flatten).trans (List.Perm.of_eq ?_)
    simp [List.flatMap, Function.comp_def, childPath_ofNames hd]
  rw [(hperm.map Find.path).nodup_iff, List.map_flatMap, List.nodup_flatMap]
  refine ⟨h, ?_⟩
  have hpair : entries.Pairwise fun a b => a.1 ≠ b.1 := by
    simpa [List.pairwise_map] using List.nodup_iff_pairwise_ne.1 hwf.nodup_names
  refine hpair.imp_of_mem fun {a b} ha hb hab => ?_
  refine List.disjoint_left.2 fun p hp hp' => ?_
  obtain ⟨x, hx, rfl⟩ := List.mem_map.1 hp
  obtain ⟨y, hy, he⟩ := List.mem_map.1 hp'
  have ha' := hwf.entry ha
  have hb' := hwf.entry hb
  exact ne_path_of_ne_name hd ha'.1 hb'.1 hab ha'.2 hb'.2 hx hy he.symm

theorem nodup_findsAt (f : Filters) (t : FileTree) :
    t.WellFormed → ∀ {l : List String}, AllNames l → ((findsAt f (ofNames l) t).map Find.path).Nodup := by
  induction t using FileTree.induction with
  | file bytes =>
      intro _ l _
      unfold findsAt
      split
      · exact List.nodup_nil
      · split
        · exact List.nodup_nil
        · exact List.nodup_singleton _
  | folder size entries ih =>
      intro hwf l hl
      have hinside := nodup_findsIn (f := f) hl hwf fun e he =>
        ih e he (hwf.entry he).2 (hl.append (.singleton (hwf.entry he).1))
      unfold findsAt
      split
      · exact List.nodup_nil
      · split
        · exact List.nodup_nil
        · rw [List.map_cons, List.nodup_cons]
          refine ⟨fun hmem => ?_, hinside⟩
          obtain ⟨x, hx, hpath⟩ := List.mem_map.1 hmem
          obtain ⟨e, he, hx⟩ := (mem_findsIn_iff f hl entries x).1 hx
          have hentry := hwf.entry he
          have hl' : AllNames (l ++ [e.1]) := hl.append (AllNames.singleton hentry.1)
          obtain ⟨rel, u, hu, -, -, rfl⟩ := (mem_findsAt_iff f e.2 hentry.2 hl' x).1 hx
          rw [path_findOf] at hpath
          have := congrArg List.length (ofNames_inj (hl'.append (hentry.2.at? hu).1) hl hpath)
          simp at this

/-! ## Whole scans -/

/-- The patterns of a list compile if each of them does. -/
theorem exists_compileAll_iff (glob : String → Except Fault Matcher) (patterns : List String) :
    (∃ ms, compileAll glob patterns = .ok ms) ↔ ∀ p ∈ trimmed patterns, ∃ m, glob p = .ok m := by
  unfold compileAll
  induction trimmed patterns with
  | nil => simp [pure, Except.pure]
  | cons p rest ih =>
      rw [List.forall_mem_cons, ← ih, List.mapM_cons]
      cases hp : glob p with
      | error f => simp [bind, Except.bind]
      | ok m => cases hrest : rest.mapM glob <;> simp [bind, Except.bind, pure, Except.pure]

/-- Every matcher is that of a pattern. -/
theorem exists_of_mem_compileAll {glob : String → Except Fault Matcher} {patterns : List String} {ms : List Matcher}
    (h : compileAll glob patterns = .ok ms) {m : Matcher} (hm : m ∈ ms) : ∃ p ∈ trimmed patterns, glob p = .ok m := by
  unfold compileAll at h
  generalize trimmed patterns = l at h ⊢
  induction l generalizing ms with
  | nil =>
      obtain rfl : [] = ms := by simpa [pure, Except.pure] using h
      simp at hm
  | cons p rest ih =>
      rw [List.mapM_cons] at h
      cases hp : glob p with
      | error f => simp [hp, bind, Except.bind] at h
      | ok first =>
          cases hrest : rest.mapM glob with
          | error f => simp [hp, hrest, bind, Except.bind] at h
          | ok others =>
              obtain rfl : first :: others = ms := by simpa [hp, hrest, bind, Except.bind, pure, Except.pure] using h
              rcases List.mem_cons.1 hm with rfl | hm
              · exact ⟨p, List.mem_cons_self, hp⟩
              · obtain ⟨q, hq, hqm⟩ := ih hm hrest
                exact ⟨q, List.mem_cons_of_mem _ hq, hqm⟩

namespace Scanner

/-- Do the patterns of the ignore file in a root compile? -/
def Compiles (s : Scanner) (disk : FileTree) (root : String) : Prop :=
  ∃ f, s.filters disk (absolute root) = .ok f

/-- The filters in a root; where the ignore file does not compile, those of the scanner alone. -/
def filtersIn (s : Scanner) (disk : FileTree) (root : String) : Filters :=
  (s.filters disk (absolute root)).toOption.getD (s.filtersWith [])

/-- What a scan with these filters finds. -/
def scanned (s : Scanner) (disk : FileTree) (root : String) : ScanResult :=
  walk (s.filtersIn disk root) disk (absolute root)

end Scanner

theorem Scanner.Compiles.filters_eq {s : Scanner} {disk : FileTree} {root : String} (h : s.Compiles disk root) :
    s.filters disk (absolute root) = .ok (s.filtersIn disk root) := by
  obtain ⟨f, hf⟩ := h
  rw [Scanner.filtersIn, hf]
  rfl

theorem Scanner.compiles_iff (s : Scanner) (disk : FileTree) (root : String) :
    s.Compiles disk root ↔ ∀ p ∈ trimmed (s.ignored disk (absolute root)), ∃ m, s.glob p = .ok m := by
  rw [← exists_compileAll_iff, Scanner.Compiles, Scanner.filters]
  cases compileAll s.glob (s.ignored disk (absolute root)) <;> simp [Except.map]

/-- A scan gives its finds exactly if the ignore file compiles. -/
theorem scan_eq_ok_iff (s : Scanner) (disk : FileTree) (root : String) (res : ScanResult) :
    scan s disk root = .ok res ↔ s.Compiles disk root ∧ res = s.scanned disk root := by
  constructor
  · intro h
    cases hf : s.filters disk (absolute root) with
    | error fault => simp [scan, hf, Except.map] at h
    | ok f =>
        have hcompiles : s.Compiles disk root := ⟨f, hf⟩
        simp only [scan, hcompiles.filters_eq, Except.map, Except.ok.injEq] at h
        exact ⟨hcompiles, h.symm⟩
  · rintro ⟨hcompiles, rfl⟩
    simp only [scan, hcompiles.filters_eq, Except.map]
    rfl

/-- What a scan of a root finds below it. -/
def findsOf (s : Scanner) (disk : FileTree) (root : String) : List Find :=
  match disk.at? (absoluteSegments root) with
  | some (.folder _ entries) => findsInNameOrder (findsIn (s.filtersIn disk root) "." entries)
  | _ => []

/-- What is inside a root: the results of its entries, if it is a folder. -/
def insideOf (f : Filters) (disk : FileTree) (root : String) : ScanResult :=
  match disk.list root with
  | .ok entries => Scan.inNameOrder (walkEntries f root (directoryEntity root ".") "." entries)
  | .error _ => .skip .unreadable

theorem walk_eq (f : Filters) (disk : FileTree) (root : String) :
    walk f disk root
      = ScanResult.append { ScanResult.empty with entities := [directoryEntity root "."] } (insideOf f disk root) := by
  cases h : disk.list root <;> simp only [walk, insideOf, h]

/-- What is inside a root is read off the finds below it. -/
theorem insideOf_reads (s : Scanner) {disk : FileTree} (hwf : disk.WellFormed) (root : String) :
    Reads (absolute root) (findsOf s disk root) (insideOf (s.filtersIn disk root) disk (absolute root)) := by
  unfold insideOf findsOf
  rw [FileTree.list, FileTree.find_eq, absoluteSegments_absolute, FileTree.at?]
  cases h : disk.lookup (absoluteSegments root) with
  | missing => exact Reads.nothing .unreadable
  | belowFile => exact Reads.nothing .unreadable
  | node t =>
      cases t with
      | file bytes => exact Reads.nothing .unreadable
      | folder size entries =>
          have hat : disk.at? (absoluteSegments root) = some (.folder size entries) := by rw [FileTree.at?, h]
          have hinside := (hwf.at? hat).2
          exact walkEntries_reads entries (by simp [AllNames]) fun e he =>
            walkEntry_reads _ _ e.2 (hinside.entry he).2 .nil (hinside.entry he).1

/-- **A scan is read off its finds,** after the entity of the root. -/
theorem scanned_reads (s : Scanner) {disk : FileTree} (hwf : disk.WellFormed) (root : String) :
    (s.scanned disk root).entities
        = directoryEntity (absolute root) "." :: (findsOf s disk root).map (Find.entity (absolute root)) ∧
      (s.scanned disk root).relationships = (findsOf s disk root).map (Find.containment (absolute root)) ∧
      (s.scanned disk root).files = (findsOf s disk root).filterMap (Find.file? (absolute root)) := by
  obtain ⟨hents, hrels, hfiles⟩ := insideOf_reads s hwf root
  rw [Scanner.scanned, walk_eq]
  exact ⟨by rw [ScanResult.append, hents]; rfl, by rw [ScanResult.append, hrels]; rfl,
    by rw [ScanResult.append, hfiles]; rfl⟩

/-- **What is found** is what stands in the repository, is taken up, and lies in folders that are all walked
    into. -/
theorem mem_findsOf_iff (s : Scanner) {disk : FileTree} (hwf : disk.WellFormed) (root : String) (x : Find) :
    x ∈ findsOf s disk root ↔ ∃ m u, m ≠ [] ∧ disk.at? (absoluteSegments root ++ m) = some u ∧
      (s.filtersIn disk root).TakesUp m u ∧
      (∀ q, q <+: m → q ≠ m → q ≠ [] → (s.filtersIn disk root).Enters q) ∧ x = findOf m u := by
  unfold findsOf
  generalize s.filtersIn disk root = f
  split
  · next size entries hat =>
      have hinside := (hwf.at? hat).2
      rw [← ofNames_nil, mem_findsIn_iff f .nil entries x]
      have hentry : ∀ n v, (n, v) ∈ entries → (x ∈ findsAt f (ofNames [n]) v ↔ ∃ rel u, v.at? rel = some u ∧
          f.TakesUp (n :: rel) u ∧ (∀ q, q <+: rel → q ≠ rel → f.Enters (n :: q)) ∧ x = findOf (n :: rel) u) := by
        intro n v he
        have hnames := hinside.entry he
        exact mem_findsAt_iff f v hnames.2 (.singleton hnames.1) x
      constructor
      · rintro ⟨⟨n, v⟩, he, hx⟩
        obtain ⟨rel, u, hu, htake, hway, rfl⟩ := (hentry n v he).1 hx
        refine ⟨n :: rel, u, by simp, ?_, htake, ?_, rfl⟩
        · rw [FileTree.at?_append, hat, Option.bind_some, hinside.at?_cons_iff]
          exact ⟨v, he, hu⟩
        · rw [@forall_way_cons_iff (fun q => q ≠ [] → f.Enters q)]
          exact ⟨fun hnil => absurd rfl hnil, fun q hq hne _ => hway q hq hne⟩
      · rintro ⟨m, u, hm, hu, htake, hway, rfl⟩
        cases m with
        | nil => exact absurd rfl hm
        | cons n rel =>
            rw [FileTree.at?_append, hat, Option.bind_some, hinside.at?_cons_iff] at hu
            obtain ⟨v, he, hu⟩ := hu
            rw [@forall_way_cons_iff (fun q => q ≠ [] → f.Enters q)] at hway
            exact ⟨(n, v), he, (hentry n v he).2
              ⟨rel, u, hu, htake, fun q hq hne => hway.2 q hq hne (by simp), rfl⟩⟩
  · next hno =>
      constructor
      · exact fun hx => absurd hx (by simp)
      · rintro ⟨m, u, hm, hu, -⟩
        obtain ⟨size, entries, hat⟩ := (FileTree.isFolderAt_iff disk _).1
          (FileTree.isFolderAt_of_append hm (by rw [hu]; rfl))
        exact absurd hat (hno size entries)

theorem scan_absolute (s : Scanner) (disk : FileTree) (root : String) :
    scan s disk (absolute root) = scan s disk root := by
  rw [scan, absolute_absolute]; rfl

theorem inspect_absolute (s : Scanner) (disk : FileTree) (root path : String) :
    inspect s disk (absolute root) path = inspect s disk root path := by
  rw [inspect, absolute_absolute]; rfl

theorem nodup_findsOf (s : Scanner) {disk : FileTree} (hwf : disk.WellFormed) (root : String) :
    ((findsOf s disk root).map Find.path).Nodup := by
  unfold findsOf
  split
  · next size entries hat =>
      have hinside := (hwf.at? hat).2
      exact nodup_findsIn .nil hinside fun e he =>
        nodup_findsAt _ e.2 (hinside.entry he).2 (.singleton (hinside.entry he).1)
  · exact List.nodup_nil

end CodeAtlas.Scan
