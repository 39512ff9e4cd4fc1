import CodeAtlas.Proofs.Build.Merge
import CodeAtlas.Proofs.Ids
import CodeAtlas.Proofs.Scan

set_option autoImplicit false

/-! # The inventory of a repository

What a graph should show of a repository does not depend on how the graph comes about: for every path,
whether a folder or a file of some size is taken up there, and what the file's parser makes of it. This is
the inventory of the tree, `Build.inventory`; `Inventory.located` and `Inventory.HasLink` are the entities
and the links that go with it. Every other statement about builds compares inventories.

An inventory is sound if the outputs in it keep the promise of parsers and if no two paths share an id, be it
of an entity or of a relationship. -/

namespace CodeAtlas

namespace Build

open CodeAtlas.Scan CodeAtlas.Path

/-! ## Inventories -/

/-- What stands at each path, and what the parsers make of the files. -/
structure Inventory where
  /-- A folder has no size. -/
  found? : String → Option (Option Nat)
  output? : String → Option ParseOutput

namespace Inventory

variable (root : String) (I : Inventory)

/-- The entities at a path. -/
def located (path : String) : List Entity :=
  match I.found? path with
  | none => []
  | some none => [directoryEntity root path]
  | some (some n) => (part (scannedFile root path n) (I.output? path)).entities

/-- The links of a repository: every folder and file but the root is contained in its folder, and every file
    has the relationships of its part. -/
def HasLink (r : Relationship) : Prop :=
  ∃ path size, I.found? path = some size ∧
    ((path ≠ "." ∧ r = Find.containment root ⟨path, size⟩) ∨
      ∃ n, size = some n ∧ r ∈ (part (scannedFile root path n) (I.output? path)).relationships)

/-- Does a graph have what the inventory lists, and besides it the relationships that are given as crossing? -/
abbrev ShownIn (g : Graph) (crossing : Relationship → Prop) : Prop :=
  Graph.Shows g (I.located root) (I.HasLink root) crossing

/-- The entities that a repository has at a path before they are merged: of the folder or the file itself,
    and of the file's output. -/
def Piece (path : String) (e : Entity) : Prop :=
  (∃ size, I.found? path = some size ∧ e = Find.entity root ⟨path, size⟩) ∨
    ∃ n o, I.found? path = some (some n) ∧ I.output? path = some o ∧ e ∈ o.entities

/-- The ids that relationships leaving the entities of a path can have: those of their ends and kinds, and
    those that the file's output gives. -/
def LinkId (path id : String) : Prop :=
  (∃ q a b, ∃ k : RelationKind, I.Piece root path a ∧ I.Piece root q b ∧
      id = relationshipId a.id k.name b.id) ∨
    ∃ n o, I.found? path = some (some n) ∧ I.output? path = some o ∧ ∃ r ∈ o.relationships, r.id = id

/-- The relationships that a file can have: containments between its pieces, and those that its output
    gives. -/
def OwnLink (path : String) (r : Relationship) : Prop :=
  (∃ a b, I.Piece root path a ∧ I.Piece root path b ∧ r = Scan.containment a.id b.id) ∨
    ∃ n o, I.found? path = some (some n) ∧ I.output? path = some o ∧ r ∈ o.relationships

/-- The outputs keep the promise of parsers, and the ids of different paths do not collide: neither those of
    entities nor those of relationships. -/
structure Sound : Prop where
  fits : ∀ path n o, I.found? path = some (some n) → I.output? path = some o → o.Fits path
  path_of_id : ∀ {p q a b}, I.Piece root p a → I.Piece root q b → a.id = b.id → p = q
  path_of_link : ∀ {p q id}, I.LinkId root p id → I.LinkId root q id → p = q

/-- Like soundness, but the outputs may hold folders. -/
structure Separate : Prop where
  liesIn : ∀ path n o, I.found? path = some (some n) → I.output? path = some o → o.LiesIn path
  path_of_id : ∀ {p q a b}, I.Piece root p a → I.Piece root q b → a.id = b.id → p = q
  path_of_link : ∀ {p q id}, I.LinkId root p id → I.LinkId root q id → p = q

variable {root : String} {I : Inventory}

theorem Sound.separate (h : I.Sound root) : I.Separate root :=
  ⟨fun path n o hn ho => (h.fits path n o hn ho).liesIn, h.path_of_id, h.path_of_link⟩

instance : Coe (I.Sound root) (I.Separate root) := ⟨Sound.separate⟩

/-- Of the part of a file, the ids are those of pieces. -/
theorem exists_piece_of_isOwn {path : String} {n : Nat} {o : ParseOutput} (hn : I.found? path = some (some n))
    (ho : I.output? path = some o) {id : String} (hid : IsOwn (scannedFile root path n) o id) :
    ∃ e, I.Piece root path e ∧ e.id = id := by
  rcases hid with rfl | ⟨e, he, rfl⟩
  · exact ⟨_, .inl ⟨_, hn, rfl⟩, rfl⟩
  · exact ⟨e, .inr ⟨n, o, hn, ho, he⟩, rfl⟩

theorem ownLink_of_isOwnLink {path : String} {n : Nat} {o : ParseOutput} (hn : I.found? path = some (some n))
    (ho : I.output? path = some o) {r : Relationship} (hr : IsOwnLink (scannedFile root path n) o r) :
    I.OwnLink root path r := by
  rcases hr with ⟨s, t, hs, ht, rfl⟩ | hr
  · obtain ⟨a, ha, rfl⟩ := exists_piece_of_isOwn hn ho hs
    obtain ⟨b, hb, rfl⟩ := exists_piece_of_isOwn hn ho ht
    exact .inl ⟨a, b, ha, hb, rfl⟩
  · exact .inr ⟨n, o, hn, ho, hr⟩

theorem OwnLink.linkId {path : String} {r : Relationship} (h : I.OwnLink root path r) : I.LinkId root path r.id := by
  rcases h with ⟨a, b, ha, hb, rfl⟩ | ⟨n, o, hn, ho, hr⟩
  · exact .inl ⟨path, a, b, .contains, ha, hb, rfl⟩
  · exact .inr ⟨n, o, hn, ho, r, hr, rfl⟩

/-- What the part of a file in the inventory is. -/
theorem isPart (h : I.Separate root) {path : String} {n : Nat} (hn : I.found? path = some (some n)) :
    IsPart (fun id => ∃ e, I.Piece root path e ∧ e.id = id) (I.OwnLink root path) (scannedFile root path n)
      (part (scannedFile root path n) (I.output? path)) := by
  cases ho : I.output? path with
  | none => exact IsPart.bare _ _ ⟨_, .inl ⟨_, hn, rfl⟩, rfl⟩ rfl
  | some o =>
      have hpart := isPart_part (scannedFile root path n) rfl (h.liesIn path n o hn ho)
      exact ⟨hpart.valid, fun e he => exists_piece_of_isOwn hn ho (hpart.own_id e he),
        fun r hr => ownLink_of_isOwnLink hn ho (hpart.own_link r hr), hpart.file_mem, hpart.path_eq⟩

/-- The ids of the entities at a path are those of pieces. -/
theorem exists_piece_of_mem (h : I.Separate root) {path : String} {e : Entity} (he : e ∈ I.located root path) :
    e.path = path ∧ ∃ e', I.Piece root path e' ∧ e'.id = e.id := by
  unfold located at he
  split at he
  · exact absurd he (by simp)
  · next hf =>
      rw [List.mem_singleton] at he
      subst he
      exact ⟨rfl, _, .inl ⟨none, hf, rfl⟩, rfl⟩
  · next n hf => exact ⟨(isPart h hf).path_eq e he, (isPart h hf).own_id e he⟩

/-- At different paths, ids differ. -/
theorem path_eq_of_id_eq (h : I.Separate root) {p q : String} {a b : Entity} (ha : a ∈ I.located root p)
    (hb : b ∈ I.located root q) (hid : a.id = b.id) : p = q := by
  obtain ⟨-, a', ha', haid⟩ := exists_piece_of_mem h ha
  obtain ⟨-, b', hb', hbid⟩ := exists_piece_of_mem h hb
  exact h.path_of_id ha' hb' (by rw [haid, hbid, hid])

/-- In a part, both ends of a relationship are entities of the part. -/
theorem ends_of_mem_part (h : I.Separate root) {path : String} {n : Nat} (hn : I.found? path = some (some n))
    {r : Relationship} (hr : r ∈ (part (scannedFile root path n) (I.output? path)).relationships) :
    (∃ e ∈ I.located root path, e.id = r.source) ∧ ∃ e ∈ I.located root path, e.id = r.target := by
  have hpart := isPart h hn
  simp only [located, hn]
  exact ⟨(hpart.valid.hasEntity_iff _).1 (hpart.valid.source_known r hr),
    (hpart.valid.hasEntity_iff _).1 (hpart.valid.target_known r hr)⟩

/-- An entity of the part of a file is that of the file, or one of its output up to the facts that are recorded. -/
theorem mem_part_cases {path : String} {n : Nat} {e : Entity}
    (he : e ∈ (part (scannedFile root path n) (I.output? path)).entities) :
    e = fileEntity path n ∨ ∃ o x m, I.output? path = some o ∧ x ∈ o.entities ∧ e = { x with metadata := m } := by
  cases ho : I.output? path with
  | none =>
      rw [ho, part] at he
      exact .inl (((Graph.mem_entities_insertEntity Graph.Valid.empty _ e).1 he).resolve_right (by simp))
  | some o =>
      rw [ho] at he
      rcases mem_part he with hfile | ⟨x, hx, m, hm⟩
      · exact .inl hfile
      · exact .inr ⟨o, x, m, rfl, hx, hm⟩

end Inventory

/-! ## The inventory of a tree -/

section

variable (registry : Registry) (scanner : Scanner) (disk : FileTree) (root : String)

/-- What a scan takes up at a path; the root is always taken up. -/
def found? (path : String) : Option (Option Nat) :=
  if path = "." then some none
  else ((findsOf scanner disk root).find? (·.path = path)).map (·.size)

/-- What is merged of the file at an absolute path: the output of its parser, if it has one and the output is
    without errors. -/
def output? (path : String) : Option ParseOutput :=
  match registry.parserFor path with
  | .ok (some _) =>
    match registry.parse disk path (some (absolute root)) with
    | .ok o => if o.errors = [] then some o else none
    | .error _ => none
  | _ => none

/-- The inventory of the tree below a root. -/
def inventory : Inventory where
  found? := found? scanner disk root
  output? path := output? registry disk root (join (absolute root) path)

end

/-! ## What is found where -/

section

variable {scanner : Scanner} {disk : FileTree} {root : String}

@[simp] theorem found?_root : found? scanner disk root "." = some none := rfl

/-- Are the folders on the way to a list of names, itself left out, walked into? -/
def WayIn (f : Filters) (m : List String) : Prop := ∀ q, q <+: m → q ≠ m → q ≠ [] → f.Enters q

theorem mem_findsOf_of_found? {path : String} (hp : path ≠ ".") (size : Option Nat)
    (h : found? scanner disk root path = some size) : ⟨path, size⟩ ∈ findsOf scanner disk root := by
  rw [found?, if_neg hp, Option.map_eq_some_iff] at h
  obtain ⟨x, hx, rfl⟩ := h
  have hpath : x.path = path := by simpa using List.find?_some hx
  rw [← hpath]
  exact List.mem_of_find?_eq_some hx

theorem path_ne_dot (hwf : disk.WellFormed) {x : Find} (hx : x ∈ findsOf scanner disk root) : x.path ≠ "." := by
  obtain ⟨m, u, hm, hu, -, -, rfl⟩ := (mem_findsOf_iff scanner hwf root x).1 hx
  have hnames := (hwf.at? hu).1.of_append_right
  rw [path_findOf, ne_eq, ofNames_eq_dot_iff hnames]
  exact hm

theorem found?_of_mem_findsOf (hwf : disk.WellFormed) {x : Find} (hx : x ∈ findsOf scanner disk root) :
    found? scanner disk root x.path = some x.size := by
  rw [found?, if_neg (path_ne_dot hwf hx), Option.map_eq_some_iff]
  have hsome : ((findsOf scanner disk root).find? (·.path = x.path)).isSome :=
    List.find?_isSome.2 ⟨x, hx, by simp⟩
  obtain ⟨y, hy⟩ := Option.isSome_iff_exists.1 hsome
  have hpath : y.path = x.path := by simpa using List.find?_some hy
  refine ⟨y, hy, congrArg Find.size ?_⟩
  exact List.inj_on_of_nodup_map (nodup_findsOf scanner hwf root) (List.mem_of_find?_eq_some hy) hx hpath

/-- What is found is found at names. -/
theorem names_of_found? (hwf : disk.WellFormed) {path : String} {size : Option Nat}
    (h : found? scanner disk root path = some size) : ∃ m, AllNames m ∧ path = ofNames m := by
  by_cases hp : path = "."
  · exact ⟨[], .nil, hp⟩
  · obtain ⟨m, u, -, hu, -, -, hx⟩ := (mem_findsOf_iff scanner hwf root _).1 (mem_findsOf_of_found? hp size h)
    refine ⟨m, (hwf.at? hu).1.of_append_right, ?_⟩
    rw [← path_findOf m u, ← hx]

/-- The root is no file. -/
theorem ne_dot_of_found? {path : String} {n : Nat} (h : found? scanner disk root path = some (some n)) :
    path ≠ "." := by
  rintro rfl
  exact absurd h (by simp)

/-- A file is found at one name at least. -/
theorem names_of_found?_file (hwf : disk.WellFormed) {path : String} {n : Nat}
    (h : found? scanner disk root path = some (some n)) : ∃ m, m ≠ [] ∧ AllNames m ∧ path = ofNames m := by
  obtain ⟨m, hm, hpath⟩ := names_of_found? hwf h
  refine ⟨m, fun hnil => ne_dot_of_found? h ?_, hm, hpath⟩
  rw [hpath, hnil, ofNames_nil]

/-- The finds at names, by what stands there. -/
theorem found?_names (hwf : disk.WellFormed) {m : List String} (hm : m ≠ []) (hnames : AllNames m)
    (size : Option Nat) : found? scanner disk root (ofNames m) = some size ↔
      ∃ u, disk.at? (absoluteSegments root ++ m) = some u ∧
        (scanner.filtersIn disk root).TakesUp m u ∧ WayIn (scanner.filtersIn disk root) m ∧
          size = (findOf m u).size := by
  have hp : ofNames m ≠ "." := fun he => hm ((ofNames_eq_dot_iff hnames).1 he)
  constructor
  · intro h
    obtain ⟨m', u, -, hu, htake, hway, hx⟩ :=
      (mem_findsOf_iff scanner hwf root _).1 (mem_findsOf_of_found? hp size h)
    have hm' : m = m' := by
      refine ofNames_inj hnames (hwf.at? hu).1.of_append_right ?_
      rw [← path_findOf m' u, ← hx]
    subst hm'
    exact ⟨u, hu, htake, hway, by rw [← hx]⟩
  · rintro ⟨u, hu, htake, hway, rfl⟩
    have hx := found?_of_mem_findsOf hwf ((mem_findsOf_iff scanner hwf root _).2 ⟨m, u, hm, hu, htake, hway, rfl⟩)
    rwa [path_findOf] at hx

/-- A file is found where an accepted file stands. -/
theorem found?_file_iff (hwf : disk.WellFormed) {m : List String} (hm : m ≠ []) (hnames : AllNames m) (n : Nat) :
    found? scanner disk root (ofNames m) = some (some n) ↔
      (∃ bytes, disk.fileAt? (absoluteSegments root ++ m) = some bytes ∧ bytes.size = n) ∧
        (scanner.filtersIn disk root).Accepts m n ∧ WayIn (scanner.filtersIn disk root) m := by
  rw [found?_names hwf hm hnames]
  constructor
  · rintro ⟨u, hu, htake, hway, hsize⟩
    cases u with
    | folder size entries => exact absurd hsize (by simp [findOf])
    | file bytes =>
        obtain rfl : n = bytes.size := by simpa [findOf] using hsize
        exact ⟨⟨bytes, (FileTree.fileAt?_eq_some_iff ..).2 hu, rfl⟩, htake, hway⟩
  · rintro ⟨⟨bytes, hb, rfl⟩, haccepts, hway⟩
    exact ⟨.file bytes, (FileTree.fileAt?_eq_some_iff ..).1 hb, haccepts, hway, rfl⟩

/-- A folder is found where one stands that is walked into. -/
theorem found?_folder_iff (hwf : disk.WellFormed) {m : List String} (hm : m ≠ []) (hnames : AllNames m) :
    found? scanner disk root (ofNames m) = some none ↔
      disk.isFolderAt (absoluteSegments root ++ m) = true ∧
        (scanner.filtersIn disk root).Enters m ∧ WayIn (scanner.filtersIn disk root) m := by
  rw [found?_names hwf hm hnames, FileTree.isFolderAt_iff]
  constructor
  · rintro ⟨u, hu, htake, hway, hsize⟩
    cases u with
    | file bytes => exact absurd hsize (by simp [findOf])
    | folder size entries => exact ⟨⟨size, entries, hu⟩, htake, hway⟩
  · rintro ⟨⟨size, entries, hu⟩, henter, hway⟩
    exact ⟨.folder size entries, hu, henter, hway, rfl⟩

/-- Above what is found, folders are found. -/
theorem found?_above (hwf : disk.WellFormed) {m l : List String} (hnames : AllNames m) (hl : l <+: m) (hne : l ≠ m)
    {size : Option Nat} (h : found? scanner disk root (ofNames m) = some size) :
    found? scanner disk root (ofNames l) = some none := by
  by_cases hnil : l = []
  · rw [hnil, ofNames_nil, found?_root]
  · have hm : m ≠ [] := by
      rintro rfl
      exact hnil (List.prefix_nil.1 hl)
    obtain ⟨u, hu, -, hway, -⟩ := (found?_names hwf hm hnames size).1 h
    obtain ⟨rest, rfl⟩ := hl
    have hrest : rest ≠ [] := fun he => hne (by rw [he, List.append_nil])
    refine (found?_folder_iff hwf hnil hnames.of_append_left).2 ⟨?_, ?_, fun q hq hqne hqnil => ?_⟩
    · rw [← List.append_assoc] at hu
      exact FileTree.isFolderAt_of_append hrest (by rw [hu]; rfl)
    · exact hway l (List.prefix_append ..) hne hnil
    · refine hway q (hq.trans (List.prefix_append ..)) ?_ hqnil
      rintro rfl
      have := hq.length_le
      simp only [List.length_append] at this
      exact hrest (List.length_eq_zero_iff.1 (by omega))

end

/-! ## Checking soundness -/

section

variable (registry : Registry) (scanner : Scanner) (disk : FileTree) (root : String)

/-- The outputs of a tree, each with the path of its file. -/
def outputs : List (String × ParseOutput) :=
  (findsOf scanner disk root).filterMap fun x =>
    x.size.bind fun _ => (output? registry disk root (join (absolute root) x.path)).map (x.path, ·)

/-- The pieces of a tree, each with its path. -/
def pieces : List (String × Entity) :=
  (".", directoryEntity (absolute root) ".") ::
    ((findsOf scanner disk root).map fun x => (x.path, x.entity (absolute root))) ++
      (outputs registry scanner disk root).flatMap fun x => x.2.entities.map (x.1, ·)

/-- What can be checked of a tree: the outputs keep the promise of parsers and identify relationships by their
    ends and kinds, the ids of entities tell their paths, and no id has a blank, so that the id of a
    relationship begins with that of its source. -/
def Plain : Prop :=
  (∀ x ∈ outputs registry scanner disk root, (∀ e ∈ x.2.entities, e.path = x.1 ∧ e.kind ≠ .directory) ∧
    ∀ r ∈ x.2.relationships, (∃ e ∈ x.2.entities, e.id = r.source) ∧ (∃ e ∈ x.2.entities, e.id = r.target) ∧
      r.id = relationshipId r.source r.kind.name r.target) ∧
  (∀ x ∈ pieces registry scanner disk root, ∀ y ∈ pieces registry scanner disk root,
    x.2.id = y.2.id → x.1 = y.1) ∧
  ∀ x ∈ pieces registry scanner disk root, ' ' ∉ x.2.id.toList

instance : Decidable (Plain registry scanner disk root) := inferInstanceAs (Decidable (_ ∧ _ ∧ _))

end

variable {registry : Registry} {scanner : Scanner} {disk : FileTree} {root : String}

theorem mem_outputs {path : String} {n : Nat} {o : ParseOutput} (hn : found? scanner disk root path = some (some n))
    (ho : output? registry disk root (join (absolute root) path) = some o) :
    (path, o) ∈ outputs registry scanner disk root := by
  refine List.mem_filterMap.2 ⟨⟨path, some n⟩, mem_findsOf_of_found? (ne_dot_of_found? hn) _ hn, ?_⟩
  simp [ho]

theorem mem_pieces {path : String} {e : Entity}
    (h : (inventory registry scanner disk root).Piece (absolute root) path e) :
    (path, e) ∈ pieces registry scanner disk root := by
  rw [pieces, List.mem_append, List.mem_cons, List.mem_map, List.mem_flatMap]
  rcases h with ⟨size, hfound, rfl⟩ | ⟨n, o, hn, ho, he⟩
  · by_cases hp : path = "."
    · subst hp
      obtain rfl : none = size := Option.some.inj hfound
      exact .inl (.inl rfl)
    · exact .inl (.inr ⟨⟨path, size⟩, mem_findsOf_of_found? hp _ hfound, rfl⟩)
  · exact .inr ⟨(path, o), mem_outputs hn ho, List.mem_map.2 ⟨e, he, rfl⟩⟩

/-- The inventory of a tree that passes the check is sound. -/
theorem sound_of_plain (h : Plain registry scanner disk root) :
    (inventory registry scanner disk root).Sound (absolute root) := by
  obtain ⟨houtputs, hids, hblanks⟩ := h
  have hlink : ∀ {p id}, (inventory registry scanner disk root).LinkId (absolute root) p id →
      ∃ a b, ∃ k : RelationKind, (inventory registry scanner disk root).Piece (absolute root) p a ∧
        id = relationshipId a.id k.name b := by
    rintro p id (⟨q, a, b, k, ha, -, hid⟩ | ⟨n, o, hn, ho, r, hr, rfl⟩)
    · exact ⟨a, b.id, k, ha, hid⟩
    · obtain ⟨⟨e, he, hes⟩, -, hid⟩ := (houtputs _ (mem_outputs hn ho)).2 r hr
      exact ⟨e, r.target, r.kind, .inr ⟨n, o, hn, ho, he⟩, by rw [hid, hes]⟩
  refine ⟨fun path n o hn ho => ?_, fun ha hb hid => hids _ (mem_pieces ha) _ (mem_pieces hb) hid,
    fun hp hq => ?_⟩
  · obtain ⟨hents, hrels⟩ := houtputs _ (mem_outputs hn ho)
    exact ⟨fun e he => (hents e he).1, fun e he => (hents e he).2, fun r hr => (hrels r hr).1,
      fun r hr => (hrels r hr).2.1⟩
  · obtain ⟨a, s, k, ha, rfl⟩ := hlink hp
    obtain ⟨b, t, k', hb, hid⟩ := hlink hq
    exact hids _ (mem_pieces ha) _ (mem_pieces hb)
      (source_of_blankless (hblanks _ (mem_pieces ha)) (hblanks _ (mem_pieces hb)) hid)

end Build

end CodeAtlas
