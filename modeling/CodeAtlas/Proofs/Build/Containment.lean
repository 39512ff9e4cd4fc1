import CodeAtlas.Proofs.Build.Placement
import CodeAtlas.Proofs.Build.RefreshRun

set_option autoImplicit false

/-! # The containment tree of a repository

The folders and files of a repository form a tree of containments, and what is parsed in a file hangs below
the file or not at all. So the graph of a build is a tree exactly if the part of every file is one below its
file (`containmentTree_iff_nested`), that is, if everything in every file can be placed. -/

namespace CodeAtlas

namespace Build

open CodeAtlas.Scan CodeAtlas.Path CodeAtlas.Graph

section

variable {root : String} {I : Inventory} {g : Graph} {crossing : Relationship → Prop} {path : String}

/-- A containment that enters an entity of a path is that of the find there, or lies in the part of the file. -/
theorem enters_iff (hsound : I.Separate root) (hg : I.ShownIn root g crossing) {size : Option Nat}
    (hfound : I.found? path = some size) {id : String} (hid : ∃ e, I.Piece root path e ∧ e.id = id)
    (r : Relationship) : g.Enters r id ↔
      (path ≠ "." ∧ r = Find.containment root ⟨path, size⟩ ∧ (Find.entity root ⟨path, size⟩).id = id) ∨
        ∃ n, size = some n ∧ (part (scannedFile root path n) (I.output? path)).Enters r id := by
  obtain ⟨e, he, rfl⟩ := hid
  constructor
  · rintro ⟨hmem, hkind, htarget⟩
    -- whatever ends at the entity ends at its path
    have hpath : ∀ q b, I.Piece root q b → b.id = r.target → q = path := fun q b hb hid =>
      hsound.path_of_id hb he (hid.trans htarget)
    rcases (hg.mem_relationships_iff r).1 hmem with ⟨q, size', hq, hlink⟩ | hc
    · rcases hlink with ⟨hdot, hr⟩ | ⟨n, rfl, hr⟩
      · obtain rfl := hpath q _ (.inl ⟨size', hq, rfl⟩) (by rw [hr]; rfl)
        obtain rfl : size = size' := Option.some.inj (hfound.symm.trans hq)
        exact .inl ⟨hdot, hr, by rw [← htarget, hr]; rfl⟩
      · obtain ⟨b, hb, hbt⟩ := (Inventory.ends_of_mem_part hsound hq hr).2
        obtain ⟨-, b', hb', hid⟩ := Inventory.exists_piece_of_mem hsound hb
        obtain rfl := hpath q b' hb' (hid.trans hbt)
        exact .inr ⟨n, Option.some.inj (hfound.symm.trans hq), hr, hkind, htarget⟩
    · exact absurd hkind (hg.crosses r hc).kind_ne
  · rintro (⟨hdot, rfl, hid⟩ | ⟨n, rfl, hr⟩)
    · exact ⟨(hg.mem_relationships_iff _).2 (.inl ⟨path, size, hfound, .inl ⟨hdot, rfl⟩⟩), rfl, hid⟩
    · exact ⟨(hg.mem_relationships_iff _).2 (.inl ⟨path, some n, hfound, .inr ⟨n, rfl, hr.mem⟩⟩), hr.kind_eq,
        hr.target_eq⟩

theorem Inventory.located_file {n : Nat} (hn : I.found? path = some (some n)) :
    I.located root path = (part (scannedFile root path n) (I.output? path)).entities := by
  simp only [Inventory.located, hn]

/-- What is contained in the part of a file is contained in the whole. -/
theorem heldBy_of_part (hg : I.ShownIn root g crossing) {n : Nat} (hn : I.found? path = some (some n))
    {child parent : String} (h : (part (scannedFile root path n) (I.output? path)).HeldBy child parent) :
    g.HeldBy child parent := by
  obtain ⟨r, ⟨hr, hkind, htarget⟩, hsource⟩ := h
  exact ⟨r, ⟨(hg.mem_relationships_iff r).2 (.inl ⟨path, some n, hn, .inr ⟨n, rfl, hr⟩⟩), hkind, htarget⟩, hsource⟩

/-- An entity of the part of a file is entered in the whole as it is in the part, unless it is the file. -/
theorem enters_iff_part (hsound : I.Sound root) (hg : I.ShownIn root g crossing) {n : Nat}
    (hn : I.found? path = some (some n)) {e : Entity} (he : e ∈ I.located root path)
    (hne : e.id ≠ (fileEntity path n).id) (r : Relationship) :
    g.Enters r e.id ↔ (part (scannedFile root path n) (I.output? path)).Enters r e.id := by
  rw [enters_iff hsound hg hn (Inventory.exists_piece_of_mem hsound he).2]
  constructor
  · rintro (⟨-, -, hid⟩ | ⟨n', hn', hr⟩)
    · exact absurd hid.symm hne
    · obtain rfl := Option.some.inj hn'
      exact hr
  · exact fun hr => .inr ⟨n, rfl, hr⟩

/-- On its way up to the root, an entity of a file passes the file, and up to there the way lies in the part
    of the file. -/
theorem climbs_part (hsound : I.Sound root) (hg : I.ShownIn root g crossing) (hroot : I.found? "." = some none) {n : Nat}
    (hn : I.found? path = some (some n)) {id : String} (h : g.Climbs id (directoryEntity root ".").id)
    (he : ∃ e ∈ I.located root path, e.id = id) :
    (part (scannedFile root path n) (I.output? path)).Climbs id (fileEntity path n).id := by
  induction h using Relation.ReflTransGen.head_induction_on with
  | refl =>
      -- the root lies in no file
      obtain ⟨e, he, hid⟩ := he
      obtain ⟨-, e', he', hid'⟩ := Inventory.exists_piece_of_mem hsound he
      have hpath := hsound.path_of_id he' (.inl ⟨none, hroot, rfl⟩) (hid'.trans hid)
      rw [hpath, hroot] at hn
      exact absurd hn (by simp)
  | head hstep _ ih =>
      obtain ⟨e, he, rfl⟩ := he
      by_cases hfile : e.id = (fileEntity path n).id
      · rw [hfile]
      · obtain ⟨r, hr, hsource⟩ := hstep
        have hr' := (enters_iff_part hsound hg hn he hfile r).1 hr
        obtain ⟨a, ha, has⟩ := (Inventory.ends_of_mem_part hsound hn hr'.mem).1
        exact .head ⟨r, hr', hsource⟩ (ih ⟨a, ha, has.trans hsource⟩)

/-- Of a tree of containments, the part of every file is one below the file. -/
theorem nested_of_containmentTree (hsound : I.Sound root) (hclosed : I.Closed) (hg : I.ShownIn root g crossing)
    (hroot : I.found? "." = some none) (htree : ContainmentTree g (directoryEntity root ".").id) {n : Nat}
    (hn : I.found? path = some (some n)) :
    Nested (part (scannedFile root path n) (I.output? path)) (fileEntity path n).id := by
  have hpart := Inventory.isPart hsound.separate hn
  have hdot : path ≠ "." := fun hp => by
    rw [hp, hroot] at hn
    exact absurd hn (by simp)
  have hone : ∀ e ∈ I.located root path, ∃! r, g.Enters r e.id := fun e he => by
    have hne : e.id ≠ (directoryEntity root ".").id := fun hid => by
      obtain ⟨-, e', he', hid'⟩ := Inventory.exists_piece_of_mem hsound he
      exact hdot (hsound.path_of_id he' (.inl ⟨none, hroot, rfl⟩) (hid'.trans hid))
    exact (length_containers_eq_one_iff hg.valid _).1 (htree.one_container e (hg.mem_of_mem_at he) hne)
  refine ⟨⟨fun e he hne => ?_, fun e he => ?_⟩, fun r hr => ?_⟩
  · rw [← Inventory.located_file hn] at he
    rw [length_containers_eq_one_iff hpart.valid]
    exact (existsUnique_congr fun r => enters_iff_part hsound hg hn he hne r).1 (hone e he)
  · rw [← Inventory.located_file hn] at he
    exact climbs_part hsound hg hroot hn (htree.climbs e (hg.mem_of_mem_at he)) ⟨e, he, rfl⟩
  · -- the file is contained in its folder already, which lies outside the part
    obtain ⟨e, he, hid⟩ := (hpart.valid.hasEntity_iff _).1 hpart.file_mem
    have hid' : (fileEntity path n).id = e.id := hid.symm
    rw [← Inventory.located_file hn] at he
    rw [hid'] at hr
    have henters := enters_iff hsound hg hn (Inventory.exists_piece_of_mem hsound he).2
    have hsame := (hone e he).unique ((henters r).2 (.inr ⟨n, rfl, hr⟩))
      ((henters _).2 (.inl ⟨hdot, rfl, hid'⟩))
    obtain ⟨a, ha, has⟩ := (Inventory.ends_of_mem_part hsound hn hr.mem).1
    obtain ⟨-, a', ha', haid⟩ := Inventory.exists_piece_of_mem hsound ha
    have hup := hclosed path (some n) hdot hn
    have hpath := hsound.path_of_id ha' (.inl ⟨none, hup, rfl⟩) (by rw [haid, has, hsame]; rfl)
    rw [hpath, hup] at hn
    exact absurd hn (by simp)

/-- Something is found at the path of every entity, and where that is a folder the entity is the folder's. -/
theorem found?_of_mem_entities (hg : I.ShownIn root g crossing) {e : Entity} (he : e ∈ g.entities) :
    ∃ size, I.found? e.path = some size ∧ e ∈ I.located root e.path ∧
      (size = none → e = Find.entity root ⟨e.path, none⟩) := by
  have hat := (hg.mem_entities_iff e).1 he
  cases hfound : I.found? e.path with
  | none => simp [Inventory.located, hfound] at hat
  | some size =>
      refine ⟨size, rfl, hat, ?_⟩
      rintro rfl
      simp only [Inventory.located, hfound, List.mem_singleton] at hat
      exact hat

/-- A graph is a tree of containments if the part of every file is one below the file, and the way up from
    every folder and file leads to the root. -/
theorem containmentTree_of_nested (hsound : I.Sound root) (hg : I.ShownIn root g crossing)
    (hroot : I.found? "." = some none)
    (hclimbs : ∀ path size, I.found? path = some size →
      g.Climbs (Find.entity root ⟨path, size⟩).id (directoryEntity root ".").id)
    (hnested : ∀ path n, I.found? path = some (some n) →
      Nested (part (scannedFile root path n) (I.output? path)) (fileEntity path n).id) :
    ContainmentTree g (directoryEntity root ".").id := by
  refine ⟨fun e he hne => ?_, fun e he => ?_⟩
  · obtain ⟨size, hfound, hat, hfolder⟩ := found?_of_mem_entities hg he
    rw [length_containers_eq_one_iff hg.valid]
    by_cases hid : (Find.entity root ⟨e.path, size⟩).id = e.id
    · -- a folder or a file is in its folder, and nothing in the part of a file enters the file
      have hdot : e.path ≠ "." := fun hp => by
        rw [hp, hroot] at hfound
        rw [hp, ← Option.some.inj hfound] at hid
        exact hne hid.symm
      have henters := enters_iff hsound hg hfound (Inventory.exists_piece_of_mem hsound hat).2
      refine ⟨_, (henters _).2 (.inl ⟨hdot, rfl, hid⟩), fun r hr => ?_⟩
      rcases (henters r).1 hr with ⟨-, hr, -⟩ | ⟨n, rfl, hr⟩
      · exact hr
      · rw [← hid] at hr
        exact absurd hr ((hnested e.path n hfound).not_enters r)
    · cases size with
      | none => exact absurd (congrArg Entity.id (hfolder rfl)).symm hid
      | some n =>
          have hpart := Inventory.isPart hsound.separate hfound
          have hmem := hat
          rw [Inventory.located_file hfound] at hmem
          have hone := (hnested e.path n hfound).tree.one_container e hmem (Ne.symm hid)
          rw [length_containers_eq_one_iff hpart.valid] at hone
          exact (existsUnique_congr fun r => enters_iff_part hsound hg hfound hat (Ne.symm hid) r).2 hone
  · obtain ⟨size, hfound, hat, hfolder⟩ := found?_of_mem_entities hg he
    cases size with
    | none =>
        have hup := hclimbs e.path none hfound
        rwa [← hfolder rfl] at hup
    | some n =>
        rw [Inventory.located_file hfound] at hat
        have hup := (hnested e.path n hfound).tree.climbs e hat
        have hup' : g.Climbs e.id (fileEntity e.path n).id :=
          Relation.ReflTransGen.mono (fun _ _ hheld => heldBy_of_part hg hfound hheld) _ _ hup
        exact hup'.trans (hclimbs e.path _ hfound)

end

variable {registry : Registry} {scanner : Scanner} {disk : FileTree} {root : String} {g : Graph}
  {crossing : Relationship → Prop}

/-- The way up from a folder or a file leads to the root. -/
theorem climbs_find (hwf : disk.WellFormed)
    (hg : (inventory registry scanner disk root).ShownIn (absolute root) g crossing) (m : List String) :
    ∀ {size : Option Nat}, AllNames m → found? scanner disk root (ofNames m) = some size →
      g.Climbs (Find.entity (absolute root) ⟨ofNames m, size⟩).id (directoryEntity (absolute root) ".").id := by
  induction m using List.reverseRecOn with
  | nil =>
      intro size _ hfound
      obtain rfl : none = size := Option.some.inj hfound
      exact .refl
  | append_singleton dir name ih =>
      intro size hnames hfound
      have hdot : ofNames (dir ++ [name]) ≠ "." := fun he => by
        simpa using (ofNames_eq_dot_iff hnames).1 he
      have hup := ih hnames.of_append_left (found?_above hwf hnames (List.prefix_append ..) (by simp) hfound)
      refine .head ⟨Find.containment (absolute root) ⟨ofNames (dir ++ [name]), size⟩,
        ⟨(hg.mem_relationships_iff _).2 (.inl ⟨_, size, hfound, .inl ⟨hdot, rfl⟩⟩), rfl, rfl⟩, ?_⟩ hup
      simp only [Find.containment, containment, Relationship.create]
      rw [dirname_ofNames hnames.of_append_left (hnames.of_append_right _ (List.mem_singleton_self _))]
      rfl

/-- What a graph shows of a repository is a tree of containments exactly if the part of every file is one below
    the file. -/
theorem containmentTree_iff_nested (h : Readable registry scanner root disk)
    (hg : (inventory registry scanner disk root).ShownIn (absolute root) g crossing) :
    ContainmentTree g (directoryEntity (absolute root) ".").id ↔
      ∀ path n, found? scanner disk root path = some (some n) →
        Nested (part (scannedFile (absolute root) path n) (output? registry disk root (join (absolute root) path)))
          (fileEntity path n).id := by
  constructor
  · exact fun htree path n hn => nested_of_containmentTree h.sound (closed_inventory h.wf) hg rfl htree hn
  · refine containmentTree_of_nested h.sound hg rfl fun path size hfound => ?_
    obtain ⟨m, hm, rfl⟩ := names_of_found? h.wf hfound
    exact climbs_find h.wf hg m hm hfound

/-- **When the containments of a build form a tree.** They do exactly if what is parsed in each file hangs below
    the file, and, where parsers leave containments to the build, exactly if in every output each entity can
    be placed when its turn comes. -/
theorem build_containmentTree_iff (h : Readable registry scanner root disk)
    (hdistinct : ∀ path n o, found? scanner disk root path = some (some n) →
      output? registry disk root (join (absolute root) path) = some o → (o.entities.map Entity.id).Nodup)
    {res : BuildResult} (hres : build registry scanner disk root = .ok res) :
    (ContainmentTree res.graph (directoryEntity (absolute root) ".").id ↔
      ∀ path n, found? scanner disk root path = some (some n) →
        Nested (part (scannedFile (absolute root) path n) (output? registry disk root (join (absolute root) path)))
          (fileEntity path n).id) ∧
    ((∀ path n o, found? scanner disk root path = some (some n) →
        output? registry disk root (join (absolute root) path) = some o → ∀ r ∈ o.relationships, r.kind ≠ .contains) →
      (ContainmentTree res.graph (directoryEntity (absolute root) ".").id ↔
        ∀ path n o, found? scanner disk root path = some (some n) →
          output? registry disk root (join (absolute root) path) = some o →
          Placeable (scannedFile (absolute root) path n) o)) := by
  have hiff := containmentTree_iff_nested h (shows_build h.wf h.sound hres)
  refine ⟨hiff, fun hplain => hiff.trans ⟨fun hnested path n o hn ho => ?_, fun hplaced path n hn => ?_⟩⟩
  · have hone := hnested path n hn
    rw [ho] at hone
    exact (nested_iff rfl (h.sound.fits path n o hn ho) (hplain path n o hn ho) (hdistinct path n o hn ho)).1 hone
  · cases ho : output? registry disk root (join (absolute root) path) with
    | none => exact nested_bare rfl
    | some o =>
        exact (nested_iff rfl (h.sound.fits path n o hn ho) (hplain path n o hn ho) (hdistinct path n o hn ho)).2
          (hplaced path n o hn ho)

/-! ## A method that is listed before its class -/

/-- The class of a file. -/
def nodeClass : Entity :=
  Entity.create { kind := .classDecl, path := "m.x", name := "Node", startLine := 1, endLine := 4 }

/-- A method that belongs to the class. -/
def walkMethod : Entity :=
  Entity.create { kind := .methodDecl, path := "m.x", name := "walk", startLine := 2, endLine := 3
                  metadata := [("parentClass", .text "Node")] }

/-- A language whose files hold the method and the class, in this order. -/
def methodFirstFiles : Reader where
  language := "methods"
  extensions := [".x"]
  kinds := [.classDecl, .methodDecl]
  extract _ := .ok { entities := [walkMethod, nodeClass], relationships := [] }

/-- What is parsed in one of its files. -/
def methodFirstEntities : List Entity :=
  [Reader.fileEntity "methods" ⟨"/r/m.x", "m.x", ""⟩ ⟨[], [], [], none⟩, walkMethod, nodeClass]

/-- The registry of that language. -/
def methodFirstRegistry : Registry := Registry.empty.register "methods" methodFirstFiles.toParser

/-- A disk with one of its files. -/
def methodFirstDisk : FileTree := diskOf [("m.x", .file "".toUTF8)]

theorem methodFirstRegistry_ofReaders : methodFirstRegistry.OfReaders := Registry.OfReaders.empty.register _ _

/-- What is parsed, and that it passes the check. -/
theorem methodFirstDisk_scanned :
    Plain methodFirstRegistry (scannerFor ".x") methodFirstDisk "/r" ∧
      found? (scannerFor ".x") methodFirstDisk "/r" "m.x" = some (some 0) ∧
      (output? methodFirstRegistry methodFirstDisk "/r" (join (absolute "/r") "m.x")).isSome = true ∧
      ∀ x ∈ outputs methodFirstRegistry (scannerFor ".x") methodFirstDisk "/r",
        x.2.entities = methodFirstEntities ∧ x.2.relationships = [] := by
  decide +kernel

theorem readable_methodFirstDisk : Readable methodFirstRegistry (scannerFor ".x") "/r" methodFirstDisk where
  wf := wellFormed_diskOf (.folder (by decide) (by decide) (by simpa using .file _))
  sound := sound_of_plain methodFirstDisk_scanned.1

/-- The method cannot be placed, because its class comes after it. -/
theorem methodFirst_not_placeable {o : ParseOutput} (h : o.entities = methodFirstEntities) :
    ¬ Placeable (scannedFile (absolute "/r") "m.x" 0) o := by
  intro hplaced
  have hholder : holder (scannedFile (absolute "/r") "m.x" 0) o walkMethod = nodeClass.id := by
    rw [holder, classesOf, h]
    decide +kernel
  have hparent := hplaced.parents_first (methodFirstEntities.take 1) walkMethod [nodeClass] h (by decide +kernel)
  rw [hholder] at hparent
  revert hparent
  decide +kernel

/-- The method is listed before its class, and the graph of the build is no tree. -/
theorem methodFirst_build_containmentTree_iff : Readable methodFirstRegistry (scannerFor ".x") "/r" methodFirstDisk ∧
    (∀ path n o, found? (scannerFor ".x") methodFirstDisk "/r" path = some (some n) →
      output? methodFirstRegistry methodFirstDisk "/r" (join (absolute "/r") path) = some o →
      (o.entities.map Entity.id).Nodup) ∧
    ∃ res, build methodFirstRegistry (scannerFor ".x") methodFirstDisk "/r" = .ok res ∧
      (ContainmentTree res.graph (directoryEntity (absolute "/r") ".").id ↔
        ∀ path n o, found? (scannerFor ".x") methodFirstDisk "/r" path = some (some n) →
          output? methodFirstRegistry methodFirstDisk "/r" (join (absolute "/r") path) = some o →
          Placeable (scannedFile (absolute "/r") path n) o) ∧
      ¬ ContainmentTree res.graph (directoryEntity (absolute "/r") ".").id := by
  have hout : ∀ path n o, found? (scannerFor ".x") methodFirstDisk "/r" path = some (some n) →
      output? methodFirstRegistry methodFirstDisk "/r" (join (absolute "/r") path) = some o →
      o.entities = methodFirstEntities ∧ o.relationships = [] := fun path n o hn ho =>
    methodFirstDisk_scanned.2.2.2 _ (mem_outputs hn ho)
  have hdistinct : ∀ path n o, found? (scannerFor ".x") methodFirstDisk "/r" path = some (some n) →
      output? methodFirstRegistry methodFirstDisk "/r" (join (absolute "/r") path) = some o →
      (o.entities.map Entity.id).Nodup := fun path n o hn ho => by
    rw [(hout path n o hn ho).1]
    decide +kernel
  have hcompiles : (scannerFor ".x").Compiles methodFirstDisk "/r" := compiles_of_unasked rfl methodFirstDisk
  obtain ⟨res, hres⟩ := (build_isOk_iff readable_methodFirstDisk.wf).2
    ⟨hcompiles, parsesAt_of_readers methodFirstRegistry_ofReaders methodFirstDisk⟩
  have hiff := (build_containmentTree_iff readable_methodFirstDisk hdistinct hres).2
    fun path n o hn ho r hr => absurd hr (by simp [(hout path n o hn ho).2])
  refine ⟨readable_methodFirstDisk, hdistinct, res, hres, hiff, fun htree => ?_⟩
  obtain ⟨-, hn, hsome, -⟩ := methodFirstDisk_scanned
  obtain ⟨o, ho⟩ := Option.isSome_iff_exists.1 hsome
  exact methodFirst_not_placeable (hout _ _ o hn ho).1 (hiff.1 htree "m.x" 0 o hn ho)

end Build

end CodeAtlas
