import CodeAtlas.Proofs.Build.Attach
import CodeAtlas.Proofs.Build.Change
import CodeAtlas.Proofs.Build.Whole

set_option autoImplicit false

/-! # A refresh shows the inventory of the changed tree

Refreshing one file copies the graph, drops the file, attaches it again if the filters accept it, parses it
and connects the graph. Each step changes what the graph shows by what the change of the file changes in the
inventory, so the graph after it shows the inventory of the changed tree: `shows_refresh`. -/

namespace CodeAtlas.Build

open CodeAtlas.Scan CodeAtlas.Path CodeAtlas.Graph

/-! ## Inventories that agree -/

namespace Inventory

variable {root : String} {I J : Inventory}

theorem located_congr (hfound : ∀ p, I.found? p = J.found? p)
    (houtput : ∀ p n, I.found? p = some (some n) → I.output? p = J.output? p) (p : String) :
    I.located root p = J.located root p := by
  unfold located
  rw [← hfound]
  cases hp : I.found? p with
  | none => rfl
  | some size =>
      cases size with
      | none => rfl
      | some n => simp only [houtput p n hp]

theorem HasLink.of_congr (hfound : ∀ p, I.found? p = J.found? p)
    (houtput : ∀ p n, I.found? p = some (some n) → I.output? p = J.output? p) {r : Relationship}
    (h : I.HasLink root r) : J.HasLink root r := by
  obtain ⟨p, size, hp, ⟨hdot, rfl⟩ | ⟨n, rfl, hr⟩⟩ := h
  · exact ⟨p, size, (hfound p).symm.trans hp, .inl ⟨hdot, rfl⟩⟩
  · exact ⟨p, some n, (hfound p).symm.trans hp, .inr ⟨n, rfl, houtput p n hp ▸ hr⟩⟩

theorem hasLink_congr (hfound : ∀ p, I.found? p = J.found? p)
    (houtput : ∀ p n, I.found? p = some (some n) → I.output? p = J.output? p) (r : Relationship) :
    I.HasLink root r ↔ J.HasLink root r :=
  ⟨HasLink.of_congr hfound houtput, HasLink.of_congr (fun p => (hfound p).symm)
    fun p n hp => (houtput p n ((hfound p).trans hp)).symm⟩

/-- The inventory without what stands at a path. -/
def without (I : Inventory) (path : String) : Inventory where
  found? p := if p = path then none else I.found? p
  output? := I.output?

theorem without_found?_eq_some_iff {path p : String} {size : Option Nat} :
    (I.without path).found? p = some size ↔ p ≠ path ∧ I.found? p = some size := by
  by_cases hp : p = path <;> simp [without, hp]

theorem Piece.of_without {path p : String} {e : Entity} (h : (I.without path).Piece root p e) :
    p ≠ path ∧ I.Piece root p e := by
  rcases h with ⟨size, hfound, rfl⟩ | ⟨n, o, hfound, ho, he⟩
  · obtain ⟨hp, hfound⟩ := without_found?_eq_some_iff.1 hfound
    exact ⟨hp, .inl ⟨size, hfound, rfl⟩⟩
  · obtain ⟨hp, hfound⟩ := without_found?_eq_some_iff.1 hfound
    exact ⟨hp, .inr ⟨n, o, hfound, ho, he⟩⟩

theorem LinkId.of_without {path p id : String} (h : (I.without path).LinkId root p id) : I.LinkId root p id := by
  rcases h with ⟨q, a, b, k, ha, hb, hid⟩ | ⟨n, o, hn, ho, hr⟩
  · exact .inl ⟨q, a, b, k, ha.of_without.2, hb.of_without.2, hid⟩
  · exact .inr ⟨n, o, (without_found?_eq_some_iff.1 hn).2, ho, hr⟩

/-- At a folder there is nothing but the folder. -/
theorem Piece.eq_folder {path : String} {e : Entity} (h : I.Piece root path e) (hfolder : I.found? path = some none) :
    e = directoryEntity root path := by
  rcases h with ⟨size, hfound, rfl⟩ | ⟨n, o, hfound, -⟩
  · obtain rfl := Option.some.inj (hfolder.symm.trans hfound)
    rfl
  · rw [hfolder] at hfound
    exact absurd hfound (by simp)

theorem Sound.without (h : I.Sound root) (path : String) : (I.without path).Sound root where
  fits p n o hfound ho := h.fits p n o (without_found?_eq_some_iff.1 hfound).2 ho
  path_of_id ha hb hid := h.path_of_id ha.of_without.2 hb.of_without.2 hid
  path_of_link hp hq := h.path_of_link hp.of_without hq.of_without

theorem Closed.without (hclosed : I.Closed) {path : String} (hfile : I.found? path ≠ some none) :
    (I.without path).Closed := by
  intro p size hp hfound
  have hfolder := hclosed p size hp (without_found?_eq_some_iff.1 hfound).2
  exact without_found?_eq_some_iff.2 ⟨fun hd => hfile (hd ▸ hfolder), hfolder⟩

/-- Without a file, the links are those that do not touch its entities. -/
theorem hasLink_without_iff (hsound : I.Sound root) (hclosed : I.Closed) {path : String}
    (hfile : I.found? path ≠ some none) (r : Relationship) : (I.without path).HasLink root r ↔
      I.HasLink root r ∧ ∀ e ∈ I.located root path, e.id ≠ r.source ∧ e.id ≠ r.target := by
  have hapart : ∀ e ∈ I.located root path, ∀ {q a}, I.Piece root q a → e.id = a.id → q = path := by
    intro e he q a ha hid
    obtain ⟨e', he', hid'⟩ := (exists_piece_of_mem hsound he).2
    exact hsound.path_of_id ha he' (by rw [hid', hid])
  constructor
  · rintro ⟨q, size, hfound, ⟨hdot, rfl⟩ | ⟨n, rfl, hr⟩⟩
    · obtain ⟨hq, hfound⟩ := without_found?_eq_some_iff.1 hfound
      refine ⟨⟨q, size, hfound, .inl ⟨hdot, rfl⟩⟩, fun e he => ⟨fun hid => ?_, fun hid => ?_⟩⟩
      · have hfolder := hclosed q size hdot hfound
        have hpath := hapart e he (a := directoryEntity root (dirname q)) (.inl ⟨none, hfolder, rfl⟩) hid
        exact hfile (hpath ▸ hfolder)
      · exact hq (hapart e he (a := Find.entity root ⟨q, size⟩) (.inl ⟨size, hfound, rfl⟩) hid)
    · obtain ⟨hq, hfound⟩ := without_found?_eq_some_iff.1 hfound
      obtain ⟨⟨x, hx, hxs⟩, ⟨y, hy, hyt⟩⟩ := ends_of_mem_part hsound hfound hr
      refine ⟨⟨q, some n, hfound, .inr ⟨n, rfl, hr⟩⟩, fun e he => ⟨fun hid => ?_, fun hid => ?_⟩⟩
      · exact hq (path_eq_of_id_eq hsound hx he (by rw [hxs, hid]))
      · exact hq (path_eq_of_id_eq hsound hy he (by rw [hyt, hid]))
  · rintro ⟨⟨q, size, hfound, hlink⟩, hfree⟩
    have hq : q ≠ path := by
      rintro rfl
      cases size with
      | none => exact hfile hfound
      | some n =>
          rcases hlink with ⟨-, rfl⟩ | ⟨k, hk, hr⟩
          · have hpart := isPart hsound.separate hfound
            obtain ⟨e, he, hid⟩ := (hpart.valid.hasEntity_iff _).1 hpart.file_mem
            refine (hfree e ?_).2 hid
            simpa only [located, hfound] using he
          · obtain rfl := Option.some.inj hk
            obtain ⟨⟨x, hx, hxs⟩, -⟩ := ends_of_mem_part hsound hfound hr
            exact (hfree x hx).1 hxs
    exact ⟨q, size, without_found?_eq_some_iff.2 ⟨hq, hfound⟩, hlink⟩

end Inventory

/-- Dropping a file takes it out of the inventory. -/
theorem shows_dropFile {root : String} {I : Inventory} {g : Graph} {crossing : Relationship → Prop}
    (hsound : I.Sound root) (hclosed : I.Closed) {path : String} (hfile : I.found? path ≠ some none)
    (h : I.ShownIn root g crossing) :
    (I.without path).ShownIn root (g.dropFile path).1
      fun r => crossing r ∧ ∀ e ∈ I.located root path, e.id ≠ r.source ∧ e.id ≠ r.target := by
  have hkind : ∀ e ∈ I.located root path, e.kind ≠ .directory := by
    intro e he
    unfold Inventory.located at he
    split at he
    · exact absurd he (by simp)
    · next hf => exact absurd hf hfile
    · next n hf =>
        rcases Inventory.mem_part_cases he with rfl | ⟨o, x, m, ho, hx, rfl⟩
        · exact EntityKind.noConfusion
        · exact (hsound.fits path n o hf ho).kind_ne x hx
  refine (h.dropFile path hkind).congr (fun p => ?_) (Inventory.hasLink_without_iff hsound hclosed hfile)
    fun _ => Iff.rfl
  by_cases hp : p = path <;> simp [Inventory.located, Inventory.without, hp]

/-! ## Attaching the file -/

section

variable {registry : Registry} {scanner : Scanner} {disk disk' : FileTree} {root path : String} {f : List String}

/-- Is an id that of a piece? -/
def Inventory.OwnsId (I : Inventory) (root id : String) : Prop := ∃ p e, I.Piece root p e ∧ e.id = id

namespace Inventory.DifferAt

variable {I I' : Inventory}

theorem found?_eq (h : I.DifferAt I' f) {p : String} (hp : p ≠ ofNames f)
    (hold : I'.found? p = some none → I.found? p = some none) : I'.found? p = I.found? p := by
  cases hfound : I'.found? p with
  | some size =>
      cases size with
      | none => exact (hold hfound).symm
      | some n => exact ((h.file_iff p hp n).1 hfound).symm
  | none =>
      cases hfound' : I.found? p with
      | none => rfl
      | some size =>
          cases size with
          | none => exact absurd (h.folders_stay p hfound') (by rw [hfound]; simp)
          | some n => exact absurd ((h.file_iff p hp n).2 hfound') (by rw [hfound]; simp)

/-- What stood elsewhere still does. -/
theorem found?_of_without (h : I.DifferAt I' f) {p : String} {size : Option Nat}
    (hp : (I.without (ofNames f)).found? p = some size) : p ≠ ofNames f ∧ I'.found? p = some size := by
  obtain ⟨hne, hfound⟩ := Inventory.without_found?_eq_some_iff.1 hp
  refine ⟨hne, ?_⟩
  cases size with
  | none => exact h.folders_stay p hfound
  | some n => exact (h.file_iff p hne n).2 hfound

theorem piece_of_without (h : I.DifferAt I' f) {p : String} {e : Entity}
    (he : (I.without (ofNames f)).Piece root p e) : I'.Piece root p e := by
  rcases he with ⟨size, hfound, rfl⟩ | ⟨n, o, hfound, ho, he⟩
  · exact .inl ⟨size, (h.found?_of_without hfound).2, rfl⟩
  · obtain ⟨hp, hfound'⟩ := h.found?_of_without hfound
    exact .inr ⟨n, o, hfound', (h.output_eq p n hp hfound').trans ho, he⟩

theorem linkId_of_without (h : I.DifferAt I' f) {p id : String} (hid : (I.without (ofNames f)).LinkId root p id) :
    I'.LinkId root p id := by
  rcases hid with ⟨q, a, b, k, ha, hb, hid⟩ | ⟨n, o, hfound, ho, hr⟩
  · exact .inl ⟨q, a, b, k, h.piece_of_without ha, h.piece_of_without hb, hid⟩
  · obtain ⟨hp, hfound'⟩ := h.found?_of_without hfound
    exact .inr ⟨n, o, hfound', (h.output_eq p n hp hfound').trans ho, hr⟩

/-- If the file is gone, what is left without it is what stands there now. -/
theorem located_without (h : I.DifferAt I' f) (hgone : I'.found? (ofNames f) = none) :
    (∀ p, I'.located root p = (I.without (ofNames f)).located root p) ∧
      ∀ r, I'.HasLink root r ↔ (I.without (ofNames f)).HasLink root r := by
  have hfound : ∀ p, I'.found? p = (I.without (ofNames f)).found? p := fun p => by
    by_cases hp : p = ofNames f
    · rw [hp, hgone]; simp [Inventory.without]
    · have hold : I'.found? p = some none → I.found? p = some none := fun hnew => by
        rcases h.folders_new p hnew with hold | ⟨-, n, hn⟩
        · exact hold
        · rw [hgone] at hn
          exact absurd hn (by simp)
      rw [h.found?_eq hp hold]
      simp [Inventory.without, hp]
  have houtput : ∀ p n, I'.found? p = some (some n) → I'.output? p = (I.without (ofNames f)).output? p :=
    fun p n hp => h.output_eq p n (fun he => absurd (he ▸ hp) (by rw [hgone]; simp)) hp
  exact ⟨Inventory.located_congr hfound houtput, Inventory.hasLink_congr hfound houtput⟩

end Inventory.DifferAt

/-! ## Attaching it again -/

/-- What is known of a graph that lacks a file which is to be attached: it shows the inventory before the
    change without the file, and the inventory after it has the file. -/
structure Lacks (registry : Registry) (scanner : Scanner) (disk disk' : FileTree) (root : String)
    (dir : List String) (name : String) (n : Nat) (g : Graph) (crossing : Relationship → Prop) : Prop where
  wf : disk.WellFormed
  wf' : disk'.WellFormed
  sound : (inventory registry scanner disk root).Sound (absolute root)
  sound' : (inventory registry scanner disk' root).Sound (absolute root)
  differ : (inventory registry scanner disk root).DifferAt (inventory registry scanner disk' root) (dir ++ [name])
  names : AllNames (dir ++ [name])
  found : found? scanner disk' root (ofNames (dir ++ [name])) = some (some n)
  shows_ : ((inventory registry scanner disk root).without (ofNames (dir ++ [name]))).ShownIn (absolute root) g
    crossing

namespace Lacks

variable {dir : List String} {name : String} {n : Nat} {g : Graph} {crossing : Relationship → Prop}

theorem found?_folder (h : Lacks registry scanner disk disk' root dir name n g crossing) {q : List String}
    (hq : q <+: dir) :
    found? scanner disk' root (ofNames q) = some none := by
  refine found?_above h.wf' h.names (hq.trans (List.prefix_append ..)) ?_ h.found
  rintro rfl
  exact not_prefix_of_longer dir name hq

theorem piece_file (h : Lacks registry scanner disk disk' root dir name n g crossing) :
    (inventory registry scanner disk' root).Piece (absolute root) (ofNames (dir ++ [name]))
      (fileEntity (ofNames (dir ++ [name])) n) := .inl ⟨some n, h.found, rfl⟩

theorem piece_folder (h : Lacks registry scanner disk disk' root dir name n g crossing) {q : List String}
    (hq : q <+: dir) :
    (inventory registry scanner disk' root).Piece (absolute root) (ofNames q) (folderEntity (absolute root) q) :=
  .inl ⟨none, h.found?_folder hq, rfl⟩

/-- Every id of the graph is that of a piece of what stands there now. -/
theorem piece_of_mem (h : Lacks registry scanner disk disk' root dir name n g crossing) {e : Entity}
    (he : e ∈ g.entities) :
    ∃ e', (inventory registry scanner disk' root).Piece (absolute root) e.path e' ∧ e'.id = e.id := by
  obtain ⟨e', he', hid⟩ := exists_piece_of_mem_entities (h.sound.without _).separate h.shows_ he
  exact ⟨e', h.differ.piece_of_without he', hid⟩

/-- The file is unknown. -/
theorem file_unknown (h : Lacks registry scanner disk disk' root dir name n g crossing) :
    g.hasEntity (fileEntity (ofNames (dir ++ [name])) n).id = false := by
  rw [← Bool.not_eq_true, h.shows_.valid.hasEntity_iff]
  rintro ⟨e, he, hid⟩
  obtain ⟨e', he', hid'⟩ := h.piece_of_mem he
  have hpath := h.sound'.path_of_id he' h.piece_file (hid'.trans hid)
  have hat := (h.shows_.mem_entities_iff e).1 he
  simp [hpath, Inventory.located, Inventory.without] at hat

/-- No folder above the file stands where the file does. -/
theorem folder_path_ne (h : Lacks registry scanner disk disk' root dir name n g crossing) {q : List String}
    (hq : q <+: dir) :
    ofNames q ≠ ofNames (dir ++ [name]) := fun he => by
  have hnames : AllNames q := fun s hs => h.names s (List.mem_append_left _ (hq.subset hs))
  exact not_prefix_of_longer dir name (ofNames_inj hnames h.names he ▸ hq)

theorem folder_id_ne (h : Lacks registry scanner disk disk' root dir name n g crossing) {q : List String}
    (hq : q <+: dir) :
    (folderEntity (absolute root) q).id ≠ (fileEntity (ofNames (dir ++ [name])) n).id := fun hid =>
  h.folder_path_ne hq (h.sound'.path_of_id (h.piece_folder hq) h.piece_file hid)

/-- Of the folders above the file, those are known that were there before. -/
theorem folder_known_iff (h : Lacks registry scanner disk disk' root dir name n g crossing) {q : List String}
    (hq : q <+: dir) :
    g.hasEntity (folderEntity (absolute root) q).id = true ↔ found? scanner disk root (ofNames q) = some none := by
  have hne := h.folder_path_ne hq
  rw [h.shows_.valid.hasEntity_iff]
  constructor
  · rintro ⟨e, he, hid⟩
    obtain ⟨e', he', hid'⟩ := h.piece_of_mem he
    have hpath := h.sound'.path_of_id he' (h.piece_folder hq) (hid'.trans hid)
    have hat := (h.shows_.mem_entities_iff e).1 he
    rw [hpath] at hat
    cases hfound : found? scanner disk root (ofNames q) with
    | none => simp [Inventory.located, Inventory.without, inventory, hfound] at hat
    | some size =>
        cases size with
        | none => rfl
        | some k =>
            have hfile : found? scanner disk' root (ofNames q) = some (some k) :=
              (h.differ.file_iff _ hne k).2 hfound
            rw [h.found?_folder hq] at hfile
            exact absurd hfile (by simp)
  · intro hfound
    have hat : folderEntity (absolute root) q ∈ ((inventory registry scanner disk root).without
        (ofNames (dir ++ [name]))).located (absolute root) (ofNames q) := by
      simp [Inventory.located, Inventory.without, inventory, hfound, hne, folderEntity]
    exact ⟨folderEntity (absolute root) q, h.shows_.mem_of_mem_at hat, rfl⟩

/-- Of the folders above the file, a containment shares its id with none that ends elsewhere. -/
theorem target_eq (h : Lacks registry scanner disk disk' root dir name n g crossing) {r : Relationship}
    (hr : r ∈ g.relationships) {q : List String} (hq : q <+: dir) {t : String}
    (ht : (inventory registry scanner disk' root).OwnsId (absolute root) t)
    (hid : r.id = (containment (folderEntity (absolute root) q).id t).id) : r.target = t := by
  obtain ⟨p, b, hb, rfl⟩ := ht
  have hfolder : (inventory registry scanner disk' root).LinkId (absolute root) (ofNames q) r.id :=
    .inl ⟨p, _, b, .contains, h.piece_folder hq, hb, hid⟩
  have hclosed : ((inventory registry scanner disk root).without (ofNames (dir ++ [name]))).Closed :=
    Inventory.Closed.without (closed_inventory h.wf) h.differ.file_before
  rcases (h.shows_.mem_relationships_iff r).1 hr with ⟨z, size, hz, ⟨hdot, rfl⟩ | ⟨k, rfl, hpart⟩⟩ | hc
  · have hup := hclosed z size hdot hz
    have hpath := h.sound'.path_of_link (h.differ.linkId_of_without (.inl ⟨z, _, _, .contains, .inl ⟨none, hup, rfl⟩,
      .inl ⟨size, hz, rfl⟩, rfl⟩)) hfolder
    have hid' : relationshipId (directoryEntity (absolute root) (dirname z)).id RelationKind.contains.name
          (Find.entity (absolute root) ⟨z, size⟩).id
        = relationshipId (directoryEntity (absolute root) (ofNames q)).id RelationKind.contains.name b.id := hid
    rw [hpath] at hid'
    exact (relationshipId_inj hid').2
  · -- a part has no folder
    have hlink := ((Inventory.isPart (h.sound.without _).separate hz).own_link r hpart).linkId
    have hpath := h.sound'.path_of_link (h.differ.linkId_of_without hlink) hfolder
    have hfile := (h.differ.found?_of_without hz).2
    rw [hpath] at hfile
    exact absurd (hfile.symm.trans (h.found?_folder hq)) (by simp)
  · obtain ⟨hkind, hrid, a, ha, b', hb', has, hbt, -⟩ := h.shows_.crosses r hc
    obtain ⟨a', ha', haid⟩ := h.piece_of_mem ha
    obtain ⟨b'', hb'', hbid⟩ := h.piece_of_mem hb'
    rw [← has, ← hbt, ← haid, ← hbid] at hrid
    have hpath := h.sound'.path_of_link (.inl ⟨b'.path, a', b'', r.kind, ha', hb'', hrid⟩) hfolder
    rw [hpath] at ha'
    rw [hid, ha'.eq_folder (h.found?_folder hq)] at hrid
    exact absurd (relationshipId_inj hrid).1.symm hkind

theorem climbable (h : Lacks registry scanner disk disk' root dir name n g crossing) :
    Climbable ((inventory registry scanner disk' root).OwnsId (absolute root)) (absolute root)
      (g.insertEntity (fileEntity (ofNames (dir ++ [name])) n)) dir := by
  have hnames : ∀ q, q <+: dir → AllNames q := fun q hq s hs => h.names s (List.mem_append_left _ (hq.subset hs))
  have hsame : ∀ q, q <+: dir → (g.insertEntity (fileEntity (ofNames (dir ++ [name])) n)).hasEntity
      (folderEntity (absolute root) q).id = g.hasEntity (folderEntity (absolute root) q).id := fun q hq => by
    rw [hasEntity_insertEntity]
    simp [h.folder_id_ne hq]
  refine ⟨fun q hq => ⟨_, _, h.piece_folder hq, rfl⟩, fun q q' hq hq' hid => ?_, ?_, fun q q' hqq' hq' hknown => ?_,
    fun q q' t t' hq hq' ht ht' hid => ?_, fun r hr q t hq ht hid => h.target_eq hr hq ht hid⟩
  · exact ofNames_inj (hnames q hq) (hnames q' hq') (h.sound'.path_of_id (h.piece_folder hq) (h.piece_folder hq') hid)
  · rw [hsame [] List.nil_prefix, h.folder_known_iff List.nil_prefix]
    exact found?_root
  · rw [hsame q' hq', h.folder_known_iff hq'] at hknown
    rw [hsame q (hqq'.trans hq'), h.folder_known_iff (hqq'.trans hq')]
    by_cases hne : q = q'
    · rw [hne]; exact hknown
    · exact found?_above h.wf (hnames q' hq') hqq' hne hknown
  · obtain ⟨p, b, hb, rfl⟩ := ht
    obtain ⟨p', b', hb', rfl⟩ := ht'
    have hpath := h.sound'.path_of_link (.inl ⟨p, _, b, .contains, h.piece_folder hq, hb, rfl⟩)
      (.inl ⟨p', _, b', .contains, h.piece_folder hq', hb', hid⟩)
    rw [ofNames_inj (hnames q hq) (hnames q' hq') hpath] at hid
    exact (relationshipId_inj hid).2

/-- What attaching the file adds to the lists of the graph. -/
theorem attachFile_spec (h : Lacks registry scanner disk disk' root dir name n g crossing) :
    ∃ added : List (List String), added.Nodup ∧
      (∀ q, q ∈ added ↔ q <+: dir ∧ found? scanner disk root (ofNames q) ≠ some none) ∧
      Valid (attachFile (absolute root) g (scannedFile (absolute root) (ofNames (dir ++ [name])) n)) ∧
      (attachFile (absolute root) g (scannedFile (absolute root) (ofNames (dir ++ [name])) n)).entities
        = g.entities ++ fileEntity (ofNames (dir ++ [name])) n :: added.map (folderEntity (absolute root)) ∧
      (attachFile (absolute root) g (scannedFile (absolute root) (ofNames (dir ++ [name])) n)).relationships
        = g.relationships ++ containment (folderEntity (absolute root) dir).id
            (fileEntity (ofNames (dir ++ [name])) n).id :: added.map (folderContainment (absolute root)) := by
  have hnew := h.file_unknown
  have hfirst : ∀ r ∈ (g.insertEntity (fileEntity (ofNames (dir ++ [name])) n)).relationships,
      r.target ≠ (fileEntity (ofNames (dir ++ [name])) n).id := fun r hr hid => by
    have htarget := h.shows_.valid.target_known r hr
    rw [hid, hnew] at htarget
    exact absurd htarget (by simp)
  have hchild : (g.insertEntity (fileEntity (ofNames (dir ++ [name])) n)).hasEntity
      (fileEntity (ofNames (dir ++ [name])) n).id = true := by simp [hasEntity_insertEntity]
  have hclimb := h.climbable
  obtain ⟨added, hnodup, hmem, hv, hents, hrels⟩ := attach_spec (absolute root) dir h.names.of_append_left
    (h.shows_.valid.insertEntity _) hclimb ⟨_, _, h.piece_file, rfl⟩ hchild hfirst
  have heq : attachFile (absolute root) g (scannedFile (absolute root) (ofNames (dir ++ [name])) n)
      = attach (absolute root) (g.insertEntity (fileEntity (ofNames (dir ++ [name])) n))
          (fileEntity (ofNames (dir ++ [name])) n).id (folderPaths dir) := by
    simp only [attachFile, scannedFile, ancestors_ofNames h.names]
  rw [heq]
  refine ⟨added, hnodup, fun q => ?_, hv, ?_, hrels⟩
  · rw [hmem]
    refine and_congr_right fun hq => ?_
    rw [hasEntity_insertEntity, decide_eq_false (h.folder_id_ne hq), Bool.false_or, ← Bool.not_eq_true,
      h.folder_known_iff hq]
  · rw [hents, entities_insertEntity_new _ _ hnew, List.append_assoc, List.singleton_append]

/-- A folder that appears is one that attaching adds. -/
theorem old_or_added (h : Lacks registry scanner disk disk' root dir name n g crossing) {added : List (List String)}
    (hmem : ∀ q, q ∈ added ↔ q <+: dir ∧ found? scanner disk root (ofNames q) ≠ some none) {p : String}
    (hp : p ≠ ofNames (dir ++ [name])) (hfound : found? scanner disk' root p = some none) :
    found? scanner disk root p = some none ∨ ∃ q ∈ added, p = ofNames q := by
  rcases h.differ.folders_new p hfound with hold | ⟨⟨q, hq, rfl⟩, -⟩
  · exact .inl hold
  · rcases List.prefix_concat_iff.1 hq with rfl | hq
    · exact absurd rfl hp
    · by_cases hold : found? scanner disk root (ofNames q) = some none
      · exact .inl hold
      · exact .inr ⟨q, (hmem q).2 ⟨hq, hold⟩, rfl⟩

/-- Of the added folders, one stands at its path. -/
theorem filter_added (h : Lacks registry scanner disk disk' root dir name n g crossing) {added : List (List String)}
    (hnodup : added.Nodup) (hbelow : ∀ q ∈ added, q <+: dir) {q : List String} (hq : q ∈ added) :
    (added.map (folderEntity (absolute root))).filter (·.path = ofNames q) = [folderEntity (absolute root) q] := by
  have hnames : ∀ q ∈ added, AllNames q := fun q hq s hs =>
    h.names s (List.mem_append_left _ ((hbelow q hq).subset hs))
  have hsame : added.filter ((fun e : Entity => decide (e.path = ofNames q)) ∘ folderEntity (absolute root))
      = added.filter (· = q) := List.filter_congr fun q' hq' => by
    have hiff : ofNames q' = ofNames q ↔ q' = q :=
      ⟨ofNames_inj (hnames q' hq') (hnames q hq), fun he => by rw [he]⟩
    simp only [Function.comp_apply, folderEntity, directoryEntity, Entity.create, hiff]
  rw [List.filter_map, hsame, List.filter_eq, List.count_eq_one_of_mem hnodup hq]
  rfl

/-- At every other path none of them stands. -/
theorem filter_added_eq_nil {added : List (List String)} {p : String} (hp : ∀ q ∈ added, ofNames q ≠ p) :
    (added.map (folderEntity (absolute root))).filter (·.path = p) = [] := by
  refine List.filter_eq_nil_iff.2 fun e he => ?_
  obtain ⟨q, hq, rfl⟩ := List.mem_map.1 he
  exact fun hpath => hp q hq (of_decide_eq_true hpath)

/-- Where a folder is added, nothing was found. -/
theorem found?_added (h : Lacks registry scanner disk disk' root dir name n g crossing) {q : List String}
    (hq : q <+: dir) (hunknown : found? scanner disk root (ofNames q) ≠ some none) :
    found? scanner disk root (ofNames q) = none := by
  cases hfound : found? scanner disk root (ofNames q) with
  | none => rfl
  | some size =>
      cases size with
      | none => exact absurd hfound hunknown
      | some k =>
          have hfile : found? scanner disk' root (ofNames q) = some (some k) :=
            (h.differ.file_iff _ (h.folder_path_ne hq) k).2 hfound
          rw [h.found?_folder hq] at hfile
          exact absurd hfile (by simp)

/-- Where nothing is added, there is what was there. -/
theorem located_old (h : Lacks registry scanner disk disk' root dir name n g crossing) {p : String}
    (hp : p ≠ ofNames (dir ++ [name])) (hsame : found? scanner disk' root p = found? scanner disk root p) :
    ((inventory registry scanner disk' root).unparsed [ofNames (dir ++ [name])]).located (absolute root) p
      = ((inventory registry scanner disk root).without (ofNames (dir ++ [name]))).located (absolute root) p := by
  simp only [Inventory.located, Inventory.unparsed, Inventory.without, inventory, List.mem_singleton, hp, if_false,
    hsame]
  cases hfound : found? scanner disk root p with
  | none => rfl
  | some size =>
      cases size with
      | none => rfl
      | some k =>
          have houtput := h.differ.output_eq p k hp (hsame.trans hfound)
          simp only [inventory] at houtput
          simp only [houtput]

/-- At every path, what was there without the file, and what attaching adds. -/
theorem located_attached (h : Lacks registry scanner disk disk' root dir name n g crossing) {added : List (List String)}
    (hnodup : added.Nodup)
    (hmem : ∀ q, q ∈ added ↔ q <+: dir ∧ found? scanner disk root (ofNames q) ≠ some none) (p : String) :
    ((inventory registry scanner disk' root).unparsed [ofNames (dir ++ [name])]).located (absolute root) p
      = ((inventory registry scanner disk root).without (ofNames (dir ++ [name]))).located (absolute root) p
        ++ (fileEntity (ofNames (dir ++ [name])) n :: added.map (folderEntity (absolute root))).filter
            (·.path = p) := by
  have hbelow : ∀ q ∈ added, q <+: dir := fun q hq => ((hmem q).1 hq).1
  by_cases hp : p = ofNames (dir ++ [name])
  · subst hp
    have hnone := @filter_added_eq_nil root added _ fun q hq => h.folder_path_ne (hbelow q hq)
    have hself : (fileEntity (ofNames (dir ++ [name])) n).path = ofNames (dir ++ [name]) := rfl
    rw [List.filter_cons, hnone, hself]
    simp only [Inventory.located, Inventory.unparsed, Inventory.without, inventory, h.found, List.mem_singleton,
      if_true, decide_true, List.nil_append]
    rfl
  · have hother : ¬ (fileEntity (ofNames (dir ++ [name])) n).path = p := Ne.symm hp
    rw [List.filter_cons, if_neg (by simpa using hother)]
    by_cases hnew : ∃ q ∈ added, p = ofNames q
    · obtain ⟨q, hq, rfl⟩ := hnew
      obtain ⟨hqdir, hunknown⟩ := (hmem q).1 hq
      have hnone := h.found?_added hqdir hunknown
      rw [h.filter_added hnodup hbelow hq]
      simp [Inventory.located, Inventory.unparsed, Inventory.without, inventory, hnone, h.found?_folder hqdir,
        folderEntity]
    · have hsame : found? scanner disk' root p = found? scanner disk root p :=
        h.differ.found?_eq hp fun hfound => (h.old_or_added hmem hp hfound).resolve_right hnew
      rw [filter_added_eq_nil fun q hq hpath => hnew ⟨q, hq, hpath.symm⟩, List.append_nil, h.located_old hp hsame]

/-- The links that were there without the file, and those that attaching adds. -/
theorem hasLink_attached (h : Lacks registry scanner disk disk' root dir name n g crossing) {added : List (List String)}
    (hmem : ∀ q, q ∈ added ↔ q <+: dir ∧ found? scanner disk root (ofNames q) ≠ some none) (r : Relationship) :
    ((inventory registry scanner disk' root).unparsed [ofNames (dir ++ [name])]).HasLink (absolute root) r
      ↔ ((inventory registry scanner disk root).without (ofNames (dir ++ [name]))).HasLink (absolute root) r ∨
        r ∈ containment (folderEntity (absolute root) dir).id (fileEntity (ofNames (dir ++ [name])) n).id ::
          added.map (folderContainment (absolute root)) := by
  have hdirname : dirname (ofNames (dir ++ [name])) = ofNames dir :=
    dirname_ofNames h.names.of_append_left (h.names.of_append_right _ (List.mem_singleton_self _))
  have hself : Find.containment (absolute root) ⟨ofNames (dir ++ [name]), some n⟩
      = containment (folderEntity (absolute root) dir).id (fileEntity (ofNames (dir ++ [name])) n).id := by
    simp only [Find.containment, hdirname]
    rfl
  rw [List.mem_cons, List.mem_map]
  constructor
  · rintro ⟨p, size, hfound, hlink⟩
    by_cases hp : p = ofNames (dir ++ [name])
    · subst hp
      obtain rfl := Option.some.inj (hfound.symm.trans h.found)
      rcases hlink with ⟨-, rfl⟩ | ⟨k, -, hr⟩
      · exact .inr (.inl hself)
      · simp [Inventory.unparsed, part] at hr
    · have hold : ∀ size, found? scanner disk root p = some size →
          ((inventory registry scanner disk root).without (ofNames (dir ++ [name]))).found? p = some size :=
        fun size hfound => Inventory.without_found?_eq_some_iff.2 ⟨hp, hfound⟩
      cases size with
      | some k =>
          have hfile : found? scanner disk root p = some (some k) := (h.differ.file_iff p hp k).1 hfound
          have houtput := h.differ.output_eq p k hp hfound
          refine .inl ⟨p, some k, hold _ hfile, hlink.imp_right ?_⟩
          rintro ⟨k', hk, hr⟩
          refine ⟨k', hk, ?_⟩
          simp only [Inventory.unparsed, List.mem_singleton, hp, if_false, houtput] at hr
          exact hr
      | none =>
          rcases hlink with ⟨hdot, rfl⟩ | ⟨k, hk, -⟩
          · rcases h.old_or_added hmem hp hfound with hfolder | ⟨q, hq, rfl⟩
            · exact .inl ⟨p, none, hold _ hfolder, .inl ⟨hdot, rfl⟩⟩
            · exact .inr (.inr ⟨q, hq, rfl⟩)
          · exact absurd hk (by simp)
  · rintro (⟨p, size, hfound, hlink⟩ | rfl | ⟨q, hq, rfl⟩)
    · obtain ⟨hp, hfound'⟩ := h.differ.found?_of_without hfound
      refine ⟨p, size, hfound', hlink.imp_right ?_⟩
      rintro ⟨k, rfl, hr⟩
      refine ⟨k, rfl, ?_⟩
      simp only [Inventory.unparsed, List.mem_singleton, hp, if_false, h.differ.output_eq p k hp hfound']
      exact hr
    · refine ⟨_, some n, h.found, .inl ⟨?_, hself.symm⟩⟩
      rw [ne_eq, ofNames_eq_dot_iff h.names]
      simp
    · obtain ⟨hqdir, hunknown⟩ := (hmem q).1 hq
      refine ⟨ofNames q, none, h.found?_folder hqdir, .inl ⟨fun hdot => hunknown ?_, rfl⟩⟩
      rw [hdot]
      exact found?_root

/-- Attaching the file gives a graph that shows what stands there now, the file not parsed yet. -/
theorem shows_attachFile (h : Lacks registry scanner disk disk' root dir name n g crossing) :
    ((inventory registry scanner disk' root).unparsed [ofNames (dir ++ [name])]).ShownIn (absolute root)
      (attachFile (absolute root) g (scannedFile (absolute root) (ofNames (dir ++ [name])) n)) crossing := by
  obtain ⟨added, hnodup, hmem, hv, hents, hrels⟩ := h.attachFile_spec
  exact (h.shows_.extend hv hents hrels).congr (h.located_attached hnodup hmem) (h.hasLink_attached hmem)
    fun _ => Iff.rfl

/-- What crosses in the graph does not leave the file. -/
theorem quiet (h : Lacks registry scanner disk disk' root dir name n g crossing) :
    Quiet (absolute root) (inventory registry scanner disk' root) crossing (ofNames (dir ++ [name])) := by
  intro r hr e he hid
  obtain ⟨-, -, a, ha, -, -, has, -⟩ := h.shows_.crosses r hr
  obtain ⟨a', ha', haid⟩ := h.piece_of_mem ha
  have hpath := h.sound'.path_of_id ha' he (by rw [haid, has, hid])
  have hat := (h.shows_.mem_entities_iff a).1 ha
  simp [hpath, Inventory.located, Inventory.without] at hat

end Lacks

end

/-! ## Refreshing -/

/-- An open copy of a graph without a file. -/
def droppedGraph (previous : Graph) (path : String) : Graph := (previous.copy.dropFile path).1

/-- The graph of a refresh before discovery. -/
def refreshedGraph (registry : Registry) (scanner : Scanner) (disk : FileTree) (root : String) (previous : Graph)
    (path : String) : Graph :=
  match found? scanner disk root path with
  | some (some n) =>
    addOutput registry disk root
      (attachFile (absolute root) (droppedGraph previous path) (scannedFile (absolute root) path n))
      (scannedFile (absolute root) path n)
  | _ => droppedGraph previous path

/-- Has the file at a path, if there is one, an output? -/
def ParsesAt (registry : Registry) (scanner : Scanner) (disk : FileTree) (root path : String) : Prop :=
  ∀ n, found? scanner disk root path = some (some n) →
    ∃ o, registry.parse disk (join (absolute root) path) (some (absolute root)) = .ok o

section

variable {registry : Registry} {scanner : Scanner} {disk disk' : FileTree} {root path : String} {f : List String}

/-- Once its path is inspected, a file is dropped, and attached again if the filters accept it. -/
theorem rebuildFile_inspected {inspected : Except SkipReason ScannedFile}
    (h : inspect scanner disk (absolute root) path = .ok inspected) (previous : Graph) :
    rebuildFile registry scanner disk previous root path = rebuildInspected registry disk (absolute root)
      (droppedGraph previous (relative (absolute root) (resolve (absolute root) path))) inspected := by
  unfold rebuildFile droppedGraph
  simp only [h, bind, Except.bind]

/-- A path that cannot be inspected cannot be refreshed. -/
theorem rebuildFile_eq_error {fault : Fault} (h : inspect scanner disk (absolute root) path = .error fault)
    (previous : Graph) : rebuildFile registry scanner disk previous root path = .error fault := by
  unfold rebuildFile
  simp only [h, bind, Except.bind]

/-- A refresh succeeds if the ignore file compiles and the file, if there is one, has an output. It connects the
    refreshed graph. -/
theorem rebuild_cases (hwf : disk.WellFormed)
    (hres : absoluteSegments (resolve (absolute root) path) = absoluteSegments root ++ f) (hne : f ≠ [])
    (hfile : disk.isFolderAt (absoluteSegments root ++ f) = false) (previous : Graph) :
    ((scanner.Compiles disk root ∧ ParsesAt registry scanner disk root (ofNames f)) ∧
      ∃ res, rebuildFile registry scanner disk previous root path = .ok res ∧
        res.graph = (connect (absolute root) registry.supportedExtensions
          (refreshedGraph registry scanner disk root previous (ofNames f))).freeze) ∨
    (¬ (scanner.Compiles disk root ∧ ParsesAt registry scanner disk root (ofNames f)) ∧
      ∃ fault, rebuildFile registry scanner disk previous root path = .error fault) := by
  by_cases hcompiles : scanner.Compiles disk root
  case neg =>
    obtain ⟨fault, hfault⟩ := inspect_eq_error hcompiles hres hne
    exact .inr ⟨fun h => hcompiles h.1, fault, rebuildFile_eq_error hfault previous⟩
  have hinspect := @inspect_eq_ok_iff scanner disk root path f hwf hres hne hfile
  have hrelative : relative (absolute root) (resolve (absolute root) path) = ofNames f := by
    rw [resolve_eq, hres, relative_slash (allNames_of_resolves hres), ofNames_of_ne_nil hne]
  obtain ⟨inspected, hi⟩ := inspect_cases hcompiles path
  rw [rebuildFile_inspected hi, hrelative, and_iff_right hcompiles]
  cases inspected with
  | ok file =>
      obtain ⟨-, n, rfl, hn⟩ := (hinspect file).1 hi
      have hparses : ParsesAt registry scanner disk root (ofNames f) ↔
          Parses registry disk root [scannedFile (absolute root) (ofNames f) n] := by
        simp [ParsesAt, Parses, hn, scannedFile]
      have hgraph : refreshedGraph registry scanner disk root previous (ofNames f)
          = [scannedFile (absolute root) (ofNames f) n].foldl (addOutput registry disk root)
              (attachFile (absolute root) (droppedGraph previous (ofNames f))
                (scannedFile (absolute root) (ofNames f) n)) := by
        simp only [refreshedGraph, hn, List.foldl_cons, List.foldl_nil]
      rw [hparses, hgraph]
      exact finish_cases _ _ _
  | error reason =>
      have hnone : ∀ n, found? scanner disk root (ofNames f) ≠ some (some n) := fun n hn => by
        rw [(hinspect _).2 ⟨hcompiles, n, rfl, hn⟩] at hi
        exact absurd hi (by simp)
      have hparses : ParsesAt registry scanner disk root (ofNames f) ↔ Parses registry disk root [] := by
        simp [ParsesAt, Parses, hnone]
      have hgraph : refreshedGraph registry scanner disk root previous (ofNames f)
          = [].foldl (addOutput registry disk root) (droppedGraph previous (ofNames f)) := by
        unfold refreshedGraph
        split
        · next n hn => exact absurd hn (hnone n)
        · rfl
      rw [hparses, hgraph]
      exact finish_cases _ _ _

/-- What crosses and does not touch a path. -/
def Avoiding (root : String) (I : Inventory) (path : String) (crossing : Relationship → Prop) (r : Relationship) :
    Prop :=
  crossing r ∧ ∀ e ∈ I.located root path, e.id ≠ r.source ∧ e.id ≠ r.target

/-- The refreshed graph shows the inventory of the changed tree; what crossed before and did not touch the file
    still does. -/
theorem shows_refreshedGraph (hwf : disk.WellFormed) (hwf' : disk'.WellFormed)
    (hsound : (inventory registry scanner disk root).Sound (absolute root))
    (hsound' : (inventory registry scanner disk' root).Sound (absolute root))
    (hplace : Refreshable registry scanner root path f disk disk') {previous : Graph}
    {crossing : Relationship → Prop}
    (h : (inventory registry scanner disk root).ShownIn (absolute root) previous crossing) :
    (inventory registry scanner disk' root).ShownIn (absolute root)
      (refreshedGraph registry scanner disk' root previous (ofNames f))
      (Avoiding (absolute root) (inventory registry scanner disk root) (ofNames f) crossing) := by
  have hdiffer := hplace.differ
  have hdropped : ((inventory registry scanner disk root).without (ofNames f)).ShownIn (absolute root)
      (droppedGraph previous (ofNames f))
      (Avoiding (absolute root) (inventory registry scanner disk root) (ofNames f) crossing) :=
    shows_dropFile hsound (closed_inventory hwf) hdiffer.file_before h.copy
  unfold refreshedGraph
  split
  · next n hn =>
      obtain ⟨dir, name, rfl⟩ := eq_append_singleton hplace.ne_nil
      have hlacks : Lacks registry scanner disk disk' root dir name n (droppedGraph previous (ofNames (dir ++ [name])))
          (Avoiding (absolute root) (inventory registry scanner disk root) (ofNames (dir ++ [name])) crossing) :=
        ⟨hwf, hwf', hsound, hsound', hdiffer, hplace.names, hn, hdropped⟩
      have hparsed := shows_addOutput hwf' hsound' List.not_mem_nil hn hlacks.shows_attachFile hlacks.quiet
      rwa [Inventory.unparsed_nil] at hparsed
  · next hnone =>
      have hgone : found? scanner disk' root (ofNames f) = none := by
        cases hfound : found? scanner disk' root (ofNames f) with
        | none => rfl
        | some size =>
            cases size with
            | none => exact absurd hfound hdiffer.file_after
            | some n => exact absurd hfound (hnone n)
      obtain ⟨hlocated, hlinks⟩ := hdiffer.located_without hgone
      exact hdropped.congr hlocated hlinks fun _ => Iff.rfl

/-- **A refresh shows the inventory of the tree as it is now.** What crossed before and did not touch the file
    still does, and discovery adds what is new. -/
theorem shows_refresh_of_refreshable (hwf : disk.WellFormed) (hwf' : disk'.WellFormed)
    (hsound : (inventory registry scanner disk root).Sound (absolute root))
    (hsound' : (inventory registry scanner disk' root).Sound (absolute root))
    (hplace : Refreshable registry scanner root path f disk disk') {previous : Graph}
    {crossing : Relationship → Prop}
    (h : (inventory registry scanner disk root).ShownIn (absolute root) previous crossing)
    {res : BuildResult} (hres : rebuildFile registry scanner disk' previous root path = .ok res) :
    (inventory registry scanner disk' root).ShownIn (absolute root) res.graph fun r =>
      Avoiding (absolute root) (inventory registry scanner disk root) (ofNames f) crossing r ∨
        r ∈ (Link.discover registry.supportedExtensions
            (refreshedGraph registry scanner disk' root previous (ofNames f)).entities (absolute root)).filter
          (refreshedGraph registry scanner disk' root previous (ofNames f)).isNewLink := by
  rcases rebuild_cases hwf' hplace.resolves hplace.ne_nil hplace.file_after previous with
    ⟨-, res', hres', hgraph⟩ | ⟨-, fault, hfault⟩
  · rw [hres] at hres'
    rw [Except.ok.inj hres', hgraph]
    exact (shows_connect (shows_refreshedGraph hwf hwf' hsound hsound' hplace h) _).freeze
  · rw [hres] at hfault
    exact absurd hfault (by simp)

/-- After a change of one file, a refresh shows the inventory of the changed tree. -/
theorem shows_refresh (hwf : disk.WellFormed) (hwf' : disk'.WellFormed) (hlocal : registry.ReadsOwnFile)
    (hsound : (inventory registry scanner disk root).Sound (absolute root))
    (hsound' : (inventory registry scanner disk' root).Sound (absolute root))
    (hchange : FileChange scanner root path f disk disk') {previous : Graph} {crossing : Relationship → Prop}
    (h : (inventory registry scanner disk root).ShownIn (absolute root) previous crossing)
    {res : BuildResult} (hres : rebuildFile registry scanner disk' previous root path = .ok res) :
    (inventory registry scanner disk' root).ShownIn (absolute root) res.graph fun r =>
      Avoiding (absolute root) (inventory registry scanner disk root) (ofNames f) crossing r ∨
        r ∈ (Link.discover registry.supportedExtensions
            (refreshedGraph registry scanner disk' root previous (ofNames f)).entities (absolute root)).filter
          (refreshedGraph registry scanner disk' root previous (ofNames f)).isNewLink :=
  shows_refresh_of_refreshable hwf hwf' hsound hsound' (.of_change hchange hwf hwf' hlocal) h hres

end

end CodeAtlas.Build
