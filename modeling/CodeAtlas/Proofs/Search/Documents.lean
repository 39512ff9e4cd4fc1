import CodeAtlas.Proofs.Build.RefreshRun
import CodeAtlas.Proofs.Graph.Stored
import CodeAtlas.Repository

set_option autoImplicit false

/-! # Documents of a tree

The document of an entity is made of the entity and, for a file, of the bytes that stand at its path. A refresh takes
the texts of entities outside the refreshed file over from the index before. That is the text they would get now,
`textIndexFor_storedText`: an entity of the new graph that has a text in the old index under its id is an entity of
the old graph, for ids of different paths differ and nothing but the file and the folders above it changed; and the
bytes of other files are those from before. -/

namespace CodeAtlas

open CodeAtlas.Scan CodeAtlas.Path CodeAtlas.Graph

namespace Search

variable {disk disk' : FileTree} {root : String} {maxLines : Int}

theorem id_document (e : Entity) : (document disk root maxLines e).id = e.id := by
  unfold document
  split <;> rfl

/-- The document of an entity depends on the bytes at its path, if it is a file. -/
theorem document_congr {e : Entity} (hread : e.kind = .file → ∀ bytes,
    disk'.read (join root e.path) = .ok bytes ↔ disk.read (join root e.path) = .ok bytes) :
    document disk' root maxLines e = document disk root maxLines e := by
  unfold document
  split
  · next hkind =>
      cases hr : disk.read (join root e.path) with
      | ok bytes => rw [(hread hkind bytes).2 hr]
      | error f =>
          cases hr' : disk'.read (join root e.path) with
          | error f' => rfl
          | ok bytes =>
              rw [(hread hkind bytes).1 hr'] at hr
              exact absurd hr (by simp)
  · rfl

theorem buildDocuments_none (entities : List Entity) :
    buildDocuments disk root maxLines (fun _ => none) entities = entities.map (document disk root maxLines) := rfl

/-- Where the texts that are kept are those that would be made, nothing shows that they were kept. -/
theorem buildDocuments_of_kept {reuse : Entity → Option String} {entities : List Entity}
    (hkept : ∀ e ∈ entities, ∀ text, reuse e = some text → text = (document disk root maxLines e).text) :
    buildDocuments disk root maxLines reuse entities = entities.map (document disk root maxLines) := by
  refine List.map_congr_left fun e he => ?_
  cases hreuse : reuse e with
  | none => rfl
  | some text =>
      rw [hkept e he text hreuse, ← @id_document disk root maxLines e]

end Search

namespace Repository

open Search

/-- A stored text is that of an entity of the graph, elsewhere and of the same id. -/
theorem storedText_eq_some {config : Config} {disk : FileTree} {root relative text : String} {g : Graph} {e : Entity}
    (h : storedText (textIndexFor config disk root (fun _ => none) g) relative e = some text) :
    e.path ≠ relative ∧ ∃ e₀ ∈ g.entities, e₀.id = e.id ∧
      text = (document disk root config.retrieval.fileContentLines e₀).text := by
  unfold storedText at h
  split at h
  · exact absurd h (by simp)
  · next hpath =>
      refine ⟨hpath, ?_⟩
      simp only [textIndexFor, buildDocuments_none, Bm25.document?, Bm25.requireCorpus, Bm25.build, Except.map] at h
      split at h
      · next d hd =>
          have hfind := Except.ok.inj hd
          have hid : d.id = e.id := by simpa using List.find?_some hfind
          have hmem := List.mem_of_find?_eq_some hfind
          simp only [Corpus.ofDocuments, List.mem_reverse, List.mem_map] at hmem
          obtain ⟨e₀, he₀, rfl⟩ := hmem
          rw [id_document] at hid
          exact ⟨e₀, (Entity.sortById_perm g.entities).mem_iff.1 he₀, hid, (Option.some.inj h).symm⟩
      · exact absurd h (by simp)

end Repository

namespace Build

variable {registry : Registry} {scanner : Scanner} {disk disk' : FileTree} {root path : String} {f : List String}

/-- Where entities are located, something is found. -/
theorem Inventory.found?_of_mem_located {I : Inventory} {p : String} {e : Entity} (he : e ∈ I.located root p) :
    ∃ size, I.found? p = some size := by
  cases hfound : I.found? p with
  | none => simp [Inventory.located, hfound] at he
  | some size => exact ⟨size, rfl⟩

/-- Elsewhere, the same is located where the same is found. -/
theorem Inventory.DifferAt.located_eq {I I' : Inventory} (h : I.DifferAt I' f) {p : String} (hp : p ≠ ofNames f)
    (hfound : I'.found? p = I.found? p) : I'.located root p = I.located root p := by
  unfold Inventory.located
  rw [hfound]
  cases hsize : I.found? p with
  | none => rfl
  | some size =>
      cases size with
      | none => rfl
      | some n => simp only [h.output_eq p n hp (hfound.trans hsize)]

/-- An entity that is located elsewhere after a change was there before, if its id was. -/
theorem eq_of_id_eq_of_change (hbefore : Readable registry scanner root disk)
    (hafter : Readable registry scanner root disk') (hlocal : registry.ReadsOwnFile)
    (hchange : FileChange scanner root path f disk disk') {g : Graph} {crossing : Relationship → Prop}
    (hshown : (inventory registry scanner disk root).ShownIn (absolute root) g crossing) {e e₀ : Entity} {p : String}
    (he : e ∈ (inventory registry scanner disk' root).located (absolute root) p) (hp : p ≠ ofNames f)
    (he₀ : e₀ ∈ g.entities) (hid : e₀.id = e.id) : e₀ = e := by
  have hdiffer := hchange.differ hbefore.wf hafter.wf hlocal
  have hat₀ := (hshown.mem_entities_iff e₀).1 he₀
  by_cases hfound : (inventory registry scanner disk' root).found? p = (inventory registry scanner disk root).found? p
  · rw [hdiffer.located_eq hp hfound] at he
    exact hshown.valid.entity_ext he₀ (hshown.mem_of_mem_at he) hid
  · exfalso
    -- a folder that was not there lies above the file, which was not there either
    have hnew : (inventory registry scanner disk' root).found? p = some none := by
      by_contra hfolder
      exact hfound (hdiffer.found?_eq hp fun h => absurd h hfolder)
    have hmissing : (inventory registry scanner disk root).found? p ≠ some none := fun h => hfound (hnew.trans h.symm)
    obtain ⟨⟨q, hqf, rfl⟩, -⟩ := (hdiffer.folders_new p hnew).resolve_left hmissing
    obtain ⟨size, hsize⟩ := Inventory.found?_of_mem_located hat₀
    by_cases hpath : e₀.path = ofNames f
    · rw [hpath] at hsize
      exact hmissing (found?_above hbefore.wf hchange.names hqf (fun hq => hp (by rw [hq])) hsize)
    · -- what had the id is still there, so it has the folder's path
      have hkept := (hdiffer.found?_of_without (Inventory.without_found?_eq_some_iff.2 ⟨hpath, hsize⟩)).2
      rw [← hdiffer.located_eq hpath (hkept.trans hsize.symm)] at hat₀
      have hsame := Inventory.path_eq_of_id_eq hafter.sound hat₀ he hid
      rw [hsame] at hkept hsize
      exact hfound (hkept.trans hsize.symm)

/-- An entity of kind file is located at the names of a file. -/
theorem names_of_located_file (hwf : disk.WellFormed) {e : Entity} {p : String}
    (he : e ∈ (inventory registry scanner disk root).located (absolute root) p) (hkind : e.kind = .file) :
    ∃ m, m ≠ [] ∧ AllNames m ∧ p = ofNames m := by
  obtain ⟨size, hfound⟩ := Inventory.found?_of_mem_located he
  obtain ⟨m, hm, rfl⟩ := names_of_found? hwf hfound
  refine ⟨m, ?_, hm, rfl⟩
  rintro rfl
  -- at the root there is a folder only
  have hroot : (inventory registry scanner disk root).found? (ofNames []) = some none := @found?_root scanner disk root
  simp only [Inventory.located, hroot, List.mem_singleton] at he
  rw [he] at hkind
  exact absurd hkind (by simp [directoryEntity, Entity.create])

/-- Where the same file stands at the path of an entity, it has the same document. -/
theorem document_eq_of_fileAt? (hwf : disk.WellFormed) {e : Entity}
    (he : e ∈ (inventory registry scanner disk root).located (absolute root) e.path)
    (hsame : ∀ m, e.path = ofNames m →
      disk'.fileAt? (absoluteSegments root ++ m) = disk.fileAt? (absoluteSegments root ++ m))
    (maxLines : Int) :
    Search.document disk' (absolute root) maxLines e = Search.document disk (absolute root) maxLines e := by
  refine Search.document_congr fun hkind bytes => ?_
  obtain ⟨m, hne, hm, hpath⟩ := names_of_located_file hwf he hkind
  rw [hpath, read_join hm hne, read_join hm hne, hsame m hpath]

/-- **Kept texts are those that would be made.** After a refresh, the lexical index with the texts from before is the
    one that is made of the tree as it stands. -/
theorem textIndexFor_storedText (hbefore : Readable registry scanner root disk)
    (hafter : Readable registry scanner root disk') (hlocal : registry.ReadsOwnFile)
    (hchange : FileChange scanner root path f disk disk') {g g' : Graph} {crossing crossing' : Relationship → Prop}
    (hshown : (inventory registry scanner disk root).ShownIn (absolute root) g crossing)
    (hshown' : (inventory registry scanner disk' root).ShownIn (absolute root) g' crossing') (config : Config) :
    Repository.textIndexFor config disk' (absolute root)
        (Repository.storedText (Repository.textIndexFor config disk (absolute root) (fun _ => none) g) (ofNames f)) g'
      = Repository.textIndexFor config disk' (absolute root) (fun _ => none) g' := by
  refine congrArg (Search.Bm25.build _) (Search.buildDocuments_of_kept fun e he text htext => ?_)
  obtain ⟨hpath, e₀, he₀, hid, rfl⟩ := Repository.storedText_eq_some htext
  have hat := (hshown'.mem_entities_iff e).1 ((Entity.sortById_perm g'.entities).mem_iff.1 he)
  obtain rfl := eq_of_id_eq_of_change hbefore hafter hlocal hchange hshown hat hpath he₀ hid
  refine congrArg Search.Document.text (document_eq_of_fileAt? hafter.wf hat (fun m hm => ?_) _)
  exact (hchange.others_eq m fun hmf => hpath (hm.trans (by rw [hmf]))).symm

end Build

end CodeAtlas
