import CodeAtlas.Proofs.FileTree
import CodeAtlas.Repository

set_option autoImplicit false

/-! # Saves that stop, and what is opened afterwards

The two snapshots of a repository are two files, and a save replaces one after the other. Each file is replaced
in one step, by renaming: whoever reads it finds what it held before or all of what it is to hold. The pair is not:
a save that stops between the two renames leaves the new graph beside the old texts, and opening serves that pair
wherever every old text has an entity in the new graph. `servesOneSave_iff` says exactly when what is opened comes
of one save. -/

namespace CodeAtlas

open CodeAtlas.Path FileTree Schema Search

namespace Snapshot

/-! ## Saves that stop -/

/-- Steps that are carried out up to some step and no further, with the number of those completed. A write that is
    cut off leaves any bytes under its name. -/
inductive StopsAt : FileTree → List SaveStep → Nat → FileTree → Prop where
  | here (disk : FileTree) (steps : List SaveStep) : StopsAt disk steps 0 disk
  | cutOff {disk disk' : FileTree} {path text : String} {bytes : ByteArray} {rest : List SaveStep}
      (write : disk.write path bytes = .ok disk') : StopsAt disk (.write path text :: rest) 0 disk'
  | step {disk disk₁ disk₂ : FileTree} {s : SaveStep} {rest : List SaveStep} {n : Nat}
      (done : s.run disk = .ok disk₁) (later : StopsAt disk₁ rest n disk₂) : StopsAt disk (s :: rest) (n + 1) disk₂

/-- Steps carried out until one fails stop there, and after the last one if none fails. -/
theorem stopsAt_runSteps (steps : List SaveStep) (disk : FileTree) :
    ∃ n, StopsAt disk steps n (runSteps disk steps).1 ∧ n ≤ steps.length ∧
      ((runSteps disk steps).2 = none → n = steps.length) := by
  induction steps generalizing disk with
  | nil => exact ⟨0, .here disk [], Nat.le_refl 0, fun _ => rfl⟩
  | cons s rest ih =>
      rw [runSteps]
      cases hs : s.run disk with
      | error e => exact ⟨0, .here disk _, Nat.zero_le _, fun he => absurd he (by simp)⟩
      | ok disk₁ =>
          obtain ⟨n, hstop, hle, hall⟩ := ih disk₁
          exact ⟨n + 1, .step hs hstop, Nat.succ_le_succ hle, fun he => congrArg Nat.succ (hall he)⟩

/-- Steps that were all carried out did not fail. -/
theorem runSteps_of_stopsAt {steps : List SaveStep} {disk disk₂ : FileTree} (h : StopsAt disk steps steps.length disk₂) :
    runSteps disk steps = (disk₂, none) := by
  induction steps generalizing disk with
  | nil => cases h; rfl
  | cons s rest ih =>
      cases h with
      | step hdone later => rw [runSteps, hdone]; exact ih later

/-- Until its rename a file written under a temporary name is what it was, and then it has its text; no other file
    changes but the temporary one. -/
theorem StopsAt.of_atomicWrite {disk disk₂ : FileTree} {path text : String} {rest : List SaveStep} {n : Nat}
    (h : StopsAt disk (atomicWrite path text ++ rest) n disk₂) :
    (n < 2 ∧ ∀ m, m ≠ absoluteSegments (path ++ ".tmp") → disk₂.fileAt? m = disk.fileAt? m) ∨
      ∃ disk' k, n = k + 2 ∧ StopsAt disk' rest k disk₂ ∧
        disk'.fileAt? (absoluteSegments path) = some text.toUTF8 ∧
        ∀ m, m ≠ absoluteSegments path → m ≠ absoluteSegments (path ++ ".tmp") →
          disk'.fileAt? m = disk.fileAt? m := by
  cases h with
  | here => exact .inl ⟨by omega, fun m _ => rfl⟩
  | cutOff hwrite => exact .inl ⟨by omega, fun m hm => fileAt?_write_of_ne hwrite hm⟩
  | step hwrite later =>
      rw [SaveStep.run] at hwrite
      cases later with
      | here => exact .inl ⟨by omega, fun m hm => fileAt?_write_of_ne hwrite hm⟩
      | @step _ disk' _ _ _ k hrename later =>
          rw [SaveStep.run] at hrename
          refine .inr ⟨disk', k, rfl, later, ?_, fun m hm htmp => ?_⟩
          · rw [fileAt?_rename hrename, fileAt?_write hwrite]
          · rw [fileAt?_rename_of_ne hrename htmp hm, fileAt?_write_of_ne hwrite htmp]

/-! ## What the two files hold -/

section Files

variable {α : Type} [StoredScore α]

theorem isName_graphFile : IsName graphFile ∧ IsName (graphFile ++ ".tmp") := by decide

theorem isName_bm25File : IsName bm25File ∧ IsName (bm25File ++ ".tmp") := by decide

/-- The files of a root's snapshots hold a graph and a lexical index. -/
structure Holds (cacheDir root : String) (disk : FileTree) (graph : GraphSnapshot) (bm25 : Bm25Snapshot α) : Prop where
  graph : disk.read (join (directoryFor cacheDir root) graphFile) = .ok (graphJson graph).render.toUTF8
  bm25 : disk.read (join (directoryFor cacheDir root) bm25File) = .ok (bm25Json bm25).render.toUTF8

/-- Are the files of a root's snapshots read on both disks alike? -/
def SameFiles (cacheDir root : String) (disk disk' : FileTree) : Prop :=
  ∀ file ∈ [graphFile, bm25File],
    disk'.read (join (directoryFor cacheDir root) file) = disk.read (join (directoryFor cacheDir root) file)

theorem sameFiles_refl (cacheDir root : String) (disk : FileTree) : SameFiles cacheDir root disk disk :=
  fun _ _ => rfl

theorem Holds.of_sameFiles {cacheDir root : String} {disk disk' : FileTree} {graph : GraphSnapshot}
    {bm25 : Bm25Snapshot α} (h : Holds cacheDir root disk graph bm25) (hsame : SameFiles cacheDir root disk disk') :
    Holds cacheDir root disk' graph bm25 :=
  ⟨(hsame graphFile (by simp)).trans h.graph, (hsame bm25File (by simp)).trans h.bm25⟩

theorem read_join_iff (disk : FileTree) (dir : String) {name : String} (h : IsName name) (bytes : ByteArray) :
    disk.read (join dir name) = .ok bytes ↔ disk.fileAt? (absoluteSegments dir ++ [name]) = some bytes := by
  rw [read_eq_ok_iff (not_endsWith_slash_join dir h), absoluteSegments_join dir h]

/-- The names that lead to a file of a root's snapshots. -/
def namesOf (cacheDir root file : String) : List String := absoluteSegments (directoryFor cacheDir root) ++ [file]

/-- A file written in a root's snapshot folder under a temporary name: the other names of the folder do not change,
    and its own when the write and the rename are both done. -/
theorem StopsAt.of_atomicWrite_file {cacheDir root file text : String} {rest : List SaveStep} {disk disk₂ : FileTree}
    {n : Nat} (hfile : IsName file ∧ IsName (file ++ ".tmp"))
    (h : StopsAt disk (atomicWrite (join (directoryFor cacheDir root) file) text ++ rest) n disk₂) :
    (n < 2 ∧ ∀ other, other ≠ file ++ ".tmp" →
        disk₂.fileAt? (namesOf cacheDir root other) = disk.fileAt? (namesOf cacheDir root other)) ∨
      ∃ disk' k, n = k + 2 ∧ StopsAt disk' rest k disk₂ ∧
        disk'.fileAt? (namesOf cacheDir root file) = some text.toUTF8 ∧
        ∀ other, other ≠ file → other ≠ file ++ ".tmp" →
          disk'.fileAt? (namesOf cacheDir root other) = disk.fileAt? (namesOf cacheDir root other) := by
  have hnames := absoluteSegments_join (directoryFor cacheDir root) hfile.1
  have htmp : absoluteSegments (join (directoryFor cacheDir root) file ++ ".tmp")
      = namesOf cacheDir root (file ++ ".tmp") := by
    rw [join_append _ hfile.1 hfile.2, absoluteSegments_join _ hfile.2, namesOf]
  have hcases := h.of_atomicWrite
  rw [hnames, htmp] at hcases
  rcases hcases with ⟨hn, hsame⟩ | ⟨disk', k, hn, hrest, htext, hsame⟩
  · exact .inl ⟨hn, fun other hne => hsame _ (by simpa [namesOf] using hne)⟩
  · exact .inr ⟨disk', k, hn, hrest, htext, fun other hne htmp =>
      hsame _ (by simpa [namesOf] using hne) (by simpa [namesOf] using htmp)⟩

/-- A save that stops: its third step replaces the graph and its fifth the texts. Until then the files are those that
    making the folder leaves. -/
theorem files_of_stopsAt {cacheDir root : String} {s : Stored α} {disk disk₂ : FileTree} {n : Nat}
    (h : StopsAt disk (saveSteps cacheDir root s) n disk₂) :
    ∃ disk₁, (disk₁ = disk ∨ disk.makeFolder (directoryFor cacheDir root) = .ok disk₁) ∧
      disk₂.fileAt? (namesOf cacheDir root graphFile)
        = (if n < 3 then disk₁.fileAt? (namesOf cacheDir root graphFile)
          else some (graphJson s.graph).render.toUTF8) ∧
      disk₂.fileAt? (namesOf cacheDir root bm25File)
        = (if n < 5 then disk₁.fileAt? (namesOf cacheDir root bm25File)
          else some (bm25Json s.bm25).render.toUTF8) := by
  cases h with
  | here => exact ⟨disk, .inl rfl, (if_pos (by omega)).symm, (if_pos (by omega)).symm⟩
  | @step _ disk₁ _ _ _ n hfolder later =>
      refine ⟨disk₁, .inr hfolder, ?_⟩
      rcases later.of_atomicWrite_file isName_graphFile with ⟨hn, hsame⟩ | ⟨disk', k, rfl, later, hgraph, hsame⟩
      · -- stopped before the graph is renamed
        rw [if_pos (by omega), if_pos (by omega), hsame graphFile (by decide), hsame bm25File (by decide)]
        exact ⟨rfl, rfl⟩
      · have hbm25 := hsame bm25File (by decide) (by decide)
        rw [← List.append_nil (atomicWrite (join (directoryFor cacheDir root) bm25File) _)] at later
        rcases later.of_atomicWrite_file isName_bm25File with ⟨hn, hsame⟩ | ⟨disk'', k, rfl, later, htext, hsame'⟩
        · -- stopped between the renames: one file is new, the other is not
          rw [if_neg (by omega), if_pos (by omega), hsame graphFile (by decide), hsame bm25File (by decide)]
          exact ⟨hgraph, hbm25⟩
        · cases later with
          | here =>
              rw [if_neg (by omega), if_neg (by omega), hsame' graphFile (by decide) (by decide)]
              exact ⟨hgraph, htext⟩

theorem holds_iff {cacheDir root : String} {disk : FileTree} {graph : GraphSnapshot} {bm25 : Bm25Snapshot α} :
    Holds cacheDir root disk graph bm25 ↔
      disk.fileAt? (namesOf cacheDir root graphFile) = some (graphJson graph).render.toUTF8 ∧
      disk.fileAt? (namesOf cacheDir root bm25File) = some (bm25Json bm25).render.toUTF8 := by
  rw [namesOf, namesOf, ← read_join_iff _ _ isName_graphFile.1, ← read_join_iff _ _ isName_bm25File.1]
  exact ⟨fun h => ⟨h.graph, h.bm25⟩, fun h => ⟨h.1, h.2⟩⟩

/-- Whether it fails or not, a save stops after some step, and after the last one if it succeeds. -/
theorem stopsAt_save (disk : FileTree) (cacheDir root : String) (s : Stored α) :
    ∃ n, StopsAt disk (saveSteps cacheDir root s) n (save disk cacheDir root s).1 ∧ n ≤ 5 ∧
      ∀ dir, (save disk cacheDir root s).2 = .ok dir → n = 5 := by
  obtain ⟨n, hstop, hle, hall⟩ := stopsAt_runSteps (saveSteps cacheDir root s) disk
  unfold save
  cases hrun : runSteps disk (saveSteps cacheDir root s) with
  | mk disk' failure =>
      rw [hrun] at hstop hall
      cases failure with
      | none => exact ⟨n, hstop, hle, fun _ _ => hall rfl⟩
      | some e => exact ⟨n, hstop, hle, fun _ he => absurd he (by simp)⟩

/-- A save that completes leaves its own pair. -/
theorem holds_of_save {cacheDir root dir : String} {s : Stored α} {disk disk₀ : FileTree}
    (h : save disk cacheDir root s = (disk₀, .ok dir)) : Holds cacheDir root disk₀ s.graph s.bm25 := by
  obtain ⟨n, hstop, -, hall⟩ := stopsAt_save disk cacheDir root s
  rw [h] at hstop hall
  obtain rfl := hall dir rfl
  obtain ⟨disk₁, -, hgraph, hbm25⟩ := files_of_stopsAt hstop
  exact holds_iff.2 ⟨hgraph, hbm25⟩

/-- A save that stops leaves the graph of the earlier save or its own, and so with the texts. -/
theorem Holds.of_stopsAt {cacheDir root : String} {graph : GraphSnapshot} {bm25 : Bm25Snapshot α} {s : Stored α}
    {disk disk₂ : FileTree} {n : Nat} (h : Holds cacheDir root disk graph bm25)
    (hstop : StopsAt disk (saveSteps cacheDir root s) n disk₂) :
    Holds cacheDir root disk₂ (if n < 3 then graph else s.graph) (if n < 5 then bm25 else s.bm25) := by
  obtain ⟨hgraph, hbm25⟩ := holds_iff.1 h
  obtain ⟨disk₁, hfolder, hgraph₂, hbm25₂⟩ := files_of_stopsAt hstop
  -- the folder of earlier snapshots is there already
  have hself : disk.makeFolder (directoryFor cacheDir root) = .ok disk := by
    rw [namesOf, fileAt?_eq_some_iff] at hgraph
    refine makeFolder_eq_self (isFolderAt_of_append (m := [graphFile]) (by simp) ?_)
    rw [hgraph]
    rfl
  obtain rfl : disk₁ = disk := hfolder.elim id fun hmade => Except.ok.inj (hmade.symm.trans hself)
  rw [holds_iff, hgraph₂, hbm25₂, hgraph, hbm25]
  constructor <;> split <;> rfl

end Files

/-! ## What is read -/

/-- What a snapshot file of a text is read as. -/
def readAs {α : Type} (shape : Json → Checked α) (text : String) : Option α :=
  match Json.parse? (Text.decodeLossy text.toUTF8) with
  | none => none
  | some v =>
    match shape v with
    | .valid a => some a
    | .invalid _ => none

theorem toOption_readChecked {α : Type} {disk : FileTree} {dir file text : String} (shape : Json → Checked α)
    (h : disk.read (join dir file) = .ok text.toUTF8) :
    (readChecked disk dir file shape).toOption = readAs shape text := by
  simp only [readChecked, readAs, h]
  cases Json.parse? (Text.decodeLossy text.toUTF8) with
  | none => rfl
  | some v => cases hshape : shape v <;> simp only [hshape] <;> rfl

theorem toOption_load {α : Type} [StoredScore α] {cacheDir root : String} {disk : FileTree} {graph : GraphSnapshot}
    {bm25 : Bm25Snapshot α} (h : Holds cacheDir root disk graph bm25) :
    (load (α := α) disk cacheDir root).toOption = (do
      let g ← readAs graphShape (graphJson graph).render
      let t ← readAs bm25Shape (bm25Json bm25).render
      return ⟨g, t⟩) := by
  rw [← toOption_readChecked graphShape h.graph, ← toOption_readChecked bm25Shape h.bm25, load]
  cases readChecked disk (directoryFor cacheDir root) graphFile graphShape with
  | error e => rfl
  | ok g =>
      cases readChecked (α := Bm25Snapshot α) disk (directoryFor cacheDir root) bm25File bm25Shape with
      | error e => rfl
      | ok t => rfl

end Snapshot

namespace Repository

open Snapshot

/-- All that is asked of two snapshots that are valid by themselves: every text has an entity in the graph. -/
theorem restore_eq_ok_iff {s : Stored Float} {config : Config} {state : IndexState} :
    IndexState.restore s config = .ok state ↔
      ∃ g, Graph.ofSnapshot s.graph = .ok g ∧ (∀ d ∈ s.bm25.documents, g.hasEntity d.id = true) ∧
        state = .assemble g.freeze (Bm25.ofSnapshot s.bm25) config none := by
  unfold IndexState.restore
  cases Graph.ofSnapshot s.graph with
  | error f => simp
  | ok g =>
      cases hd : IndexState.orphan? g s.bm25.documents with
      | some d =>
          have horphan : g.hasEntity d.id = false := by simpa using List.find?_some hd
          simp only [hd, Except.ok.injEq, exists_eq_left', reduceCtorEq, false_iff, not_and]
          exact fun hall => absurd (hall d (List.mem_of_find?_eq_some hd)) (by simp [horphan])
      | none =>
          have hall : ∀ d ∈ s.bm25.documents, g.hasEntity d.id = true := fun d hd' => by
            simpa using List.find?_eq_none.1 hd d hd'
          simp only [hd, Except.ok.injEq, exists_eq_left']
          exact ⟨fun h => ⟨hall, h.symm⟩, fun h => h.2.symm⟩

/-- What is restored has no report. -/
theorem report_of_restore {s : Stored Float} {config : Config} {state : IndexState}
    (h : IndexState.restore s config = .ok state) : state.report = none := by
  obtain ⟨_, -, -, rfl⟩ := restore_eq_ok_iff.1 h
  rfl

theorem report_of_cachedState? {disk : FileTree} {config : Config} {root : String} {state : IndexState}
    (h : cachedState? disk config root = some state) : state.report = none := by
  unfold cachedState? at h
  split at h
  · exact absurd h (by simp)
  · next s _ =>
      split at h
      · next restored hr => exact Option.some.inj h ▸ report_of_restore hr
      · exact absurd h (by simp)

/-- The state that a graph and a lexical index are served as once they were written and read back; none if what is
    read does not pass. -/
def restored (config : Config) (graph : GraphSnapshot) (bm25 : Bm25Snapshot Float) : Option IndexState := do
  let g ← readAs graphShape (graphJson graph).render
  let t ← readAs bm25Shape (bm25Json bm25).render
  (IndexState.restore ⟨g, t⟩ config).toOption

theorem report_of_restored {config : Config} {graph : GraphSnapshot} {bm25 : Bm25Snapshot Float} {state : IndexState}
    (h : restored config graph bm25 = some state) : state.report = none := by
  simp only [restored, Option.bind_eq_bind, Option.bind_eq_some_iff] at h
  obtain ⟨g, -, t, -, hstate⟩ := h
  cases hr : IndexState.restore ⟨g, t⟩ config with
  | error e => rw [hr] at hstate; cases hstate
  | ok s =>
      rw [hr] at hstate
      obtain rfl : s = state := Option.some.inj hstate
      exact report_of_restore hr

/-- What is served from a disk is what its two files are read as. -/
theorem cachedState?_eq {config : Config} {root : String} {disk : FileTree} {graph : GraphSnapshot}
    {bm25 : Bm25Snapshot Float} (h : Holds config.cacheDir root disk graph bm25) :
    cachedState? disk config (absolute root) = restored config graph bm25 := by
  have hkey : load (α := Float) disk config.cacheDir (absolute root) = load disk config.cacheDir root := by
    rw [load, load, directoryFor, directoryFor, repositoryKey, repositoryKey, absolute_absolute]
  have hstate : cachedState? disk config (absolute root)
      = (load (α := Float) disk config.cacheDir root).toOption.bind fun s =>
          (IndexState.restore s config).toOption := by
    rw [cachedState?, hkey]
    cases load (α := Float) disk config.cacheDir root with
    | error e => rfl
    | ok s => cases hr : IndexState.restore s config <;> simp only [Except.toOption, Option.bind_some, hr]
  rw [hstate, toOption_load h]
  simp only [restored, Option.bind_eq_bind, Option.pure_def, Option.bind_assoc, Option.bind_some]

/-- Does opening use a configuration, the caller's or the repository's own? -/
def Uses (o : OpenOptions) (disk : FileTree) (root : String) (config : Config) : Prop :=
  match o.config with
  | some c => c = config
  | none => Config.load disk o.home (absolute root) [] = .ok config

theorem openRoot_eq {o : OpenOptions} {config : Config} {disk : FileTree} {root : String}
    (h : Uses o disk root config) (force : Bool) :
    openRoot o disk root force = openWith o config disk (absolute root) force := by
  unfold Uses at h
  unfold openRoot
  cases ho : o.config with
  | some c =>
      rw [ho] at h
      obtain rfl : c = config := h
      rfl
  | none =>
      rw [ho] at h
      simp only [h]

/-- Do the patterns of a configuration compile, so that there is a builder? -/
def Opens (o : OpenOptions) (config : Config) : Prop :=
  ∃ builder, Builder.ofConfig o.glob o.registry config.graph = .ok builder

/-- The answer of an opening that serves a state from the snapshots. -/
def served (o : OpenOptions) (config : Config) (disk : FileTree) (root : String) (state : IndexState) :
    FileTree × Except Fault Repository :=
  (disk, (Builder.ofConfig o.glob o.registry config.graph).map fun builder => ⟨absolute root, config, builder, state⟩)

/-- What is rebuilt has a report, and what is served from snapshots has none. -/
theorem served_ne_rebuilt {o : OpenOptions} {config : Config} {disk : FileTree} {root : String}
    (huses : Uses o disk root config) (hopens : Opens o config) {state : IndexState} (h : state.report = none) :
    served o config disk root state ≠ openRoot o disk root true := by
  obtain ⟨builder₀, hbuilder⟩ := hopens
  rw [openRoot_eq huses, served, openWith, hbuilder]
  simp only [Except.map, if_true, rebuild, update]
  intro he
  cases hbuild : builder₀.build disk (absolute root) with
  | mk builder answer =>
      rw [hbuild] at he
      cases answer with
      | error f => cases congrArg Prod.snd he
      | ok result =>
          obtain ⟨-, hrepository⟩ := Prod.mk.inj he
          have hreport : state.report = some result.report :=
            congrArg (fun r : Repository => r.state.report) (Except.ok.inj hrepository)
          exact absurd (h.symm.trans hreport) (by simp)

/-- Without a builder nothing is opened, from the snapshots or anew. -/
theorem openRoot_of_not_opens {o : OpenOptions} {config : Config} {disk : FileTree} {root : String}
    (huses : Uses o disk root config) (h : ¬ Opens o config) :
    openRoot o disk root false = openRoot o disk root true := by
  rw [openRoot_eq huses, openRoot_eq huses, openWith, openWith]
  cases hbuilder : Builder.ofConfig o.glob o.registry config.graph with
  | error f => rfl
  | ok builder => exact absurd ⟨builder, hbuilder⟩ h

/-- From two files, what is opened is what they are read as, and a rebuilt repository if that does not pass. -/
theorem openRoot_of_holds {o : OpenOptions} {config : Config} {disk : FileTree} {root : String}
    (huses : Uses o disk root config) {graph : GraphSnapshot} {bm25 : Bm25Snapshot Float}
    (h : Holds config.cacheDir root disk graph bm25) :
    openRoot o disk root false = match restored config graph bm25 with
      | some state => served o config disk root state
      | none => openRoot o disk root true := by
  rw [openRoot_eq huses, openRoot_eq huses, openWith, openWith, cachedState?_eq h]
  cases hbuilder : Builder.ofConfig o.glob o.registry config.graph <;> cases restored config graph bm25 <;>
    simp [served, hbuilder, Except.map]

/-! ## A save over the snapshots of an empty repository -/

/-- A disk whose snapshot folder of `/repo` has the given entries. -/
def cacheDisk (entries : List (String × FileTree)) : FileTree :=
  .folder 0 [("cache", .folder 0 [("816fc349d3faebf8", .folder 0 entries)])]

/-- The configuration of the snapshot folders in `/cache`. -/
def cacheConfig : Config := ⟨Config.defaultGraph, Config.defaultRetrieval, "/cache"⟩

/-- Snapshots of some entities and of their names. -/
def storedOf (entities : List Entity) : Stored Float :=
  ⟨⟨entities, []⟩, ⟨⟨1.2, 0.75⟩, entities.map fun e => ⟨e.id, e.name⟩, entities.map fun _ => 1, 1, [], []⟩⟩

/-- A file that is added. -/
def addedFile : Entity := Scan.fileEntity "a.py" 1

/-- The file of a graph snapshot, and that of a lexical one. -/
def graphEntry (name : String) (s : Stored Float) : String × FileTree :=
  (name, .file (graphJson s.graph).render.toUTF8)

def bm25Entry (name : String) (s : Stored Float) : String × FileTree :=
  (name, .file (bm25Json s.bm25).render.toUTF8)

theorem saveSteps_repo (s : Stored Float) :
    saveSteps "/cache" "/repo" s =
      .makeFolder "/cache/816fc349d3faebf8"
        :: atomicWrite "/cache/816fc349d3faebf8/graph.json" (graphJson s.graph).render
        ++ atomicWrite "/cache/816fc349d3faebf8/bm25.json" (bm25Json s.bm25).render := by
  have hdir : directoryFor "/cache" "/repo" = "/cache/816fc349d3faebf8" := by decide +kernel
  have hgraph : join "/cache/816fc349d3faebf8" graphFile = "/cache/816fc349d3faebf8/graph.json" := by decide +kernel
  have hbm25 : join "/cache/816fc349d3faebf8" bm25File = "/cache/816fc349d3faebf8/bm25.json" := by decide +kernel
  simp only [saveSteps, hdir, hgraph, hbm25]

/-- The first save of `/repo` completes. -/
theorem save_cacheDisk (s : Stored Float) :
    Snapshot.save (cacheDisk []) "/cache" "/repo" s
      = (cacheDisk [graphEntry "graph.json" s, bm25Entry "bm25.json" s], .ok (directoryFor "/cache" "/repo")) := by
  have hstop : StopsAt (cacheDisk []) (saveSteps "/cache" "/repo" s) 5
      (cacheDisk [graphEntry "graph.json" s, bm25Entry "bm25.json" s]) := by
    have htexts : StopsAt (cacheDisk [graphEntry "graph.json" s])
        (atomicWrite "/cache/816fc349d3faebf8/bm25.json" (bm25Json s.bm25).render) 2
        (cacheDisk [graphEntry "graph.json" s, bm25Entry "bm25.json" s]) :=
      .step rfl (.step rfl (.here _ _))
    rw [saveSteps_repo]
    exact .step rfl (.step rfl (.step rfl htexts))
  rw [Snapshot.save, runSteps_of_stopsAt hstop]

/-- A later save that stops between its renames has replaced the graph only. -/
theorem stopsAt_cacheDisk (earlier later : Stored Float) :
    StopsAt (cacheDisk [graphEntry "graph.json" earlier, bm25Entry "bm25.json" earlier])
      (saveSteps "/cache" "/repo" later) 3
      (cacheDisk [graphEntry "graph.json" later, bm25Entry "bm25.json" earlier]) := by
  rw [saveSteps_repo]
  exact .step rfl (.step rfl (.step rfl (.here _ _)))

/-! ## One save or two -/

/-- Is what is opened rebuilt, or served from the graph and the texts of one of two saves? -/
def ServesOneSave (o : OpenOptions) (config : Config) (disk : FileTree) (root : String)
    (earlier later : Stored Float) : Prop :=
  openRoot o disk root false = openRoot o disk root true ∨
    ∃ s state, (s = earlier ∨ s = later) ∧ restored config s.graph s.bm25 = some state ∧
      openRoot o disk root false = served o config disk root state

theorem servesOneSave_iff_of_holds {o : OpenOptions} {config : Config} {disk : FileTree} {root : String}
    (huses : Uses o disk root config) {graph : GraphSnapshot} {bm25 : Bm25Snapshot Float}
    (h : Holds config.cacheDir root disk graph bm25) (earlier later : Stored Float) :
    ServesOneSave o config disk root earlier later ↔
      (Opens o config → ∀ state, restored config graph bm25 = some state →
        restored config earlier.graph earlier.bm25 = some state ∨
          restored config later.graph later.bm25 = some state) := by
  have hopen := openRoot_of_holds huses h
  unfold ServesOneSave
  by_cases hopens : Opens o config
  case neg => exact ⟨fun _ ho => absurd ho hopens, fun _ => .inl (openRoot_of_not_opens huses hopens)⟩
  rw [imp_iff_right hopens]
  cases hstate : restored config graph bm25 with
  | none =>
      rw [hstate] at hopen
      exact ⟨fun _ state he => absurd he (by simp), fun _ => .inl hopen⟩
  | some state =>
      rw [hstate] at hopen
      constructor
      · rintro (hrebuilt | ⟨s, state', hs, hrestored, hserved⟩) _ ⟨⟩
        · exact absurd (hopen.symm.trans hrebuilt) (served_ne_rebuilt huses hopens (report_of_restored hstate))
        · have hsame : state' = state := by
            obtain ⟨builder, hbuilder⟩ := hopens
            have hanswer := (Prod.mk.inj (hserved.symm.trans hopen)).2
            rw [hbuilder] at hanswer
            exact congrArg Repository.state (Except.ok.inj hanswer)
          rcases hs with rfl | rfl
          · exact .inl (hsame ▸ hrestored)
          · exact .inr (hsame ▸ hrestored)
      · intro hone
        rcases hone state rfl with he | he
        · exact .inr ⟨earlier, state, .inl rfl, he, hopen⟩
        · exact .inr ⟨later, state, .inr rfl, he, hopen⟩

/-- After a save that completed and a later one that stopped, what is opened comes of one save, unless the later one
    stopped between its two renames and its graph passes with the earlier texts. Then it comes of both, if anything is
    opened. -/
theorem servesOneSave_iff {o : OpenOptions} {config : Config} {root dir : String} {earlier later : Stored Float}
    {disk disk₀ disk₁ disk₂ disk₃ : FileTree} {n : Nat}
    (hearlier : Snapshot.save disk config.cacheDir root earlier = (disk₀, .ok dir))
    (hmeanwhile : SameFiles config.cacheDir root disk₀ disk₁)
    (hlater : StopsAt disk₁ (saveSteps config.cacheDir root later) n disk₂)
    (hthen : SameFiles config.cacheDir root disk₂ disk₃) (huses : Uses o disk₃ root config) :
    ServesOneSave o config disk₃ root earlier later ↔
      (n = 3 ∨ n = 4 → Opens o config → ∀ state, restored config later.graph earlier.bm25 = some state →
        restored config earlier.graph earlier.bm25 = some state ∨
          restored config later.graph later.bm25 = some state) := by
  have hholds := (((holds_of_save hearlier).of_sameFiles hmeanwhile).of_stopsAt hlater).of_sameFiles hthen
  rw [servesOneSave_iff_of_holds huses hholds]
  by_cases hgraph : n < 3
  · -- nothing is replaced yet
    rw [if_pos hgraph, if_pos (by omega)]
    exact ⟨fun _ hn => by omega, fun _ _ state he => .inl he⟩
  · by_cases hbm25 : n < 5
    · rw [if_neg hgraph, if_pos hbm25]
      exact ⟨fun hone _ => hone, fun hone => hone (by omega)⟩
    · -- both are replaced
      rw [if_neg hgraph, if_neg hbm25]
      exact ⟨fun _ hn => by omega, fun _ _ state he => .inr he⟩

/-- The standard patterns compile. -/
theorem opens_cacheConfig : Opens ⟨"/home", some cacheConfig, .empty, Glob.matcher⟩ cacheConfig := by
  have hskip : (Scan.compileAll Glob.matcher Config.defaultGraph.skipPatterns).toOption.isSome = true := by
    decide +kernel
  cases hc : Scan.compileAll Glob.matcher Config.defaultGraph.skipPatterns with
  | error f => rw [hc] at hskip; cases hskip
  | ok skip =>
      let scanner : Scan.Scanner :=
        ⟨.ofConfig cacheConfig.graph Registry.empty.supportedExtensions, skip, Glob.matcher⟩
      refine ⟨⟨.empty, scanner, .idle⟩, ?_⟩
      simp only [Builder.ofConfig, Scan.Scanner.ofOptions, Scan.Options.ofConfig, cacheConfig, hc]
      rfl

/-- A file is added to an empty repository, and the save of the larger graph stops after its rename: if that graph
    and the empty texts are valid, they are served together. -/
theorem servesOneSave_iff_between_renames :
    ServesOneSave ⟨"/home", some cacheConfig, .empty, Glob.matcher⟩ cacheConfig
        (cacheDisk [graphEntry "graph.json" (storedOf [addedFile]), bm25Entry "bm25.json" (storedOf [])])
        "/repo" (storedOf []) (storedOf [addedFile]) ↔
      ∀ state, restored cacheConfig (storedOf [addedFile]).graph (storedOf []).bm25 = some state →
        restored cacheConfig (storedOf []).graph (storedOf []).bm25 = some state ∨
          restored cacheConfig (storedOf [addedFile]).graph (storedOf [addedFile]).bm25 = some state := by
  have hearlier : Snapshot.save (cacheDisk []) cacheConfig.cacheDir "/repo" (storedOf []) = _ :=
    save_cacheDisk (storedOf [])
  have hlater : StopsAt _ (saveSteps cacheConfig.cacheDir "/repo" (storedOf [addedFile])) 3 _ :=
    stopsAt_cacheDisk (storedOf []) (storedOf [addedFile])
  have huses : Uses ⟨"/home", some cacheConfig, .empty, Glob.matcher⟩
      (cacheDisk [graphEntry "graph.json" (storedOf [addedFile]), bm25Entry "bm25.json" (storedOf [])])
      "/repo" cacheConfig := rfl
  have hone := servesOneSave_iff hearlier (sameFiles_refl _ _ _) hlater (sameFiles_refl _ _ _) huses
  exact hone.trans ⟨fun h => h (.inl rfl) opens_cacheConfig, fun h _ _ => h⟩

end Repository

end CodeAtlas
