import CodeAtlas.Proofs.Reindexing
import CodeAtlas.Service

set_option autoImplicit false

/-! # Runs of calls

A service answers one call after another while the disk changes between them. Whatever a call answers, it leaves the
builder of the current repository at rest, so that all that a failed reindex can leave behind is the phase at which
that builder rests. Nothing is answered from the phase: services that are `Alike` but for it answer every run of calls
alike (`Alike.run`), and a run with a failed reindex in it goes on as it would without
(`run_of_failed_reindex`). -/

namespace CodeAtlas

/-! ## Phases at rest -/

namespace Builder

/-- The builder at rest before its first build. -/
def idled (b : Builder) : Builder := { b with phase := .idle }

/-- From rest, a run does not depend on the phase. -/
theorem run_idled {b : Builder} (h : b.isBusy = false) (root : String) (body : Except Fault BuildResult) :
    b.idled.run root body = b.run root body := by
  rw [run_of_free h, run_of_free (show b.idled.isBusy = false from rfl)]
  rfl

end Builder

namespace Repository

/-- The repository with its builder at rest before its first build. -/
def idled (r : Repository) : Repository := { r with builder := r.builder.idled }

variable {r : Repository}

/-- The end of an update sets the builder. -/
theorem update_idled (disk : FileTree) (reuse : Entity → Option String) (answer : Builder × Except Fault BuildResult) :
    r.idled.update disk reuse answer = r.update disk reuse answer := by
  simp only [update, idled]

theorem rebuild_idled (h : r.builder.isBusy = false) (disk : FileTree) : r.idled.rebuild disk = r.rebuild disk := by
  have hrun : r.idled.builder.build disk r.idled.rootPath = r.builder.build disk r.rootPath :=
    Builder.run_idled h r.rootPath _
  rw [rebuild, hrun, update_idled, rebuild]

theorem refreshFile_idled (h : r.builder.isBusy = false) (disk : FileTree) (path : String) :
    r.idled.refreshFile disk path = r.refreshFile disk path := by
  have hrun : r.idled.builder.rebuildFile disk r.idled.state.graph r.idled.rootPath (r.idled.relativePath path)
      = r.builder.rebuildFile disk r.state.graph r.rootPath (r.relativePath path) :=
    Builder.run_idled h r.rootPath _
  simp only [refreshFile, hrun, update_idled]
  rfl

/-- An update leaves the builder at rest. If it fails, that is all it does. -/
theorem update_rests (h : r.builder.isBusy = false) (disk : FileTree) (reuse : Entity → Option String)
    (body : Except Fault BuildResult) :
    (r.update disk reuse (r.builder.run r.rootPath body)).repository.builder.isBusy = false ∧
      ∀ fault, (r.update disk reuse (r.builder.run r.rootPath body)).result = .error fault →
        (r.update disk reuse (r.builder.run r.rootPath body)).repository.idled = r.idled ∧
          (r.update disk reuse (r.builder.run r.rootPath body)).disk = disk := by
  rw [Builder.run_of_free h]
  cases body with
  | error fault => exact ⟨rfl, fun _ _ => ⟨rfl, rfl⟩⟩
  | ok res => exact ⟨rfl, fun fault hfault => absurd hfault (by simp [update])⟩

theorem rebuild_rests (h : r.builder.isBusy = false) (disk : FileTree) :
    (r.rebuild disk).repository.builder.isBusy = false ∧ ∀ fault, (r.rebuild disk).result = .error fault →
      (r.rebuild disk).repository.idled = r.idled ∧ (r.rebuild disk).disk = disk :=
  update_rests h disk _ _

theorem refreshFile_rests (h : r.builder.isBusy = false) (disk : FileTree) (path : String) :
    (r.refreshFile disk path).repository.builder.isBusy = false ∧
      ∀ fault, (r.refreshFile disk path).result = .error fault →
        (r.refreshFile disk path).repository.idled = r.idled ∧ (r.refreshFile disk path).disk = disk :=
  update_rests h disk _ _

theorem rootPath_rebuild (h : r.builder.isBusy = false) (disk : FileTree) :
    (r.rebuild disk).repository.rootPath = r.rootPath := by
  have hrun := Builder.run_of_free h r.rootPath (Build.build r.builder.registry r.builder.scanner disk r.rootPath)
  rw [rebuild, Builder.build, hrun]
  cases Build.build r.builder.registry r.builder.scanner disk r.rootPath <;> rfl

/-- What is opened is the root, with its builder at rest; an opening that fails writes nothing. -/
def OpensOrLeaves (root : String) (disk : FileTree) (opened : FileTree × Except Fault Repository) : Prop :=
  match opened.2 with
  | .ok r => r.rootPath = Path.absolute root ∧ r.builder.isBusy = false
  | .error _ => opened.1 = disk

theorem openWith_opensOrLeaves (o : OpenOptions) (config : Config) (disk : FileTree) (root : String) (force : Bool) :
    OpensOrLeaves root disk (openWith o config disk (Path.absolute root) force) := by
  unfold openWith
  cases hbuilder : Builder.ofConfig o.glob o.registry config.graph with
  | error fault => exact rfl
  | ok builder =>
      have hbuilderFree : builder.isBusy = false := (Builder.of_ofConfig hbuilder).2
      obtain ⟨r, hr⟩ : ∃ r : Repository, r = ⟨Path.absolute root, config, builder, .empty config⟩ := ⟨_, rfl⟩
      have hroot : r.rootPath = Path.absolute root := by rw [hr]
      have hfree : r.builder.isBusy = false := by rw [hr]; exact hbuilderFree
      cases hcached : if force = true then none else cachedState? disk config (Path.absolute root) with
      | some state => exact ⟨rfl, hbuilderFree⟩
      | none =>
          have hrebuild := rebuild_rests hfree disk
          simp only [← hr]
          cases hresult : (r.rebuild disk).result with
          | ok report => exact ⟨(rootPath_rebuild hfree disk).trans hroot, hrebuild.1⟩
          | error fault => exact (hrebuild.2 fault hresult).2

theorem openRoot_opensOrLeaves (o : OpenOptions) (disk : FileTree) (root : String) (force : Bool) :
    OpensOrLeaves root disk (openRoot o disk root force) := by
  unfold openRoot
  cases o.config with
  | some config => exact openWith_opensOrLeaves o config disk root force
  | none =>
      cases hload : Config.load disk o.home (Path.absolute root) [] with
      | ok config => simpa only [hload] using openWith_opensOrLeaves o config disk root force
      | error e => simp only [hload]; exact rfl

end Repository

namespace Service

open Repository

/-! ## One call -/

/-- The service with its builder at rest before its first build. -/
def idled (s : Service) : Service := { s with current := s.current.map Repository.idled }

/-- Is the builder of the current repository, if there is one, at rest? -/
def AtRest (s : Service) : Prop := ∀ r, s.current = some r → r.builder.isBusy = false

/-- Two services at rest that differ at most in the phase at which their builders rest. -/
structure Alike (s t : Service) : Prop where
  idled_eq : s.idled = t.idled
  left : s.AtRest
  right : t.AtRest

/-- What a call leaves: a builder at rest, and if it failed, the service as it was but for the phase, and the disk. -/
structure Leaves (s : Service) (disk : FileTree) (after : Service × FileTree × Response) : Prop where
  rests : after.1.AtRest
  failed : after.2.2.failed = true → after.1.idled = s.idled ∧ after.2.1 = disk

variable {s t : Service} {disk : FileTree}

theorem Leaves.of_same (h : s.AtRest) (response : Response) : Leaves s disk (s, disk, response) :=
  ⟨h, fun _ => ⟨rfl, rfl⟩⟩

theorem updated_leaves {o : OpenOptions} {r : Repository} {u : Updated} (title : String)
    (hrests : u.repository.builder.isBusy = false)
    (hfails : ∀ fault, u.result = .error fault → u.repository.idled = r.idled ∧ u.disk = disk) :
    Leaves ⟨o, some r⟩ disk (updated ⟨o, some r⟩ title u) where
  rests := by
    intro r' hr'
    obtain rfl := Option.some.inj hr'
    exact hrests
  failed := by
    intro hfailed
    cases hresult : u.result with
    | ok report => simp [updated, updateResponse, hresult, Response.success] at hfailed
    | error fault =>
        obtain ⟨hrepository, hdisk⟩ := hfails fault hresult
        exact ⟨by simp [updated, idled, hrepository], hdisk⟩

theorem openAndAnswer_leaves (h : s.AtRest) (disk : FileTree) (root : String) (force : Bool) :
    Leaves s disk (s.openAndAnswer disk root force) := by
  have hopens := openRoot_opensOrLeaves s.options disk root force
  unfold openAndAnswer Service.openRoot
  cases hopen : Repository.openRoot s.options disk root force with
  | mk after result =>
      rw [hopen] at hopens
      cases result with
      | ok r =>
          refine ⟨fun r' hr' => Option.some.inj hr' ▸ hopens.2, fun hfailed => absurd hfailed ?_⟩
          unfold openResponse
          cases hreport : r.state.report <;> simp [hreport, Response.success]
      | error fault =>
          obtain rfl : after = disk := hopens
          exact .of_same h _

theorem reindex_leaves (h : s.AtRest) (disk : FileTree) (root file : Option String) (force : Bool) :
    Leaves s disk (s.reindex disk root file force) := by
  obtain ⟨o, _ | r⟩ := s
  · -- nothing was opened yet
    cases file with
    | some path => exact .of_same h _
    | none =>
        cases root with
        | none => exact .of_same h _
        | some path => exact openAndAnswer_leaves h disk path force
  · have hrebuild := rebuild_rests (h r rfl) disk
    cases file with
    | some path =>
        have hrefresh := refreshFile_rests (h r rfl) disk path
        exact updated_leaves _ hrefresh.1 hrefresh.2
    | none =>
        cases root with
        | none => exact updated_leaves _ hrebuild.1 hrebuild.2
        | some path =>
            simp only [reindex]
            split
            · exact updated_leaves _ hrebuild.1 hrebuild.2
            · exact openAndAnswer_leaves h disk path force

/-- **A call that fails leaves nothing behind** but the phase at which a builder rests. -/
theorem call_leaves (h : s.AtRest) (disk : FileTree) (c : ToolCall) : Leaves s disk (s.call disk c) := by
  cases c with
  | reindex root file force => exact reindex_leaves h disk root file force
  | search query mode topK => exact .of_same h _
  | entityDetails id => exact .of_same h _
  | entitiesInFile path => exact .of_same h _
  | relatedEntities id relation maxResults => exact .of_same h _
  | searchByKind kind filter topK => exact .of_same h _
  | stats => exact .of_same h _

/-! ## Answers do not depend on the phase -/

/-- Two answers that tell the same of services that are the same but for the phase. -/
def SameBut (a b : Service × FileTree × Response) : Prop := a.2 = b.2 ∧ a.1.idled = b.1.idled

theorem idled_idled (s : Service) : s.idled.idled = s.idled := by
  obtain ⟨o, _ | r⟩ := s <;> rfl

theorem ask_idled (s : Service) (disk : FileTree) (f : Repository → Response) (hf : ∀ r : Repository, f r.idled = f r) :
    SameBut (s.idled, disk, s.idled.ask f) (s, disk, s.ask f) := by
  refine ⟨?_, idled_idled s⟩
  obtain ⟨o, _ | r⟩ := s
  · rfl
  · exact congrArg (disk, ·) (hf r)

theorem openAndAnswer_idled (s : Service) (disk : FileTree) (root : String) (force : Bool) :
    SameBut (s.idled.openAndAnswer disk root force) (s.openAndAnswer disk root force) := by
  have hoptions : s.idled.options = s.options := rfl
  unfold openAndAnswer Service.openRoot
  rw [hoptions]
  cases Repository.openRoot s.options disk root force with
  | mk after result =>
      cases result with
      | ok r => exact ⟨rfl, rfl⟩
      | error fault => exact ⟨rfl, idled_idled s⟩

theorem reindex_idled (h : s.AtRest) (disk : FileTree) (root file : Option String) (force : Bool) :
    SameBut (s.idled.reindex disk root file force) (s.reindex disk root file force) := by
  obtain ⟨o, _ | r⟩ := s
  · exact ⟨rfl, rfl⟩
  · have hrest := h r rfl
    have hidled : idled ⟨o, some r⟩ = ⟨o, some r.idled⟩ := rfl
    cases file with
    | some path => simp only [hidled, reindex, updated, refreshFile_idled hrest]; exact ⟨rfl, rfl⟩
    | none =>
        cases root with
        | none => simp only [hidled, reindex, updated, rebuild_idled hrest]; exact ⟨rfl, rfl⟩
        | some path =>
            have hroot : r.idled.isRootOf path = r.isRootOf path := rfl
            have hopens := openAndAnswer_idled ⟨o, some r⟩ disk path force
            rw [hidled] at hopens ⊢
            simp only [reindex, hroot, updated, rebuild_idled hrest]
            split
            · exact ⟨rfl, rfl⟩
            · exact hopens

theorem call_idled (h : s.AtRest) (disk : FileTree) (c : ToolCall) :
    SameBut (s.idled.call disk c) (s.call disk c) := by
  cases c with
  | reindex root file force => exact reindex_idled h disk root file force
  | search query mode topK => exact ask_idled s disk _ fun _ => rfl
  | entityDetails id => exact ask_idled s disk _ fun _ => rfl
  | entitiesInFile path => exact ask_idled s disk _ fun _ => rfl
  | relatedEntities id relation maxResults => exact ask_idled s disk _ fun _ => rfl
  | searchByKind kind filter topK => exact ask_idled s disk _ fun _ => rfl
  | stats => exact ask_idled s disk _ fun _ => rfl

theorem Alike.call (h : s.Alike t) (disk : FileTree) (c : ToolCall) :
    (s.call disk c).2 = (t.call disk c).2 ∧ (s.call disk c).1.Alike (t.call disk c).1 := by
  obtain ⟨hanswer, hservice⟩ := call_idled h.left disk c
  obtain ⟨hanswer', hservice'⟩ := call_idled h.right disk c
  rw [h.idled_eq] at hanswer hservice
  exact ⟨hanswer.symm.trans hanswer', hservice.symm.trans hservice', (call_leaves h.left disk c).rests,
    (call_leaves h.right disk c).rests⟩

/-! ## Runs of calls -/

/-- A call, and what happened to the disk since the call before. -/
structure Turn where
  change : FileTree → FileTree
  call : ToolCall

/-- What a run of calls comes to. -/
structure Ran where
  service : Service
  disk : FileTree
  answers : List Response

/-- Answer one call after another. -/
def run (s : Service) (disk : FileTree) : List Turn → Ran
  | [] => ⟨s, disk, []⟩
  | turn :: rest =>
    let (s, disk, answer) := s.call (turn.change disk) turn.call
    let ran := run s disk rest
    { ran with answers := answer :: ran.answers }

/-- The turns, with a change of the disk before the first of them. -/
def changedBefore (change : FileTree → FileTree) : List Turn → List Turn
  | [] => []
  | turn :: rest => { turn with change := turn.change ∘ change } :: rest

theorem run_append (s : Service) (disk : FileTree) (before after : List Turn) :
    run s disk (before ++ after) =
      let ran := run s disk before
      let later := run ran.service ran.disk after
      { later with answers := ran.answers ++ later.answers } := by
  induction before generalizing s disk with
  | nil => rfl
  | cons turn rest ih => simp [run, ih]

theorem answers_changedBefore (s : Service) (disk : FileTree) (change : FileTree → FileTree) (turns : List Turn) :
    (run s disk (changedBefore change turns)).answers = (run s (change disk) turns).answers := by
  cases turns <;> rfl

/-- Through a run of calls, the builder of the current repository rests between them. -/
theorem run_rests (h : s.AtRest) (turns : List Turn) (disk : FileTree) : (run s disk turns).service.AtRest := by
  induction turns generalizing s disk with
  | nil => exact h
  | cons turn rest ih => exact ih (call_leaves h _ _).rests _

/-- Alike services answer a run alike, and stay alike. -/
theorem Alike.run (h : s.Alike t) (turns : List Turn) (disk : FileTree) :
    (s.run disk turns).answers = (t.run disk turns).answers ∧ (s.run disk turns).disk = (t.run disk turns).disk ∧
      (s.run disk turns).service.Alike (t.run disk turns).service := by
  induction turns generalizing s t disk with
  | nil => exact ⟨rfl, rfl, h⟩
  | cons turn rest ih =>
      obtain ⟨hanswer, halike⟩ := h.call (turn.change disk) turn.call
      obtain ⟨hanswers, hdisk, hlater⟩ := ih halike (s.call (turn.change disk) turn.call).2.1
      rw [hanswer] at hanswers hdisk hlater
      refine ⟨?_, ?_, ?_⟩
      · simp only [Service.run, hanswer, hanswers]
      · simp only [Service.run, hanswer, hdisk]
      · simpa only [Service.run, hanswer] using hlater

/-- **A failed reindex leaves the service as it was.** In a run of calls on a service that starts without an index,
    between which the disk changes in any way, a reindex that fails leaves the disk as it found it, and the service
    too, but for the phase at which its builder rests; and all later calls are answered as they are in the run without
    that call. -/
theorem run_of_failed_reindex {o : OpenOptions} {disk : FileTree} {before : List Turn} {ran : Ran}
    (hran : run ⟨o, none⟩ disk before = ran) {change : FileTree → FileTree} {root file : Option String} {force : Bool}
    {left : Service × FileTree × Response} (hleft : ran.service.reindex (change ran.disk) root file force = left)
    (hfailed : left.2.2.failed = true) (after : List Turn) :
    left.2.1 = change ran.disk ∧ left.1.Alike ran.service ∧
      ∃ later,
        (run ⟨o, none⟩ disk (before ++ ⟨change, .reindex root file force⟩ :: after)).answers
          = ran.answers ++ left.2.2 :: later ∧
        (run ⟨o, none⟩ disk (before ++ changedBefore change after)).answers = ran.answers ++ later := by
  have hrests : ran.service.AtRest := hran ▸ run_rests (fun r hr => absurd hr (by simp)) before disk
  have hleaves : Leaves ran.service (change ran.disk) left := hleft ▸ reindex_leaves hrests _ root file force
  obtain ⟨hidled, hdisk⟩ := hleaves.failed hfailed
  have halike : left.1.Alike ran.service := ⟨hidled, hleaves.rests, hrests⟩
  obtain ⟨hanswers, -, -⟩ := halike.run after (change ran.disk)
  refine ⟨hdisk, halike, (ran.service.run (change ran.disk) after).answers, ?_, ?_⟩
  · rw [run_append, hran, ← hanswers, ← hdisk]
    simp only [run, call, hleft]
  · rw [run_append, hran]
    simp only [answers_changedBefore]

/-! ## A configuration that cannot be read -/

/-- A disk where the configuration of `/q` is no JSON. -/
def misconfiguredDisk : FileTree := .folder 40 [("q", .folder 60 [("repograph.config.json", .file "[".toUTF8)])]

/-- Opening repositories with their own configurations. -/
def ownOptions : OpenOptions := ⟨"/home", none, .empty, Glob.matcher⟩

theorem load_misconfiguredDisk : Config.load misconfiguredDisk "/home" "/q" []
    = .error ⟨"Invalid JSON in /q/repograph.config.json: malformed text", []⟩ := by
  have hfile : Path.join "/q" Config.fileName = "/q/repograph.config.json" := by decide +kernel
  have hread : misconfiguredDisk.read "/q/repograph.config.json" = .ok "[".toUTF8 := by
    have hnames : Path.absoluteSegments "/q/repograph.config.json" = ["q", "repograph.config.json"] := by
      decide +kernel
    have hends : "/q/repograph.config.json".endsWith "/" = false := by decide +kernel
    simp [FileTree.read, FileTree.find, hnames, misconfiguredDisk, FileTree.lookup, List.lookup, hends]
  have hparse : Json.parse? (Text.decodeLossy "[".toUTF8) = none := Option.isNone_iff_eq_none.1 (by decide +kernel)
  simp only [Config.load, Config.readLayer, hfile, hread, hparse]
  rfl

/-- Opening `/r`. -/
def openingTurn : Turn := ⟨id, .reindex (some "/r") none false⟩

/-- Whatever came of opening `/r`, opening `/q` fails by its configuration. -/
theorem failed_reindex_misconfigured (disk : FileTree) :
    ((run ⟨ownOptions, none⟩ disk [openingTurn]).service.reindex misconfiguredDisk (some "/q") none
      false).2.2.failed = true := by
  have hroot : Path.absolute "/q" = "/q" := by decide +kernel
  have hopen : ∀ current, ((⟨ownOptions, current⟩ : Service).openAndAnswer misconfiguredDisk "/q" false).2.2.failed
      = true := by
    intro current
    have hfails : Repository.openRoot ownOptions misconfiguredDisk "/q" false
        = (misconfiguredDisk, .error (.config ⟨"Invalid JSON in /q/repograph.config.json: malformed text", []⟩)) := by
      simp only [Repository.openRoot, ownOptions, hroot, load_misconfiguredDisk]
    simp only [openAndAnswer, Service.openRoot, hfails]
    rfl
  have hopens := openRoot_opensOrLeaves ownOptions disk "/r" false
  have hran : (run ⟨ownOptions, none⟩ disk [openingTurn]).service
      = ((⟨ownOptions, none⟩ : Service).openAndAnswer disk "/r" false).1 := rfl
  rw [hran]
  cases hr : Repository.openRoot ownOptions disk "/r" false with
  | mk after result =>
      rw [hr] at hopens
      cases result with
      | error fault =>
          have hleft : ((⟨ownOptions, none⟩ : Service).openAndAnswer disk "/r" false).1 = ⟨ownOptions, none⟩ := by
            simp only [openAndAnswer, Service.openRoot, hr]
          rw [hleft]
          exact hopen none
      | ok r =>
          have hopened : ((⟨ownOptions, none⟩ : Service).openAndAnswer disk "/r" false).1
              = ⟨ownOptions, some r⟩ := by
            simp only [openAndAnswer, Service.openRoot, hr]
          have hother : r.isRootOf "/q" = false := by
            rw [Repository.isRootOf, hopens.1]
            decide +kernel
          have helsewhere : (⟨ownOptions, some r⟩ : Service).reindex misconfiguredDisk (some "/q") none false
              = (⟨ownOptions, some r⟩ : Service).openAndAnswer misconfiguredDisk "/q" false := if_neg (by simp [hother])
          rw [hopened, helsewhere]
          exact hopen (some r)

/-- A repository is opened; then its disk is replaced, and opening another one fails. What is asked afterwards is
    answered from the first. -/
theorem run_of_failed_reindex_misconfigured :
    let scriptDisk : FileTree := .folder 40 [("r", .folder 60 [("a.py", .file "x = 1".toUTF8)])]
    let ran := run ⟨ownOptions, none⟩ scriptDisk [openingTurn]
    let left := ran.service.reindex misconfiguredDisk (some "/q") none false
    let after := [⟨id, .stats⟩, ⟨id, .search "a" none none⟩, ⟨fun _ => scriptDisk, .reindex none none false⟩]
    left.2.2.failed = true ∧ left.2.1 = misconfiguredDisk ∧ left.1.Alike ran.service ∧
      ∃ later,
        (run ⟨ownOptions, none⟩ scriptDisk
          ([openingTurn] ++ ⟨fun _ => misconfiguredDisk, .reindex (some "/q") none false⟩ :: after)).answers
          = ran.answers ++ left.2.2 :: later ∧
        (run ⟨ownOptions, none⟩ scriptDisk
          ([openingTurn] ++ changedBefore (fun _ => misconfiguredDisk) after)).answers = ran.answers ++ later :=
  ⟨failed_reindex_misconfigured _, @run_of_failed_reindex ownOptions _ _ _ rfl (fun _ => misconfiguredDisk) _ _ _ _ rfl
    (failed_reindex_misconfigured _) _⟩

end Service

end CodeAtlas
