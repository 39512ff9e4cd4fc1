import CodeAtlas.Graph.Basic
import CodeAtlas.Link
import CodeAtlas.Registry
import CodeAtlas.Scan

set_option autoImplicit false

/-! # Building graphs

A build scans the folder, parses every file that a parser claims, links what the parsers found and hands
out a frozen graph. One file can be analysed anew against an earlier graph. A builder does one build at a
time. -/

namespace CodeAtlas

open Scan

/-- Where a builder stands. -/
inductive Phase where
  | idle
  | scanDirectory
  | parseFiles
  | discoverRelationships
  | materializeGraph
  | done
deriving DecidableEq

/-- The name of a phase. -/
def Phase.name : Phase → String
  | idle => "idle"
  | scanDirectory => "scan_directory"
  | parseFiles => "parse_files"
  | discoverRelationships => "discover_relationships"
  | materializeGraph => "materialize_graph"
  | done => "done"

def Phase.timed : List Phase := [scanDirectory, parseFiles, discoverRelationships, materializeGraph]

/-- A file that a parser failed on. -/
structure FileFailure where
  path : String
  errors : List String

/-- What a build did. -/
structure BuildReport where
  rootPath : String
  filesScanned : Nat := 0
  filesParsed : Nat := 0
  filesFailed : Nat := 0
  failures : List FileFailure := []
  skipped : SkipCounts := .none
  /-- Entities that parsers refused. -/
  entitiesDropped : Nat := 0
  /-- Parser relationships without an endpoint. -/
  relationshipsRejected : Nat := 0
  relationshipsDiscovered : Nat := 0
  /-- The time the build took; whoever has a clock fills it in. -/
  durationMs : Nat := 0
  timedPhases : List Phase := Phase.timed

/-- A graph and the report of how it came about. -/
structure BuildResult where
  graph : Graph
  report : BuildReport

namespace Build

/-! ## Merging parser outputs -/

/-- Does a class hold an entity whose recorded class name it bears? -/
def encloses (parentClass : String) (e c : Entity) : Bool :=
  c.id ≠ e.id && c.name = parentClass && c.startLine ≤ e.startLine && e.endLine ≤ c.endLine

/-- The number of lines a class spans, less one. -/
def span (e : Entity) : Rat := e.endLine - e.startLine

/-- The first of the smallest classes. -/
def innermost (classes : List Entity) : Option Entity :=
  classes.foldl (fun best c =>
    match best with
    | none => some c
    | some b => if span c < span b then some c else some b) none

/-- What contains a parsed entity: the innermost enclosing class that its metadata names, else the file. -/
def structuralParent (e : Entity) (fileId : String) (classes : List Entity) : String :=
  match nonEmpty? (e.metadata.stringValue? "parentClass") with
  | none => fileId
  | some parentClass => ((innermost (classes.filter (encloses parentClass e))).map (·.id)).getD fileId

/-- Add one parsed entity. The entity of the file itself keeps the facts of the scan. -/
def mergeEntity (file : ScannedFile) (scanned : Metadata) (classes : List Entity) (g : Graph) (e : Entity) :
    Graph :=
  if e.id = file.entityId then g.insertEntity { e with metadata := scanned.merge e.metadata }
  else (g.insertEntity e).linkIfKnown (containment (structuralParent e file.entityId classes) e.id)

/-- Add one parsed relationship; one without an endpoint is counted. -/
def mergeRelationship (state : Graph × BuildReport) (r : Relationship) : Graph × BuildReport :=
  match state.1.link r with
  | .ok (g, _) => (g, state.2)
  | .error _ =>
    (state.1, { state.2 with relationshipsRejected := state.2.relationshipsRejected + 1 })

/-- Add the output of a parser. -/
def merge (state : Graph × BuildReport) (file : ScannedFile) (output : ParseOutput) : Graph × BuildReport :=
  let (g, report) := state
  if output.errors ≠ [] then
    (g, { report with
      filesFailed := report.filesFailed + 1
      failures := report.failures ++ [⟨file.path, output.errors⟩] })
  else
    let report := { report with
      filesParsed := report.filesParsed + 1
      entitiesDropped := report.entitiesDropped + output.dropped }
    let scanned := ((g.entity? file.entityId).map (·.metadata)).getD []
    let classes := output.entities.filter (·.kind = .classDecl)
    let g := output.entities.foldl (mergeEntity file scanned classes) g
    output.relationships.foldl mergeRelationship (g, report)

/-- The outputs of the files that a parser claims, in file order. -/
def parseAll (registry : Registry) (disk : FileTree) (root : String) :
    List ScannedFile → Except Fault (List (ScannedFile × ParseOutput))
  | [] => .ok []
  | file :: rest => do
    let parser ← registry.parserFor file.absolutePath
    let others ← parseAll registry disk root rest
    match parser with
    | none => return others
    | some _ =>
      let output ← registry.parse disk file.absolutePath (some root)
      return (file, output) :: others

/-- Parse files and add what is found. -/
def parseInto (registry : Registry) (disk : FileTree) (root : String) (files : List ScannedFile)
    (state : Graph × BuildReport) : Except Fault (Graph × BuildReport) :=
  (parseAll registry disk root files).map fun outputs =>
    outputs.foldl (fun s o => merge s o.1 o.2) state

/-- Add every relationship that recorded references resolve to. -/
def discoverInto (extensions : List String) (root : String) (state : Graph × BuildReport) :
    Graph × BuildReport :=
  (Link.discover extensions state.1.entities root).foldl (fun (g, report) r =>
    match g.link r with
    | .ok (g, _) =>
      (g, { report with relationshipsDiscovered := report.relationshipsDiscovered + 1 })
    | .error _ => (g, report)) state

/-- Parse, link and freeze. -/
def finish (registry : Registry) (disk : FileTree) (root : String) (files : List ScannedFile)
    (state : Graph × BuildReport) : Except Fault BuildResult :=
  (parseInto registry disk root files state).map fun state =>
    let (g, report) := discoverInto registry.supportedExtensions root state
    ⟨g.freeze, report⟩

/-! ## Whole builds -/

/-- The graph of what a scan found, nothing parsed yet. -/
def scannedGraph (s : ScanResult) : Graph :=
  s.relationships.foldl Graph.linkIfKnown (s.entities.foldl Graph.insertEntity .empty)

/-- Parse and link what a scan found. -/
def buildScanned (registry : Registry) (disk : FileTree) (root : String) (s : ScanResult) :
    Except Fault BuildResult :=
  finish registry disk root s.files
    (scannedGraph s, { rootPath := root, filesScanned := s.files.length, skipped := s.skipped })

/-- Build the graph of every supported file under a root. -/
def build (registry : Registry) (scanner : Scanner) (disk : FileTree) (root : String) :
    Except Fault BuildResult := do
  let root := Path.absolute root
  let s ← Scan.scan scanner disk root
  buildScanned registry disk root s

/-! ## One file anew -/

/-- The folders above a path, the nearest first, the root last. -/
def ancestors (path : String) : List String :=
  (prefixes path).dropLast.reverse ++ ["."]

/-- Contain an entity in the nearest of its folders, adding those that are missing. -/
def attach (root : String) (g : Graph) (child : String) : List String → Graph
  | [] => g
  | dir :: above =>
    let parent := directoryEntity root dir
    let known := g.hasEntity parent.id
    let g := if known then g else g.insertEntity parent
    let g := g.linkIfKnown (containment parent.id child)
    if known then g else attach root g parent.id above

/-- Add the entity of a file with the folders above it. -/
def attachFile (root : String) (g : Graph) (file : ScannedFile) : Graph :=
  let e := fileEntity file.path file.size
  attach root (g.insertEntity e) e.id (ancestors file.path)

/-- Parse and link one file that was inspected, or drop it. -/
def rebuildInspected (registry : Registry) (disk : FileTree) (root : String) (g : Graph) :
    Except SkipReason ScannedFile → Except Fault BuildResult
  | .ok file =>
    finish registry disk root [file] (attachFile root g file, { rootPath := root, filesScanned := 1 })
  | .error reason =>
    finish registry disk root [] (g, { rootPath := root, skipped := .one reason })

/-- The graph like `previous` with one file analysed anew. A file that is gone, or that the filters now
    refuse, is dropped. -/
def rebuildFile (registry : Registry) (scanner : Scanner) (disk : FileTree) (previous : Graph)
    (root path : String) : Except Fault BuildResult := do
  let root := Path.absolute root
  let inspected ← Scan.inspect scanner disk root path
  let relative := Path.relative root (Path.resolve root path)
  let (g, _) := previous.copy.dropFile relative
  rebuildInspected registry disk root g inspected

end Build

/-! ## Builders -/

/-- A builder: its parsers, its scanner and where it stands. -/
structure Builder where
  registry : Registry
  scanner : Scanner
  phase : Phase

namespace Builder

/-- A builder that has not built yet. -/
def ofConfig (glob : String → Except Fault Matcher) (registry : Registry) (config : GraphConfig) :
    Except Fault Builder :=
  (Scanner.ofOptions glob (.ofConfig config registry.supportedExtensions)).map fun scanner =>
    ⟨registry, scanner, .idle⟩

def isBusy (b : Builder) : Bool := b.phase ≠ .idle && b.phase ≠ .done

/-- The builder in the middle of a build. -/
def started (b : Builder) : Builder := { b with phase := .scanDirectory }

/-- The builder after a build that gave the result. -/
def settled {α : Type} (b : Builder) (result : Except Fault α) : Builder :=
  { b with phase := match result with
      | .ok _ => .done
      | .error _ => .idle }

/-- Run a build, unless one is under way. -/
def run (b : Builder) (root : String) (body : Except Fault BuildResult) :
    Builder × Except Fault BuildResult :=
  if b.isBusy then (b, .error (.buildInProgress (Path.absolute root))) else (b.settled body, body)

def build (b : Builder) (disk : FileTree) (root : String) : Builder × Except Fault BuildResult :=
  b.run root (Build.build b.registry b.scanner disk root)

/-- Analyse one file anew. -/
def rebuildFile (b : Builder) (disk : FileTree) (previous : Graph) (root path : String) :
    Builder × Except Fault BuildResult :=
  b.run root (Build.rebuildFile b.registry b.scanner disk previous root path)

/-- Start two builds of a root at once: the second finds the builder busy. -/
def buildTwice (b : Builder) (disk : FileTree) (root : String) :
    Builder × Except Fault BuildResult × Except Fault BuildResult :=
  let second := (b.started.build disk root).2
  let (b, first) := b.build disk root
  (b, first, second)

end Builder

end CodeAtlas
