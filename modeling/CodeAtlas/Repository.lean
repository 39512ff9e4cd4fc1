import CodeAtlas.Build
import CodeAtlas.Glob.Basic
import CodeAtlas.Search.Retriever
import CodeAtlas.Snapshot

set_option autoImplicit false

/-! # One indexed repository

Graph, graph index, lexical index and report are built together and replaced together: a query always
sees one complete state, and an update that fails leaves the state as it was. -/

namespace CodeAtlas

open Search

/-- What queries are answered from. -/
structure IndexState where
  graph : Graph
  index : GraphIndex
  text : Bm25 Float
  retriever : Retriever Float
  /-- How the graph was built; none if it came from a snapshot. -/
  report : Option BuildReport

/-- An opened repository. -/
structure Repository where
  rootPath : String
  config : Config
  builder : Builder
  state : IndexState

/-- An entity with its neighbourhood. -/
structure EntityDetails where
  attributes : Entity
  dependencies : RelationGroups
  dependents : RelationGroups
  contained : List String
  container : Option String

/-- The counts of a repository. -/
structure RepositoryStats where
  graph : GraphStats
  rootPath : String
  documents : Nat

namespace IndexState

/-- The state of a graph and its lexical index. -/
def assemble (g : Graph) (text : Bm25 Float) (config : Config) (report : Option BuildReport) :
    IndexState :=
  let index := GraphIndex.ofGraph g
  ⟨g, index, text, ⟨index, text, config.retrieval⟩, report⟩

/-- The parameters of the lexical index. -/
def bm25Options (config : Config) : Bm25Options := ⟨config.retrieval.k1, config.retrieval.b⟩

/-- The state before anything was built. -/
def empty (config : Config) : IndexState :=
  assemble Graph.empty.freeze (Bm25.build (bm25Options config) []) config none

/-- The first document that no entity of the graph has. -/
def orphan? (g : Graph) (documents : List Document) : Option Document :=
  documents.find? fun d => !g.hasEntity d.id

/-- The state of two snapshots, or why they do not fit. -/
def restore (s : Snapshot.Stored Float) (config : Config) : Except String IndexState :=
  match Graph.ofSnapshot s.graph with
  | .error f => .error f.message
  | .ok g =>
    match orphan? g s.bm25.documents with
    | some d => .error ("BM25 document " ++ d.id ++ " has no entity")
    | none => .ok (assemble g.freeze (Bm25.ofSnapshot s.bm25) config none)

end IndexState

namespace Repository

/-- The lexical index of a graph; texts that `reuse` knows are kept. -/
def textIndexFor (config : Config) (disk : FileTree) (root : String) (reuse : Entity → Option String)
    (g : Graph) : Bm25 Float :=
  Bm25.build (IndexState.bm25Options config)
    (buildDocuments disk root config.retrieval.fileContentLines reuse g.toSnapshot.entities)

def relativePath (r : Repository) (path : String) : String :=
  Path.toRepository r.rootPath (Path.resolve r.rootPath path)

/-! ## Saving -/

/-- Save the snapshots of the current state. -/
def save (r : Repository) (disk : FileTree) : FileTree × Except Fault String :=
  match r.state.text.toSnapshot with
  | .error f => (disk, .error f)
  | .ok bm25 => Snapshot.save disk r.config.cacheDir r.rootPath ⟨r.state.graph.toSnapshot, bm25⟩

/-- Save the snapshots if that is possible. -/
def persist (r : Repository) (disk : FileTree) : FileTree := (r.save disk).1

/-! ## Updating -/

/-- Take over a new graph with its lexical index, and save them. -/
def adopt (r : Repository) (disk : FileTree) (result : BuildResult) (reuse : Entity → Option String) :
    Repository × FileTree :=
  let text := textIndexFor r.config disk r.rootPath reuse result.graph
  let r := { r with state := .assemble result.graph text r.config (some result.report) }
  (r, r.persist disk)

/-- What an update leaves: the repository, the disk, and a report or a fault. -/
structure Updated where
  repository : Repository
  disk : FileTree
  result : Except Fault BuildReport

/-- The end of an update, given what the builder answered. -/
def update (r : Repository) (disk : FileTree) (reuse : Entity → Option String)
    (answer : Builder × Except Fault BuildResult) : Updated :=
  let r := { r with builder := answer.1 }
  match answer.2 with
  | .error f => ⟨r, disk, .error f⟩
  | .ok result =>
    let (r, disk) := r.adopt disk result reuse
    ⟨r, disk, .ok result.report⟩

def rebuild (r : Repository) (disk : FileTree) : Updated :=
  r.update disk (fun _ => none) (r.builder.build disk r.rootPath)

/-- The stored text of an entity outside a file. -/
def storedText (text : Bm25 Float) (relative : String) (e : Entity) : Option String :=
  if e.path = relative then none
  else match text.document? e.id with
    | .ok (some d) => some d.text
    | _ => none

/-- Analyse one file anew; the texts of entities elsewhere are kept. -/
def refreshFile (r : Repository) (disk : FileTree) (path : String) : Updated :=
  let relative := r.relativePath path
  r.update disk (storedText r.state.text relative)
    (r.builder.rebuildFile disk r.state.graph r.rootPath relative)

/-! ## Opening -/

/-- How a repository is opened. -/
structure OpenOptions where
  home : String
  /-- A complete configuration; without one, the repository's own is loaded. -/
  config : Option Config := none
  registry : Registry
  /-- How patterns are compiled. -/
  glob : String → Except Fault Scan.Matcher := Glob.matcher

/-- The state of the snapshots of a root, if they are usable. -/
def cachedState? (disk : FileTree) (config : Config) (root : String) : Option IndexState :=
  match Snapshot.load disk config.cacheDir root with
  | .error _ => none
  | .ok s =>
    match IndexState.restore s config with
    | .ok state => some state
    | .error _ => none

/-- Open a root whose configuration is known. -/
def openWith (o : OpenOptions) (config : Config) (disk : FileTree) (root : String) (force : Bool) :
    FileTree × Except Fault Repository :=
  match Builder.ofConfig o.glob o.registry config.graph with
  | .error f => (disk, .error f)
  | .ok builder =>
    match if force then none else cachedState? disk config root with
    | some state => (disk, .ok ⟨root, config, builder, state⟩)
    | none =>
      let u := rebuild ⟨root, config, builder, .empty config⟩ disk
      match u.result with
      | .ok _ => (u.disk, .ok u.repository)
      | .error f => (u.disk, .error f)

/-- Open a root from its snapshots, or build it and save them. -/
def openRoot (o : OpenOptions) (disk : FileTree) (root : String) (force : Bool) :
    FileTree × Except Fault Repository :=
  let root := Path.absolute root
  match o.config with
  | some config => openWith o config disk root force
  | none =>
    match Config.load disk o.home root [] with
    | .ok config => openWith o config disk root force
    | .error e => (disk, .error (.config e))

def isRootOf (r : Repository) (path : String) : Bool := Path.absolute path = r.rootPath

/-! ## Queries -/

/-- Answer a query in a mode, `hybrid` if none is named. -/
def search (r : Repository) (query : String) (mode : Option String) (topK : Option Rat) :
    Except Fault (Outcome Float) :=
  r.state.retriever.search query (mode.getD "hybrid") topK

/-- The entities of a kind. -/
def searchByKind (r : Repository) (kind : String) (filter : Option String) (topK : Option Rat) :
    Outcome Float :=
  r.state.retriever.searchByKind kind filter topK

/-- The neighbours of an entity, by all relations if none is named. -/
def relatedEntities (r : Repository) (id : String) (relation : Option String) (maxResults : Option Rat) :
    Outcome Float :=
  r.state.retriever.relatedEntities id (relation.getD "all") maxResults

def entity? (r : Repository) (id : String) : Option Entity := r.state.graph.entity? id

/-- An entity with its neighbourhood. -/
def details? (r : Repository) (id : String) : Option EntityDetails :=
  let ix := r.state.index
  (r.entity? id).map fun e => {
    attributes := e
    dependencies := ix.dependencies id
    dependents := ix.dependents id
    contained := ix.contained id
    container := (ix.containers id).head? }

/-- The entities of a file, named by its path from the root or by its absolute path. -/
def entitiesInFile (r : Repository) (path : String) : List String :=
  r.state.index.entitiesInFile (r.relativePath path)

/-- The counts. -/
def stats (r : Repository) : RepositoryStats where
  graph := r.state.index.stats
  rootPath := r.rootPath
  documents := match r.state.text.size with
    | .ok n => n
    | .error _ => 0

end Repository

end CodeAtlas
