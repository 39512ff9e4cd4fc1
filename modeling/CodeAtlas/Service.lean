import CodeAtlas.Repository
import CodeAtlas.Response

set_option autoImplicit false

/-! # The tools

Seven tools answer from one current repository, which the reindex tool opens, rebuilds or refreshes. A
call is a function of the service and the disk; a call that fails leaves the current repository alone. -/

namespace CodeAtlas

open Search

/-! ## Results as JSON -/

namespace ResultJson

/-- A summary. -/
def summary (s : Entity.Summary) : Json :=
  .object <|
    [("name", .string s.name), ("kind", .string s.kind.name), ("path", .string s.path),
      ("startLine", .number s.startLine), ("endLine", .number s.endLine)]
      ++ Snapshot.optionalMember "docstring" Json.string s.docstring

/-- A hit. -/
def hit (h : Hit Float) : Json :=
  .object [("entityId", .string h.entityId), ("score", Snapshot.scoreJson h.score),
    ("mode", .string h.source.name), ("summary", summary h.summary)]

def outcome (o : Outcome Float) : List (String × Json) :=
  ("results", .array (o.results.map hit)) :: Snapshot.optionalMember "diagnostic" Json.string o.diagnostic

def groups (g : RelationGroups) : Json :=
  .object (g.map fun (k, ids) => (k.name, .array (ids.map Json.string)))

/-- An entity with its neighbourhood. -/
def details (d : EntityDetails) : Json :=
  .object [("attributes", Snapshot.entityJson d.attributes), ("dependencies", groups d.dependencies),
    ("dependents", groups d.dependents), ("contained", .array (d.contained.map Json.string)),
    ("container", (d.container.map Json.string).getD .null)]

/-- The counts of a graph. -/
def graphStats (s : GraphStats) : List (String × Json) :=
  [("entities", .nat s.entities), ("relationships", .nat s.relationships), ("files", .nat s.files),
    ("entitiesByKind", .object (s.entitiesByKind.map fun (k, n) => (k.name, .nat n))),
    ("relationshipsByKind", .object (s.relationshipsByKind.map fun (k, n) => (k.name, .nat n)))]

/-- The counts of a repository. -/
def stats (s : RepositoryStats) : Json :=
  .object (graphStats s.graph ++ [("rootPath", .string s.rootPath), ("documents", .nat s.documents)])

/-- The skipped entries by reason. -/
def skipCounts (c : Scan.SkipCounts) : Json :=
  .object (Scan.SkipReason.all.map fun r => (r.name, .nat (c r)))

/-- A report; of the timed phases the names are listed. -/
def report (r : BuildReport) : Json :=
  .object [("rootPath", .string r.rootPath), ("filesScanned", .nat r.filesScanned),
    ("filesParsed", .nat r.filesParsed), ("filesFailed", .nat r.filesFailed),
    ("failures", .array (r.failures.map fun f =>
      .object [("path", .string f.path), ("errors", .array (f.errors.map Json.string))])),
    ("skipped", skipCounts r.skipped), ("entitiesDropped", .nat r.entitiesDropped),
    ("relationshipsRejected", .nat r.relationshipsRejected),
    ("relationshipsDiscovered", .nat r.relationshipsDiscovered),
    ("phaseTimings", .array ((Text.sort (r.timedPhases.map Phase.name)).map Json.string))]

/-- What a parser made of a file. -/
def parseOutput (o : ParseOutput) : Json :=
  .object [("entities", .array (o.entities.map Snapshot.entityJson)),
    ("relationships", .array (o.relationships.map Snapshot.relationshipJson)),
    ("errors", .array (o.errors.map Json.string)), ("dropped", .nat o.dropped)]

/-- An accepted file. -/
def scannedFile (f : Scan.ScannedFile) : Json :=
  .object [("absolutePath", .string f.absolutePath), ("path", .string f.path), ("size", .nat f.size),
    ("entityId", .string f.entityId)]

/-- What a scan found. -/
def scan (r : Scan.ScanResult) : Json :=
  .object [("entities", .array (r.entities.map Snapshot.entityJson)),
    ("relationships", .array (r.relationships.map Snapshot.relationshipJson)),
    ("files", .array (r.files.map scannedFile)), ("skipped", skipCounts r.skipped)]

/-- The options of a scan. -/
def scanOptions (o : Scan.Options) : Json :=
  .object [("extensions", .array (o.extensions.map Json.string)),
    ("skipPatterns", .array (o.skipPatterns.map Json.string)),
    ("respectGitignore", .bool o.respectGitignore), ("maxDepth", .nat o.maxDepth),
    ("maxFileSize", .nat o.maxFileSize)]

end ResultJson

/-! ## The tools and their arguments -/

/-- An argument of a tool. -/
structure ToolInput where
  field : String
  description : String
  optional : Bool := true

/-- A tool, as it is announced. -/
structure Tool where
  name : String
  title : String
  description : String
  inputs : List ToolInput

namespace Tool

/-- Ranked search. -/
def search : Tool where
  name := "repograph_search"
  title := "Search repository"
  description := "Search indexed entities. Modes: text (BM25 over names, docstrings and file heads), graph (fuzzy name match weighted by structure), structure (words like 'class', 'function', 'file' pick the kind), hybrid (text and graph fused, default)."
  inputs := [⟨"query", "Search query", false⟩,
    ⟨"mode", "One of " ++ ", ".intercalate (Mode.all.map Mode.name), true⟩,
    ⟨"top_k", "Maximum results", true⟩]

/-- One entity with its neighbourhood. -/
def entityDetails : Tool where
  name := "repograph_entity_details"
  title := "Entity details"
  description := "Full attributes of an entity with its dependencies, dependents, children and container."
  inputs := [⟨"entity_id", "Entity id, as returned by repograph_search", false⟩]

/-- The entities of a file. -/
def entitiesInFile : Tool where
  name := "repograph_entities_in_file"
  title := "Entities in file"
  description := "List entity ids defined in a file, ordered by start line. Empty for skipped or unknown files."
  inputs := [⟨"path", "Repository-relative or absolute file path", false⟩]

/-- The neighbours of an entity. -/
def relatedEntities : Tool where
  name := "repograph_related_entities"
  title := "Related entities"
  description := "Entities linked to the given one: what it depends on, what depends on it, its children, its container."
  inputs := [⟨"entity_id", "Entity id", false⟩,
    ⟨"relation", "One of " ++ ", ".intercalate (Relation.values.map Relation.name) ++ " (default all)", true⟩,
    ⟨"max_results", "Maximum results", true⟩]

/-- The entities of a kind. -/
def searchByKind : Tool where
  name := "repograph_search_by_kind"
  title := "Search by kind"
  description := "List entities of a kind (file, class, function, method, heading, ...), ranked by name filter terms."
  inputs := [⟨"kind", "Entity kind", false⟩,
    ⟨"name_filter", "Space-separated terms matched against names", true⟩,
    ⟨"top_k", "Maximum results", true⟩]

/-- Opening, rebuilding and refreshing. -/
def reindex : Tool where
  name := "repograph_reindex"
  title := "Reindex repository"
  description := "Index a repository, rebuild the current one, or re-analyse a single changed file. Call this first when no index exists."
  inputs := [⟨"root_path", "Repository root; defaults to the current index's root", true⟩,
    ⟨"file", "Only re-analyse this file of the current index", true⟩,
    ⟨"force", "Ignore cached snapshots when opening a repository", true⟩]

/-- The counts. -/
def stats : Tool where
  name := "repograph_stats"
  title := "Index stats"
  description := "Entity, relationship and file counts of the current index, by kind."
  inputs := []

/-- Every tool, in the order of announcement. -/
def all : List Tool :=
  [search, entityDetails, entitiesInFile, relatedEntities, searchByKind, reindex, stats]

end Tool

/-- The announcement of a tool as JSON. -/
def Tool.toJson (t : Tool) : Json :=
  .object [("name", .string t.name), ("title", .string t.title), ("description", .string t.description),
    ("inputs", .array (t.inputs.map fun i =>
      .object [("field", .string i.field), ("description", .string i.description),
        ("optional", .bool i.optional)]))]

/-- A call of a tool. -/
inductive ToolCall where
  | search (query : String) (mode : Option String) (topK : Option Rat)
  | entityDetails (id : String)
  | entitiesInFile (path : String)
  | relatedEntities (id : String) (relation : Option String) (maxResults : Option Rat)
  | searchByKind (kind : String) (filter : Option String) (topK : Option Rat)
  | reindex (root file : Option String) (force : Bool)
  | stats

/-- The call that a tool name and its arguments make. -/
def ToolCall.ofArguments? (name : String) (args : List (String × Json)) : Option ToolCall :=
  let text? (k : String) : Option String := (args.lookup k).bind Json.asText?
  let number? (k : String) : Option Rat := (args.lookup k).bind Json.asNumber?
  let text (k : String) : String := (text? k).getD ""
  let force := ((args.lookup "force").bind Json.asFlag?).getD false
  if name = Tool.search.name then some (.search (text "query") (text? "mode") (number? "top_k"))
  else if name = Tool.entityDetails.name then some (.entityDetails (text "entity_id"))
  else if name = Tool.entitiesInFile.name then some (.entitiesInFile (text "path"))
  else if name = Tool.relatedEntities.name then
    some (.relatedEntities (text "entity_id") (text? "relation") (number? "max_results"))
  else if name = Tool.searchByKind.name then
    some (.searchByKind (text "kind") (text? "name_filter") (number? "top_k"))
  else if name = Tool.reindex.name then some (.reindex (text? "root_path") (text? "file") force)
  else if name = Tool.stats.name then some .stats
  else none

/-! ## Texts -/

namespace ToolText

/-- A report under a title. -/
def report (title : String) (r : BuildReport) : String :=
  let skipped := (Scan.SkipReason.all.filter fun s => 0 < r.skipped s).map fun s =>
    s.name ++ " " ++ toString (r.skipped s)
  "\n".intercalate [
    "## " ++ title,
    "",
    "**Root:** " ++ r.rootPath,
    "**Files:** " ++ toString r.filesParsed ++ " parsed, " ++ toString r.filesFailed ++ " failed of "
      ++ toString r.filesScanned ++ " scanned",
    "**Skipped:** " ++ (if skipped = [] then "none" else ", ".intercalate skipped),
    "**Relationships discovered:** " ++ toString r.relationshipsDiscovered,
    "**Duration:** " ++ toString r.durationMs ++ " ms"]

/-- Groups under a title, followed by an empty line; nothing if there are none. -/
def groups (title : String) (g : RelationGroups) : List String :=
  if g.isEmpty then []
  else ["### " ++ title] ++ g.flatMap (fun (k, ids) => ids.map fun id => "- " ++ k.name ++ ": " ++ id) ++ [""]

/-- An entity with its neighbourhood. -/
def details (d : EntityDetails) : String :=
  let e := d.attributes
  Text.trimEnd <| "\n".intercalate <|
    ["## " ++ e.name ++ " (" ++ e.kind.name ++ ")", "",
      "**Location:** " ++ e.path ++ ":" ++ Number.text e.startLine ++ "-" ++ Number.text e.endLine]
    ++ (match nonEmpty? e.docstring with
      | some doc => ["", doc]
      | none => [])
    ++ [""]
    ++ (match nonEmpty? d.container with
      | some c => ["**Container:** " ++ c, ""]
      | none => [])
    ++ groups "Dependencies" d.dependencies
    ++ groups "Dependents" d.dependents
    ++ (if d.contained.isEmpty then []
      else ("### Contains (" ++ toString d.contained.length ++ ")") :: d.contained.map ("- " ++ ·))

/-- The entities of a file. -/
def entitiesInFile (path : String) (ids : List String) : String :=
  if ids.isEmpty then "No entities indexed in " ++ path
  else "\n".intercalate
    (["## " ++ path ++ " (" ++ toString ids.length ++ ")", ""] ++ ids.map ("- " ++ ·))

/-- The counts. -/
def stats (s : RepositoryStats) : String :=
  "\n".intercalate <|
    ["## Index Statistics", "", "**Root:** " ++ s.rootPath,
      "**Entities:** " ++ toString s.graph.entities,
      "**Relationships:** " ++ toString s.graph.relationships,
      "**Files:** " ++ toString s.graph.files,
      "**Documents:** " ++ toString s.documents, "", "### Entities by kind"]
    ++ s.graph.entitiesByKind.map (fun (k, n) => "- " ++ k.name ++ ": " ++ toString n)
    ++ ["", "### Relationships by kind"]
    ++ s.graph.relationshipsByKind.map (fun (k, n) => "- " ++ k.name ++ ": " ++ toString n)

end ToolText

/-! ## The service -/

/-- The repository that the tools answer from, and how repositories are opened. -/
structure Service where
  options : Repository.OpenOptions
  current : Option Repository

namespace Service

/-- What is answered while there is no repository. -/
def indexMissing : String := "Index not built. Call repograph_reindex first."

/-- The current repository. -/
def get (s : Service) : Except String Repository :=
  match s.current with
  | some r => .ok r
  | none => .error indexMissing

/-- Open a root and make it the current repository; a failure leaves the current one in place. -/
def openRoot (s : Service) (disk : FileTree) (root : String) (force : Bool) :
    Service × FileTree × Except Fault Repository :=
  match Repository.openRoot s.options disk root force with
  | (disk, .ok r) => ({ s with current := some r }, disk, .ok r)
  | (disk, .error f) => (s, disk, .error f)

def outcomeResponse (title : String) (o : Outcome Float) : Response :=
  .success (formatOutcome title o) (ResultJson.outcome o)

/-- The response to an update of the current repository. -/
def updateResponse (title : String) : Except Fault BuildReport → Response
  | .ok report => .success (ToolText.report title report) [("report", ResultJson.report report)]
  | .error f => .failure f.message

/-- The response to an opened repository. -/
def openResponse (r : Repository) : Response :=
  let stats := r.stats
  match r.state.report with
  | some report =>
    .success (ToolText.report "Index built" report)
      [("report", ResultJson.report report), ("stats", ResultJson.stats stats)]
  | none =>
    .success ("## Index loaded from cache\n\n**Root:** " ++ stats.rootPath ++ "\n**Entities:** "
        ++ toString stats.graph.entities)
      [("report", .null), ("stats", ResultJson.stats stats)]

/-- Carry out an update of the current repository. -/
def updated (s : Service) (title : String) (u : Repository.Updated) : Service × FileTree × Response :=
  ({ s with current := some u.repository }, u.disk, updateResponse title u.result)

/-- Open a root and say what came of it. -/
def openAndAnswer (s : Service) (disk : FileTree) (root : String) (force : Bool) :
    Service × FileTree × Response :=
  match s.openRoot disk root force with
  | (s, disk, .ok r) => (s, disk, openResponse r)
  | (s, disk, .error f) => (s, disk, .failure f.message)

/-- Refresh a file, rebuild the current repository, or open another one. -/
def reindex (s : Service) (disk : FileTree) (root file : Option String) (force : Bool) :
    Service × FileTree × Response :=
  match s.current, file, root with
  | none, some _, _ => (s, disk, .failure indexMissing)
  | some r, some path, _ => s.updated ("Refreshed " ++ path) (r.refreshFile disk path)
  | some r, none, none => s.updated "Index rebuilt" (r.rebuild disk)
  | none, none, none => (s, disk, .failure "root_path is required when no index exists")
  | some r, none, some path =>
    if r.isRootOf path then s.updated "Index rebuilt" (r.rebuild disk)
    else s.openAndAnswer disk path force
  | none, none, some path => s.openAndAnswer disk path force

/-- The answer of a tool that only asks. -/
def ask (s : Service) (f : Repository → Response) : Response :=
  .ofResult f s.get

/-- Answer a call. -/
def call (s : Service) (disk : FileTree) : ToolCall → Service × FileTree × Response
  | .reindex root file force => s.reindex disk root file force
  | .search query mode topK =>
    (s, disk, s.ask fun r =>
      match r.search query mode topK with
      | .ok o => outcomeResponse ("Results for \"" ++ query ++ "\" (" ++ mode.getD "hybrid" ++ ")") o
      | .error f => .failure f.message)
  | .entityDetails id =>
    (s, disk, s.ask fun r =>
      match r.details? id with
      | some d => .success (ToolText.details d) [("entity", ResultJson.details d)]
      | none => .failure ("Unknown entity " ++ id))
  | .entitiesInFile path =>
    (s, disk, s.ask fun r =>
      let ids := r.entitiesInFile path
      .success (ToolText.entitiesInFile path ids)
        [("path", .string path), ("entities", .array (ids.map Json.string))])
  | .relatedEntities id relation maxResults =>
    (s, disk, s.ask fun r =>
      outcomeResponse ("Related to " ++ id ++ " (" ++ relation.getD "all" ++ ")")
        (r.relatedEntities id relation maxResults))
  | .searchByKind kind filter topK =>
    (s, disk, s.ask fun r =>
      outcomeResponse (kind ++ " entities") (r.searchByKind kind filter topK))
  | .stats =>
    (s, disk, s.ask fun r =>
      let stats := r.stats
      .success (ToolText.stats stats) [("stats", ResultJson.stats stats)])

/-! ## Calls at the same time -/

/-- Does the call update the current repository? -/
def updatesCurrent (s : Service) : ToolCall → Bool
  | .reindex root file _ =>
    match s.current with
    | none => false
    | some r => file.isSome || root.all r.isRootOf
  | _ => false

/-- Start calls one after another without waiting for any of them. Each sees the service and the disk as
    they were at the start; only the first update of the current repository gets hold of its builder. -/
def startAll (start : Service) (disk : FileTree) :
    Bool → Service × FileTree → List ToolCall → Service × FileTree × List Response
  | _, (s, d), [] => (s, d, [])
  | busy, (s, d), c :: rest =>
    let updates := start.updatesCurrent c
    if busy && updates then
      let root := (start.current.map (·.rootPath)).getD ""
      let (s, d, rs) := startAll start disk busy (s, d) rest
      (s, d, .failure (Fault.buildInProgress root).message :: rs)
    else
      let (s1, d1, r) := start.call disk c
      let after := match c with
        | .reindex .. => (s1, d1)
        | _ => (s, d)
      let (s, d, rs) := startAll start disk (busy || updates) after rest
      (s, d, r :: rs)

end Service

end CodeAtlas
