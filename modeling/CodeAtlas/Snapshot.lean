import CodeAtlas.Digest
import CodeAtlas.Graph.Basic
import CodeAtlas.Json.Parse
import CodeAtlas.Schema
import CodeAtlas.Search.Bm25

set_option autoImplicit false

/-! # Snapshots

The graph and the lexical index of a repository as JSON files, kept in a folder named by a digest of the
root. Files are written under a temporary name and then renamed; what is read back is checked first. -/

namespace CodeAtlas

/-- Scores that can be written down exactly, where they are finite. -/
class StoredScore (α : Type) extends Scoring α where
  rational? : α → Option Rat

instance : StoredScore Float := ⟨Number.ofFloat?⟩

namespace Snapshot

open Schema Search

/-! ## Writing JSON -/

/-- A metadata value as JSON. -/
def metaValueJson : MetaValue → Json
  | .text s => .string s
  | .number r => .number r
  | .flag b => .bool b
  | .absent => .null
  | .list l => .array (l.map Json.string)

def metadataJson (m : Metadata) : Json :=
  .object (m.map fun (k, v) => (k, metaValueJson v))

/-- A member that is left out when there is no value. -/
def optionalMember {α : Type} (name : String) (f : α → Json) : Option α → List (String × Json)
  | some a => [(name, f a)]
  | none => []

/-- An entity as JSON. -/
def entityJson (e : Entity) : Json :=
  .object <|
    [("id", .string e.id), ("kind", .string e.kind.name), ("path", .string e.path),
      ("name", .string e.name), ("startLine", .number e.startLine), ("endLine", .number e.endLine),
      ("metadata", metadataJson e.metadata)]
      ++ optionalMember "docstring" Json.string e.docstring
      ++ optionalMember "content" Json.string e.content
      ++ optionalMember "embedding" (fun l => .array (l.map Json.number)) e.embedding

/-- A relationship as JSON. -/
def relationshipJson (r : Relationship) : Json :=
  .object [("id", .string r.id), ("kind", .string r.kind.name), ("source", .string r.source),
    ("target", .string r.target), ("metadata", metadataJson r.metadata),
    ("confidence", .number r.confidence)]

/-- A graph snapshot as JSON. -/
def graphJson (s : GraphSnapshot) : Json :=
  .object [("version", .nat 1), ("entities", .array (s.entities.map entityJson)),
    ("relationships", .array (s.relationships.map relationshipJson))]

/-- A score as JSON; one that is not finite becomes null. -/
def scoreJson {α : Type} [StoredScore α] (a : α) : Json :=
  match StoredScore.rational? a with
  | some r => .number r
  | none => .null

/-- A lexical snapshot as JSON. -/
def bm25Json {α : Type} [StoredScore α] (s : Bm25Snapshot α) : Json :=
  .object [("version", .nat 1), ("k1", .number s.options.k1), ("b", .number s.options.b),
    ("documents", .array (s.documents.map fun d =>
      .object [("id", .string d.id), ("text", .string d.text)])),
    ("lengths", .array (s.lengths.map Json.nat)),
    ("averageLength", scoreJson s.averageLength),
    ("df", .object (s.df.map fun (t, n) => (t, .nat n))),
    ("idf", .object (s.idf.map fun (t, x) => (t, scoreJson x)))]

/-! ## Checking JSON -/

/-- The shape of a metadata value. -/
def metaValueShape : Json → Checked MetaValue
  | .string s => .valid (.text s)
  | .number r => .valid (.number r)
  | .bool b => .valid (.flag b)
  | .null => .valid .absent
  | .array l =>
    match array string (.array l) with
    | .valid l => .valid (.list l)
    | .invalid _ => issue "Invalid input"
  | .object _ => issue "Invalid input"

def lineShape : Json → Checked Rat := number [.whole, .atLeast 1]

/-- The shape of an entity. -/
def entityShape (ms : List (String × Json)) : Checked Entity :=
  Entity.mk
    <$> required "id" string ms
    <*> required "kind" (oneOf (EntityKind.all.map EntityKind.name) EntityKind.ofName?) ms
    <*> required "path" string ms
    <*> required "name" string ms
    <*> required "startLine" lineShape ms
    <*> required "endLine" lineShape ms
    <*> optional "docstring" string ms
    <*> optional "content" string ms
    <*> required "metadata" (record metaValueShape) ms
    <*> optional "embedding" (array (number [])) ms

/-- The members of a relationship in the order in which they are checked. -/
def relationshipOf (id : String) (kind : RelationKind) (source target : String) (metadata : Metadata)
    (confidence : Rat) : Relationship :=
  ⟨id, kind, source, target, metadata, confidence⟩

/-- The shape of a relationship. -/
def relationshipShape (ms : List (String × Json)) : Checked Relationship :=
  relationshipOf
    <$> required "id" string ms
    <*> required "kind" (oneOf (RelationKind.all.map RelationKind.name) RelationKind.ofName?) ms
    <*> required "source" string ms
    <*> required "target" string ms
    <*> required "metadata" (record metaValueShape) ms
    <*> required "confidence" (number [.atLeast 0, .atMost 1]) ms

def version (ms : List (String × Json)) : Checked Unit := (one (ms.lookup "version")).under "version"

/-- The shape of a graph snapshot. -/
def graphShape : Json → Checked GraphSnapshot :=
  object fun ms =>
    (fun _ es rs => GraphSnapshot.mk es rs)
      <$> version ms
      <*> required "entities" (array (object entityShape)) ms
      <*> required "relationships" (array (object relationshipShape)) ms

def documentShape : Json → Checked Document :=
  object fun ms => Document.mk <$> required "id" string ms <*> required "text" string ms

/-- A score from its exact value. -/
def score {α : Type} [Scoring α] (bounds : List Bound) (v : Json) : Checked α :=
  (number bounds v).map Scoring.ofRat

/-- The shape of a lexical snapshot. Lengths and documents must be equally many. -/
def bm25Shape {α : Type} [Scoring α] (v : Json) : Checked (Bm25Snapshot α) :=
  let members : Checked (Bm25Snapshot α) := object (fun ms =>
    (fun _ k1 b ds ls avg df idf => Bm25Snapshot.mk ⟨k1, b⟩ ds ls avg df idf)
      <$> version ms
      <*> required "k1" (number [.positive]) ms
      <*> required "b" (number [.atLeast 0, .atMost 1]) ms
      <*> required "documents" (array documentShape) ms
      <*> required "lengths" (array (natural [.atLeast 0])) ms
      <*> required "averageLength" (score [.atLeast 0]) ms
      <*> required "df" (record (natural [.atLeast 1])) ms
      <*> required "idf" (record (score [])) ms) v
  match members with
  | .valid s =>
    if s.lengths.length = s.documents.length then .valid s
    else .invalid [⟨["lengths"], "lengths must have one entry per document"⟩]
  | .invalid issues => .invalid issues

/-! ## The store -/

/-- Both snapshots of a repository. -/
structure Stored (α : Type) where
  graph : GraphSnapshot
  bm25 : Bm25Snapshot α

/-- The names of the two files. -/
def graphFile : String := "graph.json"

/-- The name of the file of the lexical snapshot. -/
def bm25File : String := "bm25.json"

/-- The name of the snapshot folder of a root: sixteen digits of a digest. -/
def repositoryKey (root : String) : String :=
  String.ofList ((Digest.sha256 (Path.absolute root)).toList.take 16)

/-- The snapshot folder of a root. -/
def directoryFor (cacheDir root : String) : String :=
  Path.join cacheDir (repositoryKey root)

/-- One step of a save. -/
inductive SaveStep where
  | makeFolder (path : String)
  | write (path text : String)
  | rename (source target : String)
deriving DecidableEq

/-- Carry out a step. -/
def SaveStep.run (disk : FileTree) : SaveStep → Except FileError FileTree
  | makeFolder p => disk.makeFolder p
  | write p text => disk.write p text.toUTF8
  | rename a b => disk.rename a b

/-- Write a file under a temporary name and move it into place. -/
def atomicWrite (path text : String) : List SaveStep :=
  [.write (path ++ ".tmp") text, .rename (path ++ ".tmp") path]

/-- The steps of a save. -/
def saveSteps {α : Type} [StoredScore α] (cacheDir root : String) (s : Stored α) : List SaveStep :=
  let dir := directoryFor cacheDir root
  .makeFolder dir
    :: atomicWrite (Path.join dir graphFile) (graphJson s.graph).render
    ++ atomicWrite (Path.join dir bm25File) (bm25Json s.bm25).render

/-- Carry out steps until one fails. -/
def runSteps (disk : FileTree) : List SaveStep → FileTree × Option FileError
  | [] => (disk, none)
  | s :: rest =>
    match s.run disk with
    | .ok disk => runSteps disk rest
    | .error e => (disk, some e)

/-- Save both snapshots; the folder they went to, or the failure. -/
def save {α : Type} [StoredScore α] (disk : FileTree) (cacheDir root : String) (s : Stored α) :
    FileTree × Except Fault String :=
  match runSteps disk (saveSteps cacheDir root s) with
  | (disk, none) => (disk, .ok (directoryFor cacheDir root))
  | (disk, some e) => (disk, .error (.file e))

/-- Read and check one file; what is wrong with it otherwise. -/
def readChecked {α : Type} (disk : FileTree) (dir file : String) (shape : Json → Checked α) :
    Except String α :=
  match disk.read (Path.join dir file) with
  | .error _ => .error ("cannot read " ++ file)
  | .ok bytes =>
    match Json.parse? (Text.decodeLossy bytes) with
    | none => .error (file ++ " is not valid JSON")
    | some v =>
      match shape v with
      | .valid a => .ok a
      | .invalid issues =>
        .error (file ++ " is invalid at " ++ ((issues.head?.map Issue.text).getD "(root): unknown"))

/-- Both snapshots of a root, or why the cache cannot be used. -/
def load {α : Type} [Scoring α] (disk : FileTree) (cacheDir root : String) : Except String (Stored α) := do
  let dir := directoryFor cacheDir root
  let graph ← readChecked disk dir graphFile graphShape
  let bm25 ← readChecked disk dir bm25File bm25Shape
  return ⟨graph, bm25⟩

end Snapshot

end CodeAtlas
