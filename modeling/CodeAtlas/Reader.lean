import CodeAtlas.Dict
import CodeAtlas.Entity
import CodeAtlas.Fault

set_option autoImplicit false

/-! # Reading a source file

Every reader takes a file through the same steps: its bytes become a text, the language's own extraction
finds entities in it, and what is found is checked before it is handed out. A reader never fails: what
went wrong is reported in its output. -/

namespace CodeAtlas

/-- A source file, with its path as seen from the repository root. -/
structure SourceFile where
  absolutePath : String
  path : String
  source : String

/-- What a language finds in a file, on top of the entity of the file itself. -/
structure Extraction where
  entities : List Entity
  relationships : List Relationship
  fileMetadata : Metadata := []
  fileDocstring : Option String := none

/-- What a parser makes of a file. With errors it holds nothing else. -/
structure ParseOutput where
  entities : List Entity
  relationships : List Relationship
  errors : List String
  /-- The number of entities that were refused. -/
  dropped : Nat

/-- An output with nothing but errors. -/
def ParseOutput.failed (errors : List String) : ParseOutput := ⟨[], [], errors, 0⟩

/-- What a parser throws: an error with its message, or a bare value, of which a text can be asked; to make
    that text may fail as well. -/
inductive Thrown where
  | error (message : String)
  | value (text : Except Fault String)

/-- The message of what was thrown. -/
def Thrown.message : Thrown → Except Fault String
  | error message => .ok message
  | value text => text

/-- A parser, as the rest of the program sees it. -/
structure Parser where
  language : String
  extensions : List String
  /-- May fail, and then so does whatever asked. -/
  canParse : String → Except Fault Bool
  /-- Parse the file at a path, as seen from a root. -/
  parse : FileTree → String → Option String → Except Thrown ParseOutput
  supportedKinds : List EntityKind

/-- A language: what its files are called, what it finds in them, and how. -/
structure Reader where
  language : String
  extensions : List String
  kinds : List EntityKind
  extract : SourceFile → Except String Extraction

namespace Reader

/-- The number of characters of a file that its entity keeps. -/
def filePreview : Nat := 500

/-- The number of lines of a text; a line feed at the end does not begin another one. -/
def countLines (source : String) : Nat :=
  let feeds := source.toList.countP (· == '\n')
  if source.endsWith "\n" then max 1 feeds else feeds + 1

/-- The entity of a file that was read. -/
def fileEntity (language : String) (file : SourceFile) (x : Extraction) : Entity :=
  Entity.create {
    kind := .file
    path := file.path
    name := Path.basename file.path
    startLine := 1
    endLine := countLines file.source
    docstring := x.fileDocstring
    content := some (Text.takeUnits filePreview file.source)
    metadata := Metadata.merge [("language", .text language)] x.fileMetadata }

/-! ## Checking -/

/-- Keep the first entity of each id among those without a defect, and count the defective ones. -/
def keepSound (entities : List Entity) : Dict String Entity × Nat :=
  entities.foldl (fun (kept, dropped) e =>
    if (e.defect?).isSome then (kept, dropped + 1) else (kept.insertNew e.id e, dropped)) (.empty, 0)

/-- Drop defective and repeated entities, and relationships that lost an endpoint. -/
def validate (entities : List Entity) (relationships : List Relationship) : ParseOutput :=
  let (kept, dropped) := keepSound entities
  let joined := relationships.filter fun r => kept.contains r.source && kept.contains r.target
  { entities := kept.values
    relationships := (Dict.ofList (joined.map fun r => (r.id, r))).values
    errors := []
    dropped := dropped }

/-! ## The steps -/

/-- The output for a text. -/
def readText (r : Reader) (absolutePath path source : String) : ParseOutput :=
  let file : SourceFile := ⟨absolutePath, path, source⟩
  match r.extract file with
  | .error message => .failed [message]
  | .ok x => validate (fileEntity r.language file x :: x.entities) x.relationships

/-- Read the file at a path. Without a root, its folder is the root. -/
def read (r : Reader) (disk : FileTree) (filePath : String) (root : Option String) : ParseOutput :=
  let absolutePath := Path.absolute filePath
  let root := match nonEmpty? root with
    | some p => Path.absolute p
    | none => Path.dirname absolutePath
  let path := Path.toRepository root absolutePath
  match disk.read absolutePath with
  | .error e => .failed [e.message]
  | .ok bytes =>
    match Text.decodeStrict? bytes with
    | none => .failed [path ++ " is not valid UTF-8"]
    | some source => r.readText absolutePath path source

/-- Does the file's extension belong to the language? -/
def canParse (r : Reader) (path : String) : Bool := Path.extension path ∈ r.extensions

/-- The reader as a parser. -/
def toParser (r : Reader) : Parser where
  language := r.language
  extensions := r.extensions
  canParse path := .ok (r.canParse path)
  parse disk path root := .ok (r.read disk path root)
  supportedKinds := distinct (.file :: r.kinds)

end Reader

end CodeAtlas
