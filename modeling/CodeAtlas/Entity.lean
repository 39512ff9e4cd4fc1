import CodeAtlas.Json.Basic
import CodeAtlas.Path

set_option autoImplicit false

/-! # Entities and relationships

An entity is a located, typed piece of source structure; a relationship links two of them. Both carry
ids made of their defining fields, so the same piece found twice has the same id. -/

namespace CodeAtlas

/-- What an entity is. -/
inductive EntityKind where
  | directory
  | file
  | moduleDecl
  | classDecl
  | functionDecl
  | methodDecl
  | variableDecl
  | constantDecl
  | importDecl
  | interfaceDecl
  | enumDecl
  | heading
  | link
  | codeBlock
  | element
  | styleRule
deriving DecidableEq, Repr, Inhabited

namespace EntityKind

/-- Every kind, in the order messages list them. -/
def all : List EntityKind :=
  [directory, file, moduleDecl, classDecl, functionDecl, methodDecl, variableDecl, constantDecl,
    importDecl, interfaceDecl, enumDecl, heading, link, codeBlock, element, styleRule]

/-- The name of a kind. -/
def name : EntityKind → String
  | directory => "directory"
  | file => "file"
  | moduleDecl => "module"
  | classDecl => "class"
  | functionDecl => "function"
  | methodDecl => "method"
  | variableDecl => "variable"
  | constantDecl => "constant"
  | importDecl => "import"
  | interfaceDecl => "interface"
  | enumDecl => "enum"
  | heading => "heading"
  | link => "link"
  | codeBlock => "code_block"
  | element => "element"
  | styleRule => "style_rule"

def ofName? (s : String) : Option EntityKind :=
  all.find? (·.name = s)

/-- Symbols of code: they can own methods and be called. -/
def isSymbol : EntityKind → Bool
  | classDecl | functionDecl | methodDecl | interfaceDecl | enumDecl | moduleDecl => true
  | _ => false

end EntityKind

/-- How two entities are related. -/
inductive RelationKind where
  | contains
  | imports
  | inherits
  | implements
  | calls
  | uses
  | references
  | styles
  | scripts
  | documents
  | dependsOn
deriving DecidableEq, Repr, Inhabited

namespace RelationKind

/-- Every kind, in the order messages list them. -/
def all : List RelationKind :=
  [contains, imports, inherits, implements, calls, uses, references, styles, scripts, documents, dependsOn]

/-- The name of a kind. -/
def name : RelationKind → String
  | contains => "contains"
  | imports => "imports"
  | inherits => "inherits"
  | implements => "implements"
  | calls => "calls"
  | uses => "uses"
  | references => "references"
  | styles => "styles"
  | scripts => "scripts"
  | documents => "documents"
  | dependsOn => "depends_on"

def ofName? (s : String) : Option RelationKind :=
  all.find? (·.name = s)

end RelationKind

/-! ## Metadata -/

/-- A fact recorded about an entity or a relationship. -/
inductive MetaValue where
  | text (s : String)
  | number (r : Rat)
  | flag (b : Bool)
  | absent
  | list (l : List String)
deriving DecidableEq

/-- Named facts. Their order carries no meaning. -/
abbrev Metadata := List (String × MetaValue)

namespace Metadata

/-- Add a fact, or replace the one of that name. -/
def set (m : Metadata) (key : String) (v : MetaValue) : Metadata :=
  if m.any (·.1 = key) then m.map fun e => if e.1 = key then (key, v) else e else m ++ [(key, v)]

/-- The facts of `m`, those of `upper` taking precedence. -/
def merge (m upper : Metadata) : Metadata :=
  upper.foldl (fun acc e => set acc e.1 e.2) m

/-- The list of that name, or no items. -/
def stringList (m : Metadata) (key : String) : List String :=
  match m.lookup key with
  | some (.list l) => l
  | _ => []

/-- The text of that name. -/
def stringValue? (m : Metadata) (key : String) : Option String :=
  match m.lookup key with
  | some (.text s) => some s
  | _ => none

end Metadata

/-! ## Entities -/

/-- A located, typed piece of source structure. Lines count from 1 and the last one is included. -/
structure Entity where
  id : String
  kind : EntityKind
  /-- The path from the repository root; `.` for the root itself. -/
  path : String
  name : String
  startLine : Rat
  endLine : Rat
  docstring : Option String
  content : Option String
  metadata : Metadata
  /-- A vector that callers may attach; it is carried along unread. -/
  embedding : Option (List Rat)
deriving DecidableEq

/-- The id of an entity: its kind, path, name and first line. -/
def entityId (kind : EntityKind) (path name : String) (startLine : Rat) : String :=
  kind.name ++ ":" ++ path ++ ":" ++ name ++ ":" ++ Number.text startLine

def nonEmpty? (s : Option String) : Option String :=
  s.filter (· ≠ "")

namespace Entity

/-- What an entity is made from. -/
structure Init where
  kind : EntityKind
  path : String
  name : String
  startLine : Rat
  endLine : Rat
  docstring : Option String := none
  content : Option String := none
  metadata : Metadata := []

/-- Make an entity; an empty doc or content counts as none. -/
def create (init : Init) : Entity where
  id := entityId init.kind init.path init.name init.startLine
  kind := init.kind
  path := init.path
  name := init.name
  startLine := init.startLine
  endLine := init.endLine
  docstring := nonEmpty? init.docstring
  content := nonEmpty? init.content
  metadata := init.metadata
  embedding := none

/-- What is wrong with an entity. -/
inductive Defect where
  | emptyName
  | emptyPath
  | invalidStartLine
  | endBeforeStart
deriving DecidableEq

/-- The wording of a defect. -/
def Defect.message : Defect → String
  | emptyName => "empty name"
  | emptyPath => "empty path"
  | invalidStartLine => "invalid start line"
  | endBeforeStart => "end line before start line"

/-- The first thing wrong with an entity: a blank name or path, a first line that is no positive whole
    number, or a last line that is no whole number from the first line on. -/
def defect? (e : Entity) : Option Defect :=
  if Text.trim e.name = "" then some .emptyName
  else if Text.trim e.path = "" then some .emptyPath
  else if e.startLine.den ≠ 1 ∨ e.startLine < 1 then some .invalidStartLine
  else if e.endLine.den ≠ 1 ∨ e.endLine < e.startLine then some .endBeforeStart
  else none

/-- What a search result shows of an entity. -/
structure Summary where
  name : String
  kind : EntityKind
  path : String
  startLine : Rat
  endLine : Rat
  docstring : Option String
deriving DecidableEq

/-- The summary of an entity. -/
def summary (e : Entity) : Summary where
  name := e.name
  kind := e.kind
  path := e.path
  startLine := e.startLine
  endLine := e.endLine
  docstring := nonEmpty? e.docstring

end Entity

/-! ## Relationships -/

/-- A directed link between two entities. -/
structure Relationship where
  id : String
  kind : RelationKind
  source : String
  target : String
  metadata : Metadata
  /-- Between 0 and 1. -/
  confidence : Rat
deriving DecidableEq

/-- The id of a relationship: its source, the name of its kind, and its target. -/
def relationshipId (source kind target : String) : String :=
  source ++ " -" ++ kind ++ "-> " ++ target

/-- Make a relationship. -/
def Relationship.create (source : String) (kind : RelationKind) (target : String)
    (confidence : Rat := 1) (metadata : Metadata := []) : Relationship where
  id := relationshipId source kind.name target
  kind := kind
  source := source
  target := target
  metadata := metadata
  confidence := confidence

/-! ## Orders -/

namespace Entity

/-- Source order: path, then first line, then id. -/
def locationLe (a b : Entity) : Bool :=
  if a.path ≠ b.path then Text.before a.path b.path
  else if a.startLine ≠ b.startLine then a.startLine < b.startLine
  else Text.atMost a.id b.id

/-- The entities in source order. -/
def sortByLocation (l : List Entity) : List Entity :=
  l.mergeSort locationLe

def sortById (l : List Entity) : List Entity :=
  l.mergeSort fun a b => Text.atMost a.id b.id

end Entity

def Relationship.sortById (l : List Relationship) : List Relationship :=
  l.mergeSort fun a b => Text.atMost a.id b.id

end CodeAtlas
