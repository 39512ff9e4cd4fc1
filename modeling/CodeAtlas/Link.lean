import CodeAtlas.Dict
import CodeAtlas.Entity

set_option autoImplicit false

/-! # Linking files and symbols

A reader sees one file at a time and leaves raw references on its entities. Here they are resolved
against all entities: a file's imports, styles, scripts and documents against the files, and the names
that a symbol inherits from, implements or calls against the symbols of the files its file imports. -/

namespace CodeAtlas.Link

/-! ## Symbol references -/

/-- A list of names that a symbol refers to. -/
inductive ReferenceKey where
  | bases
  | implements
  | calls
deriving DecidableEq

namespace ReferenceKey

/-- Every key, in the order references are linked. -/
def all : List ReferenceKey := [bases, implements, calls]

/-- The metadata name of a key. -/
def name : ReferenceKey → String
  | bases => "bases"
  | implements => "implements"
  | calls => "calls"

/-- The relationship that a resolved reference becomes. -/
def relation : ReferenceKey → RelationKind
  | bases => .inherits
  | implements => .implements
  | calls => .calls

/-- The kinds of symbol that a reference may name. -/
def targets : ReferenceKey → List EntityKind
  | bases => [.classDecl, .interfaceDecl]
  | implements => [.interfaceDecl, .classDecl]
  | calls => [.functionDecl, .methodDecl, .classDecl]

end ReferenceKey

/-! ## File references -/

/-- A list of references of a file, and the relationship each becomes. -/
def fileReferences : List (String × RelationKind) :=
  [("imports", .imports), ("stylesheets", .styles), ("scripts", .scripts), ("docReferences", .documents)]

/-- The path that a dotted module name stands for: one leading dot is the current folder, each further one
    the folder above. -/
def modulePath (specifier : String) : String :=
  let dots := (specifier.toList.takeWhile (· == '.')).length
  let rest := Path.ofSegments <|
    ((Text.split (· == '.') (String.ofList (specifier.toList.drop dots))).filter (· ≠ ""))
  if dots = 0 then rest
  else if dots = 1 then "./" ++ rest
  else String.join (List.replicate (dots - 1) "../") ++ rest

/-- Does a normalised path stay in the repository? -/
def isWithinRoot (p : String) : Bool :=
  p ≠ ".." && !p.startsWith "../" && !Path.isAbsolute p

def compiledExtensions : List String := [".js", ".jsx", ".mjs", ".mjsx", ".cjs", ".cjsx"]

def sourceExtensions : List String := [".ts", ".tsx", ".mts", ".cts"]

/-- A path without the extension of a compiled script, if it has one. -/
def compiledStem? (p : String) : Option String :=
  (compiledExtensions.find? (p.endsWith ·)).map fun e => String.ofList (p.toList.take (p.length - e.length))

/-- The paths that a specifier may name as it stands: seen from the folder of the referring file, and, if
    it does not start with a dot, seen from the root. -/
def roots (specifier fromDir : String) : List String :=
  let near := Path.normalize (Path.join fromDir specifier)
  let bases :=
    if specifier.startsWith "." then [near]
    else [near, Path.normalize (String.ofList (specifier.toList.dropWhile (· == '/')))]
  (distinct (bases.map Path.dropTrailingSlashes)).filter fun p => p ≠ "" && p ≠ "." && isWithinRoot p

/-- The paths that a specifier may name, in the order they are tried: as it stands, as the source of a
    compiled script, with an extension added, and as the index file of a folder. -/
def candidates (extensions : List String) (specifier fromDir : String) : List String :=
  let rs := roots specifier fromDir
  distinct <|
    rs
      ++ rs.flatMap (fun p => (compiledStem? p).toList.flatMap fun stem => sourceExtensions.map (stem ++ ·))
      ++ rs.flatMap (fun p => extensions.map (p ++ ·))
      ++ rs.flatMap (fun p => extensions.map (fun e => p ++ "/index" ++ e) ++ [p ++ "/__init__.py"])

/-- The path-like form of a reference in a file of the given language; `none` if it names nothing in the
    repository, as a script's bare package name does. -/
def specifier? (reference : String) (language : Option String) : Option String :=
  let s := Text.trim reference
  if s = "" then none
  else if language = some "python" then some (modulePath s)
  else if (language = some "javascript" ∨ language = some "typescript")
      ∧ ¬ (s.startsWith "." ∨ s.startsWith "/") then none
  else some s

/-- A path below the root, given absolutely, becomes a path from the root. -/
def fromRoot (root s : String) : String :=
  let root := Path.absolute root
  if Path.isAbsolute s ∧ s.startsWith (root ++ "/") then Path.toRepository root s else s

/-- The file that a reference names. -/
def resolveReference (extensions : List String) (files : Dict String Entity) (root : String)
    (source : Entity) (reference : String) : Option Entity :=
  match specifier? reference (source.metadata.stringValue? "language") with
  | none => none
  | some s =>
    (candidates extensions (fromRoot root s) (Path.dirname source.path)).findSome? files.get?

/-! ## Discovery -/

def filesOf (entities : List Entity) : Dict String Entity :=
  Dict.ofList ((entities.filter (·.kind = .file)).map fun e => (e.path, e))

/-- The entities that are neither files nor folders, by the path of their file. -/
def symbolsOf (entities : List Entity) : Dict String (List Entity) :=
  (entities.filter fun e => e.kind ≠ .file ∧ e.kind ≠ .directory).foldl
    (fun d e => d.update e.path [] (· ++ [e])) .empty

/-- The resolved references of one file: each target with its relationship. -/
def fileLinks (extensions : List String) (files : Dict String Entity) (root : String) (file : Entity) :
    List (Entity × Relationship) :=
  fileReferences.flatMap fun (key, kind) =>
    (file.metadata.stringList key).filterMap fun reference =>
      match resolveReference extensions files root file reference with
      | none => none
      | some target =>
        if target.id = file.id then none
        else some (target,
          Relationship.create file.id kind target.id 1 [("reference", .text reference)])

/-- The paths of the files that a file imports, each once. -/
def importedPaths (links : List (Entity × Relationship)) : List String :=
  distinct ((links.filter (·.2.kind = .imports)).map (·.1.path))

/-- The confidence of a symbol reference that was resolved through an import. -/
def importedConfidence : Rat := 0.8

/-- The first symbol of that name and of an allowed kind in the imported files. -/
def importedSymbol (symbols : Dict String (List Entity)) (imported : List String) (key : ReferenceKey)
    (name : String) : Option Entity :=
  (imported.flatMap fun p => (symbols.get? p).getD []).find? fun e =>
    e.name = name ∧ e.kind ∈ key.targets

/-- The names that the symbols of a file define, imports left out. -/
def localNames (symbols : List Entity) : List String :=
  (symbols.filter (·.kind ≠ .importDecl)).map (·.name)

/-- The symbol references of a file that name no symbol of its own, resolved in the files it imports. -/
def symbolLinks (symbols : Dict String (List Entity)) (imported : List String) (own : List Entity) :
    List Relationship :=
  let known := localNames own
  own.flatMap fun e => ReferenceKey.all.flatMap fun key =>
    (e.metadata.stringList key.name).filterMap fun name =>
      if name ∈ known then none
      else (importedSymbol symbols imported key name).map fun target =>
        Relationship.create e.id key.relation target.id importedConfidence [("reference", .text name)]

/-- Every relationship that recorded references resolve to, each once, by id. -/
def discover (extensions : List String) (entities : List Entity) (root : String) : List Relationship :=
  let files := filesOf entities
  let symbols := symbolsOf entities
  let perFile := files.values.map fun f => (f.path, fileLinks extensions files root f)
  let ofFiles := perFile.flatMap fun (_, links) => links.map (·.2)
  let ofSymbols := symbols.entries.flatMap fun (path, own) =>
    match importedPaths ((perFile.lookup path).getD []) with
    | [] => []
    | imported => symbolLinks symbols imported own
  Relationship.sortById (Dict.ofList ((ofFiles ++ ofSymbols).map fun r => (r.id, r))).values

end CodeAtlas.Link
