import CodeAtlas.Config
import CodeAtlas.Entity
import CodeAtlas.Fault

set_option autoImplicit false

/-! # Scanning a repository

A scan walks a folder depth first, in the order of names, and yields an entity for every folder and every
accepted file, each contained in the entity of its folder. What the filters leave out is counted by
reason. A single path can be put through the same filters.

How a pattern is compiled is a parameter: it gives a test of paths, or fails. A scanner compiles the patterns
of its options when it is made, and those of the ignore file each time it is used. -/

namespace CodeAtlas.Scan

/-- What a scan accepts. -/
structure Options where
  /-- The accepted extensions, in lower case with the dot. -/
  extensions : List String
  skipPatterns : List String
  respectGitignore : Bool
  maxDepth : Nat
  maxFileSize : Nat

/-- The options of a configuration; without extensions of its own, every supported one is accepted. -/
def Options.ofConfig (c : GraphConfig) (supported : List String) : Options where
  extensions := (c.extensions.getD supported).map Unicode.lower
  skipPatterns := c.skipPatterns
  respectGitignore := c.respectGitignore
  maxDepth := c.maxDepth
  maxFileSize := c.maxFileSize

/-- Why an entry is left out. -/
inductive SkipReason where
  | pattern
  | gitignore
  | extension
  | size
  | depth
  | unreadable
deriving DecidableEq

/-- The name of a reason. -/
def SkipReason.name : SkipReason → String
  | pattern => "pattern"
  | gitignore => "gitignore"
  | extension => "extension"
  | size => "size"
  | depth => "depth"
  | unreadable => "unreadable"

/-- Every reason, in the order reports list them. -/
def SkipReason.all : List SkipReason := [pattern, gitignore, extension, size, depth, unreadable]

/-- How many entries were left out for a reason. -/
abbrev SkipCounts := SkipReason → Nat

def SkipCounts.none : SkipCounts := fun _ => 0

def SkipCounts.one (r : SkipReason) : SkipCounts := fun s => if s = r then 1 else 0

/-- An accepted file. -/
structure ScannedFile where
  absolutePath : String
  path : String
  size : Nat
  entityId : String
deriving DecidableEq

/-- What a scan found. -/
structure ScanResult where
  entities : List Entity
  relationships : List Relationship
  files : List ScannedFile
  skipped : SkipCounts

namespace ScanResult

def empty : ScanResult := ⟨[], [], [], .none⟩

def skip (r : SkipReason) : ScanResult := { empty with skipped := .one r }

/-- One result after another. -/
def append (a b : ScanResult) : ScanResult where
  entities := a.entities ++ b.entities
  relationships := a.relationships ++ b.relationships
  files := a.files ++ b.files
  skipped := fun r => a.skipped r + b.skipped r

end ScanResult

/-! ## Entities of folders and files -/

/-- The entity of a folder; the root is called after its last segment. -/
def directoryEntity (root dir : String) : Entity :=
  let own := Path.basename (Path.absolute root)
  Entity.create {
    kind := .directory
    path := dir
    name := if dir = "." then (if own = "" then "." else own) else Path.basename dir
    startLine := 1
    endLine := 1 }

/-- The entity of a file that was not read yet. -/
def fileEntity (path : String) (size : Nat) : Entity :=
  Entity.create {
    kind := .file
    path := path
    name := Path.basename path
    startLine := 1
    endLine := 1
    metadata := [("size", .number size), ("extension", .text (Path.extension path))] }

/-- The containment of one entity in another. -/
def containment (parent child : String) : Relationship :=
  Relationship.create parent .contains child

/-! ## Filters -/

/-- A compiled pattern: does it match a path? -/
abbrev Matcher := String → Bool

/-- The patterns of a list without blanks around them; empty ones are dropped. -/
def trimmed (patterns : List String) : List String := (patterns.map Text.trim).filter (· ≠ "")

def compileAll (glob : String → Except Fault Matcher) (patterns : List String) : Except Fault (List Matcher) :=
  (trimmed patterns).mapM glob

/-- A line without one leading slash and one trailing slash. -/
def stripSlashes (line : String) : String :=
  let cs := line.toList
  let cs := if cs.head? = some '/' then cs.drop 1 else cs
  String.ofList (if cs.getLast? = some '/' then cs.dropLast else cs)

/-- The patterns of an ignore file. Comments, blank lines and negations are left out; anchoring and
    trailing slashes are removed. -/
def ignorePatterns (source : String) : List String :=
  let kept := ((Text.linesOfEither source).map Text.trim).filter fun line =>
    line ≠ "" && !line.startsWith "#" && !line.startsWith "!"
  (kept.map stripSlashes).filter (· ≠ "")

/-- The patterns of the ignore file in a root; none if it cannot be read. -/
def readGitignore (disk : FileTree) (root : String) : List String :=
  match disk.read (Path.join root ".gitignore") with
  | .ok bytes => ignorePatterns (Text.decodeLossy bytes)
  | .error _ => []

/-- A scanner: its options with their patterns compiled, and the way patterns are compiled. -/
structure Scanner where
  options : Options
  skip : List Matcher
  glob : String → Except Fault Matcher

def Scanner.ofOptions (glob : String → Except Fault Matcher) (o : Options) : Except Fault Scanner :=
  (compileAll glob o.skipPatterns).map fun skip => ⟨o, skip, glob⟩

/-- What is asked of the entries below a root. -/
structure Filters where
  extensions : List String
  skip : List Matcher
  ignore : List Matcher
  maxDepth : Nat
  maxFileSize : Nat

def Scanner.ignored (s : Scanner) (disk : FileTree) (root : String) : List String :=
  if s.options.respectGitignore then readGitignore disk root else []

/-- The filters with the given patterns of an ignore file. -/
def Scanner.filtersWith (s : Scanner) (ignore : List Matcher) : Filters where
  extensions := s.options.extensions
  skip := s.skip
  ignore := ignore
  maxDepth := s.options.maxDepth
  maxFileSize := s.options.maxFileSize

def Scanner.filters (s : Scanner) (disk : FileTree) (root : String) : Except Fault Filters :=
  (compileAll s.glob (s.ignored disk root)).map s.filtersWith

/-- Why the name of an entry is refused, if it is. -/
def Filters.refuses? (f : Filters) (path : String) : Option SkipReason :=
  if f.skip.any (· path) then some .pattern
  else if f.ignore.any (· path) then some .gitignore
  else none

/-- The size of what stands at a path. -/
def sizeOf : FileTree.Found → Option Nat
  | .node t => some t.size
  | _ => none

/-- The size of a file, if its extension and size are accepted. -/
def Filters.checkFile (f : Filters) (path : String) (size : Option Nat) : Except SkipReason Nat :=
  if Path.extension path ∈ f.extensions then
    match size with
    | none => .error .unreadable
    | some n => if f.maxFileSize < n then .error .size else .ok n
  else .error .extension

/-! ## Walking -/

/-- The path of an entry of a folder. -/
def childPath (dir name : String) : String :=
  if dir = "." then name else dir ++ "/" ++ name

/-- How many folders deep a path lies. -/
def depthOf (path : String) : Nat :=
  if path = "." then 0 else (Path.segments path).length

/-- The result of an accepted file. -/
def foundFile (root : String) (parent : Entity) (path : String) (size : Nat) : ScanResult :=
  let e := fileEntity path size
  { entities := [e]
    relationships := [containment parent.id e.id]
    files := [⟨Path.join root path, path, size, e.id⟩]
    skipped := .none }

/-- The results of named entries, in the order of the names. -/
def inNameOrder (l : List (String × ScanResult)) : ScanResult :=
  ((l.mergeSort fun a b => Text.atMost a.1 b.1).map (·.2)).foldl .append .empty

mutual

/-- The result of one entry of a folder. -/
def walkEntry (f : Filters) (root : String) (parent : Entity) (path : String) : FileTree → ScanResult
  | .file bytes =>
    match f.refuses? path with
    | some r => .skip r
    | none =>
      match f.checkFile path (some bytes.size) with
      | .error r => .skip r
      | .ok size => foundFile root parent path size
  | .folder _ entries =>
    match f.refuses? path with
    | some r => .skip r
    | none =>
      if f.maxDepth < depthOf path then .skip .depth
      else
        let e := directoryEntity root path
        ScanResult.append
          { ScanResult.empty with entities := [e], relationships := [containment parent.id e.id] }
          (inNameOrder (walkEntries f root e path entries))

/-- The results of the entries of a folder, by name. -/
def walkEntries (f : Filters) (root : String) (parent : Entity) (dir : String) :
    List (String × FileTree) → List (String × ScanResult)
  | [] => []
  | (name, t) :: rest =>
    (name, walkEntry f root parent (childPath dir name) t) :: walkEntries f root parent dir rest

end

/-- The result of a walk from a root. A root that is no folder counts as unreadable. -/
def walk (f : Filters) (disk : FileTree) (root : String) : ScanResult :=
  let e := directoryEntity root "."
  let inside := match disk.list root with
    | .ok entries => inNameOrder (walkEntries f root e "." entries)
    | .error _ => .skip .unreadable
  ScanResult.append { ScanResult.empty with entities := [e] } inside

/-- Scan the folder at a root. -/
def scan (s : Scanner) (disk : FileTree) (root : String) : Except Fault ScanResult :=
  let root := Path.absolute root
  (s.filters disk root).map fun f => walk f disk root

/-- The path and all its beginnings, the shortest first. -/
def prefixes (path : String) : List String :=
  let segments := Path.segments path
  (List.range segments.length).map fun i => Path.ofSegments (segments.take (i + 1))

/-- Put one path below a root through filters, with every folder above it. -/
def Filters.examine (f : Filters) (disk : FileTree) (absolutePath relative : String) :
    Except SkipReason ScannedFile :=
  match (prefixes relative).findSome? f.refuses? with
  | some r => .error r
  | none =>
    if f.maxDepth < (Path.segments relative).length - 1 then .error .depth
    else
      match f.checkFile relative (sizeOf (disk.find absolutePath)) with
      | .error r => .error r
      | .ok size => .ok ⟨absolutePath, relative, size, (fileEntity relative size).id⟩

/-- Put one path through the filters of a scan. -/
def inspect (s : Scanner) (disk : FileTree) (root path : String) :
    Except Fault (Except SkipReason ScannedFile) :=
  let root := Path.absolute root
  let absolutePath := Path.resolve root path
  let relative := Path.toRepository root absolutePath
  if Path.isAbsolute relative ∨ relative = "." then .ok (.error .unreadable)
  else (s.filters disk root).map fun f => f.examine disk absolutePath relative

end CodeAtlas.Scan
