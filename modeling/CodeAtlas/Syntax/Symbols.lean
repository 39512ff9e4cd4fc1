import CodeAtlas.Link
import CodeAtlas.Reader
import CodeAtlas.Syntax.Tree

set_option autoImplicit false

/-! # Symbols in a syntax tree

What the walks over the trees of all programming languages share: doc comments, names, parameters and
decorators, and the links between symbols of one file. -/

namespace CodeAtlas.Syntax

/-- What a walk found: entities, and the modules that are imported, in order. -/
structure Found where
  entities : List Entity
  imports : List String

namespace Found

def none : Found := ⟨[], []⟩

def entity (e : Entity) : Found := ⟨[e], []⟩

/-- One import; an empty name imports nothing. -/
def importing (specifier : String) : Found := ⟨[], if specifier = "" then [] else [specifier]⟩

def append (a b : Found) : Found := ⟨a.entities ++ b.entities, a.imports ++ b.imports⟩

instance : Append Found := ⟨append⟩

def all (l : List Found) : Found := ⟨l.flatMap (·.entities), l.flatMap (·.imports)⟩

end Found

/-- The number of characters of a symbol's source that its entity keeps. -/
def snippetLimit : Nat := 400

/-- The file being walked and its text. -/
structure Context where
  path : String
  source : Source

namespace Context

def text (cx : Context) (n : Node) : String := n.text cx.source

/-- The entity of a symbol that a node declares. -/
def entity (cx : Context) (kind : EntityKind) (name : String) (n : Node) (docstring : Option String)
    (metadata : Metadata) : Entity :=
  Entity.create {
    kind := kind
    path := cx.path
    name := name
    startLine := n.startLine cx.source
    endLine := n.endLine cx.source
    docstring := docstring
    content := some (Text.takeUnits snippetLimit (cx.text n))
    metadata := metadata }

/-- The text of the child that fills a field, unless it is empty. -/
def fieldText? (cx : Context) (n : Node) (name : String) : Option String :=
  nonEmpty? ((n.field? name).map cx.text)

end Context

/-! ## Comments -/

/-- A list without the given beginning. -/
def dropPrefix? (mark l : List Char) : Option (List Char) :=
  if mark.isPrefixOf l then some (l.drop mark.length) else none

/-- A line of a doc comment without its leading star and the blank after it. -/
def stripStar (line : String) : String :=
  match line.toList.dropWhile Text.isBlank with
  | '*' :: c :: rest => String.ofList (if Text.isBlank c then rest else c :: rest)
  | ['*'] => ""
  | _ => line

/-- The text of a doc comment without its markers. -/
def docCommentText (comment : String) : String :=
  let cs := comment.toList
  let body := match dropPrefix? ['/', '*', '*'] cs with
    | some rest => rest.dropWhile Text.isBlank
    | none => cs
  let body := match dropPrefix? ['/', '*'] body.reverse with
    | some rest => (rest.dropWhile Text.isBlank).reverse
    | none => body
  Text.trim ("\n".intercalate ((Text.lines (String.ofList body)).map stripStar))

/-- The nearest sibling that is no decorator, and the decorator after it if there is one. -/
def skipDecorators (anchor : Node) : List Node → Node × Option Node
  | [] => (anchor, none)
  | p :: rest => if p.kind = "decorator" then skipDecorators p rest else (anchor, some p)

/-- The doc comment directly above a node, decorators between them passed over. A blank line detaches
    the comment. -/
def docComment? (cx : Context) (p : Node.Place) : Option String :=
  match skipDecorators p.node p.before with
  | (_, none) => none
  | (anchor, some c) =>
    let text := cx.text c
    if c.kind ≠ "comment" ∨ ¬ text.startsWith "/**" ∨ text.startsWith "/***" then none
    else if c.endLine cx.source + 1 < anchor.startLine cx.source then none
    else nonEmpty? (some (docCommentText text))

/-! ## Names -/

/-- The inside of a text that starts and ends with the mark and is long enough for both. -/
def between? (mark : List Char) (s : String) : Option String :=
  let cs := s.toList
  if mark.isPrefixOf cs ∧ mark.isSuffixOf cs ∧ 2 * mark.length ≤ cs.length then
    some (String.ofList ((cs.drop mark.length).take (cs.length - 2 * mark.length)))
  else none

/-- A string literal without its quotes. -/
def unquote (s : String) : String :=
  let quotes : List (List Char) := [['"', '"', '"'], ['\'', '\'', '\''], ['"'], ['\''], [Char.ofNat 0x60]]
  (quotes.findSome? fun q => between? q s).getD s

/-- The last segment of a dotted name, type arguments and calls cut off. -/
def simpleName (s : String) : String :=
  let cs := (s.toList.takeWhile (· != '<')).takeWhile (· != '(')
  ((Text.split (· == '.') (Text.trim (String.ofList cs))).getLast?).getD ""

/-- The names that a parameter list declares, in order. -/
def parameterNames (cx : Context) (params : Option Node) : List String :=
  match params with
  | none => []
  | some ps =>
    (ps.namedChildren.filter (·.kind ≠ "comment")).filterMap fun p =>
      ((p.descendants ["identifier"]).head?).map cx.text

/-- The text of a decorator, without its mark. -/
def decoratorText (cx : Context) (n : Node) : String :=
  let cs := (cx.text n).toList
  Text.trim (String.ofList (if cs.head? = some '@' then cs.drop 1 else cs))

/-- The decorators before a declaration and those inside it. -/
def decorators (cx : Context) (p : Node.Place) : List String :=
  let preceding := (p.before.takeWhile (·.kind = "decorator")).reverse
  let own := p.node.namedChildren.filter (·.kind = "decorator")
  (preceding ++ own).map (decoratorText cx)

/-- Is the name a constant's: a capital, then capitals, digits and underscores? -/
def isConstantName (name : String) : Bool :=
  match name.toList with
  | [] => false
  | c :: rest => c.isUpper && rest.all fun d => d.isUpper || d.isDigit || d == '_'

/-! ## Links inside a file -/

/-- The first other entity of that name and of an allowed kind. -/
def localTarget? (entities : List Entity) (e : Entity) (key : Link.ReferenceKey) (name : String) :
    Option Entity :=
  entities.find? fun c => c.name = name ∧ c.id ≠ e.id ∧ c.kind ∈ key.targets

/-- The references of the entities that name another symbol of the same file. -/
def localLinks (entities : List Entity) : List Relationship :=
  entities.flatMap fun e => Link.ReferenceKey.all.flatMap fun key =>
    (Text.sort (distinct (e.metadata.stringList key.name))).filterMap fun name =>
      (localTarget? entities e key name).map fun target =>
        Relationship.create e.id key.relation target.id

/-! ## Languages -/

/-- A programming language: how its sources become trees and what is found in a tree. -/
structure Language where
  name : String
  extensions : List String
  kinds : List EntityKind
  /-- The tree of a source, at an absolute path. -/
  grammar : String → Source → Node
  collect : Context → Node → Found
  moduleDocstring : Context → Node → Option String := fun _ _ => none

namespace Language

/-- What a tree of a file says. A broken tree is refused, with the line of its first broken node. -/
def extractTree (l : Language) (path : String) (source : Source) (tree : Node) :
    Except String Extraction :=
  if tree.hasError then
    let place := match tree.firstError? with
      | some n => " at line " ++ toString (n.startLine source)
      | none => ""
    .error ("Syntax error in " ++ path ++ place)
  else
    let cx : Context := ⟨path, source⟩
    let found := l.collect cx tree
    .ok {
      entities := found.entities
      relationships := localLinks found.entities
      fileMetadata := [("imports", .list (distinct found.imports))]
      fileDocstring := l.moduleDocstring cx tree }

/-- What a source file says. -/
def extract (l : Language) (file : SourceFile) : Except String Extraction :=
  let source := Source.ofString file.source
  l.extractTree file.path source (l.grammar file.absolutePath source)

/-- The language as a reader of files. -/
def toReader (l : Language) : Reader where
  language := l.name
  extensions := l.extensions
  kinds := l.kinds
  extract := l.extract

/-- The same reader with the tree given instead of made. -/
def readerWithTree (l : Language) (tree : Source → Node) : Reader where
  language := l.name
  extensions := l.extensions
  kinds := l.kinds
  extract file :=
    let source := Source.ofString file.source
    l.extractTree file.path source (tree source)

end Language

end CodeAtlas.Syntax
