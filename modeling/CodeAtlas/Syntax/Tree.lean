import CodeAtlas.Text.Units

set_option autoImplicit false

/-! # Syntax trees

A syntax tree covers a source text. Every node has a kind, perhaps the name of the field it fills in its
parent, and the stretch of text it spans. Where the text did not follow the grammar the tree holds error
nodes, or nodes that stand for a missing token. -/

namespace CodeAtlas.Syntax

/-- A source text, by character. -/
structure Source where
  chars : Array Char

namespace Source

def ofString (s : String) : Source := ⟨s.toList.toArray⟩

/-- The text from one offset up to another. -/
def slice (s : Source) (start stop : Nat) : String :=
  String.ofList (s.chars.extract start stop).toList

/-- The number of line feeds before an offset. -/
def row (s : Source) (offset : Nat) : Nat :=
  (s.chars.extract 0 offset).foldl (fun n c => if c = '\n' then n + 1 else n) 0

/-- Where a run of characters that satisfy `p` ends, which begins at an offset. -/
def runStop (s : Source) (p : Char → Bool) (offset : Nat) : Nat :=
  if h : offset < s.chars.size then
    if p s.chars[offset] then runStop s p (offset + 1) else offset
  else offset
termination_by s.chars.size - offset

/-- The character offset that lies a number of UTF-16 units into a list of characters. -/
def offsetInList : List Char → Nat → Nat
  | [], _ => 0
  | _ :: _, 0 => 0
  | c :: rest, n + 1 => 1 + offsetInList rest (n + 1 - Text.width c)

def ofUnitOffset (s : Source) (units : Nat) : Nat := offsetInList s.chars.toList units

end Source

/-- What is known of a node besides its children. Offsets count characters. -/
structure NodeInfo where
  kind : String
  field : Option String := none
  /-- Named nodes stand for rules of the grammar, the others for its literal tokens. -/
  named : Bool := true
  missing : Bool := false
  start : Nat
  stop : Nat
deriving Inhabited

/-- A node of a syntax tree. -/
inductive Node where
  | mk (info : NodeInfo) (children : List Node)
deriving Inhabited

namespace Node

/-- The node without its children. -/
def info : Node → NodeInfo
  | mk i _ => i

/-- The children, tokens included. -/
def children : Node → List Node
  | mk _ cs => cs

def kind (n : Node) : String := n.info.kind

/-- Does the node stand for a rule? -/
def isNamed (n : Node) : Bool := n.info.named

/-- The text that a node spans. -/
def text (src : Source) (n : Node) : String := src.slice n.info.start n.info.stop

/-- The line a node starts on, counted from 1. -/
def startLine (src : Source) (n : Node) : Nat := src.row n.info.start + 1

def endLine (src : Source) (n : Node) : Nat := src.row n.info.stop + 1

/-- The children that stand for rules. -/
def namedChildren (n : Node) : List Node := n.children.filter isNamed

/-- The first child that fills a field. -/
def field? (n : Node) (name : String) : Option Node :=
  n.children.find? fun c => c.info.field = some name

def hasChild (n : Node) (kind : String) : Bool := n.children.any fun c => c.kind = kind

/-! ## Places -/

/-- A node with its named siblings before it, the nearest first. -/
structure Place where
  node : Node
  before : List Node

/-- The children of a list with what precedes them. -/
def placesFrom (before : List Node) : List Node → List Place
  | [] => []
  | c :: rest => ⟨c, before⟩ :: placesFrom (if c.isNamed then c :: before else before) rest

/-- The children with what precedes them. -/
def places (n : Node) : List Place := placesFrom [] n.children

/-! ## Descendants -/

mutual

/-- The node and its descendants of the given kinds, parents first. -/
def descendants (kinds : List String) : Node → List Node
  | mk i cs => (if i.kind ∈ kinds then [mk i cs] else []) ++ descendantsOfAll kinds cs

/-- The nodes of a list and their descendants of the given kinds. -/
def descendantsOfAll (kinds : List String) : List Node → List Node
  | [] => []
  | c :: rest => descendants kinds c ++ descendantsOfAll kinds rest

end

/-! ## Errors -/

/-- Is the node itself an error, or does it stand for something missing? -/
def isBroken (n : Node) : Bool := n.kind = "ERROR" || n.info.missing

mutual

/-- Is the node, or anything below it, broken? -/
def hasError : Node → Bool
  | mk i cs => isBroken (mk i cs) || anyError cs

/-- Is anything in the list, or below it, broken? -/
def anyError : List Node → Bool
  | [] => false
  | c :: rest => hasError c || anyError rest

end

mutual

/-- The first broken node in document order. Children without an error below them are passed over. -/
def firstError? : Node → Option Node
  | mk i cs => if isBroken (mk i cs) then some (mk i cs) else firstErrorIn? cs

/-- The first broken node in a list of nodes or below it. -/
def firstErrorIn? : List Node → Option Node
  | [] => none
  | c :: rest =>
    if !hasError c && !c.info.missing then firstErrorIn? rest
    else match firstError? c with
      | some n => some n
      | none => firstErrorIn? rest

end

end Node

end CodeAtlas.Syntax
