import CodeAtlas.Graph.Basic
import CodeAtlas.Similarity

set_option autoImplicit false

/-! # Looking up and walking a graph

Built once per graph. Lists of ids come in source order, so a graph and its reloaded snapshot answer
alike; every walk remembers what it visited, so cycles end. -/

namespace CodeAtlas

/-- A graph with its entities listed by name, kind and path. -/
structure GraphIndex where
  graph : Graph
  names : Dict String (List String)
  kinds : Dict EntityKind (List String)
  paths : Dict String String

/-- Which relationships of an entity are followed. -/
inductive Direction where
  | outgoing
  | incoming
  | both
deriving DecidableEq

/-- Ids grouped by the kind of relationship that leads to them, kinds in the order of their names. -/
abbrev RelationGroups := List (RelationKind × List String)

/-- The counts of a graph. Kinds come in the order they are first met. -/
structure GraphStats where
  entities : Nat
  relationships : Nat
  files : Nat
  entitiesByKind : List (EntityKind × Nat)
  relationshipsByKind : List (RelationKind × Nat)

namespace GraphIndex

/-- List an entity under its name, its kind and, for files and folders, its path. -/
def record (ix : GraphIndex) (e : Entity) : GraphIndex :=
  { ix with
    names := ix.names.update e.name [] (· ++ [e.id])
    kinds := ix.kinds.update e.kind [] (· ++ [e.id])
    paths := if e.kind = .file ∨ e.kind = .directory then ix.paths.insert e.path e.id else ix.paths }

def ofGraph (g : Graph) : GraphIndex :=
  (Entity.sortByLocation g.entities).foldl record ⟨g, .empty, .empty, .empty⟩

/-! ## Look-ups -/

/-- The entities of exactly that name. -/
def byName (ix : GraphIndex) (name : String) : List String := (ix.names.get? name).getD []

def byKind (ix : GraphIndex) (kind : EntityKind) : List String := (ix.kinds.get? kind).getD []

/-- The file or folder at a path. -/
def byPath (ix : GraphIndex) (path : String) : Option String := ix.paths.get? path

def entitiesOfKind (ix : GraphIndex) (kind : EntityKind) : List Entity :=
  (ix.byKind kind).filterMap ix.graph.entity?

def inSourceOrder (ix : GraphIndex) (ids : List String) : List String :=
  (Entity.sortByLocation (ids.filterMap ix.graph.entity?)).map (·.id)

/-- How similar a name must be to a query, unless the caller says otherwise. -/
def fuzzyThreshold : Rat := 0.8

section Scores

variable {α : Type} [Scoring α]

/-- The entities whose lower-cased name is at least that similar to the lower-cased query. -/
def fuzzyByName (ix : GraphIndex) (query : String) (threshold : α) : List (Scored α) :=
  let needle := Text.units (Unicode.lower query)
  Scored.rank <| ix.names.entries.flatMap fun (name, ids) =>
    let score : α := Similarity.ratio needle (Text.units (Unicode.lower name))
    if Scoring.less score threshold then [] else ids.map fun id => ⟨id, score⟩

end Scores

/-! ## Neighbourhood -/

/-- The entities one relationship away, of one kind or of all. -/
def neighbors (ix : GraphIndex) (id : String) (kind : Option RelationKind) (d : Direction) : List String :=
  let wanted (r : Relationship) : Bool := kind.all (r.kind = ·)
  let targets := if d = .incoming then [] else ((ix.graph.outgoing id).filter wanted).map (·.target)
  let sources := if d = .outgoing then [] else ((ix.graph.incoming id).filter wanted).map (·.source)
  ix.inSourceOrder (distinct (targets ++ sources))

/-- Group the far ends of relationships by kind; containment is left out. -/
def groupByKind (ix : GraphIndex) (rs : List Relationship) (far : Relationship → String) :
    RelationGroups :=
  let linked := rs.filter (·.kind ≠ .contains)
  let kinds := (distinct (linked.map (·.kind))).mergeSort fun a b => Text.atMost a.name b.name
  kinds.map fun k => (k, ix.inSourceOrder (distinct ((linked.filter (·.kind = k)).map far)))

def dependencies (ix : GraphIndex) (id : String) : RelationGroups :=
  ix.groupByKind (ix.graph.outgoing id) (·.target)

def dependents (ix : GraphIndex) (id : String) : RelationGroups :=
  ix.groupByKind (ix.graph.incoming id) (·.source)

def contained (ix : GraphIndex) (id : String) : List String :=
  ix.neighbors id (some .contains) .outgoing

def containers (ix : GraphIndex) (id : String) : List String :=
  ix.neighbors id (some .contains) .incoming

/-! ## Paths -/

/-- What a search has seen: the visited ids, how each was reached, and the ids found in this round. -/
structure Frontier where
  visited : List String
  previous : Dict String String
  next : List String

/-- Follow the relationships that leave `id`, up to the one that reaches the goal. -/
def expand (goal id : String) : List Relationship → Frontier → Bool × Frontier
  | [], f => (false, f)
  | r :: rest, f =>
    if r.target ∈ f.visited then expand goal id rest f
    else
      let f := { f with visited := r.target :: f.visited, previous := f.previous.insert r.target id }
      if r.target = goal then (true, f)
      else expand goal id rest { f with next := f.next ++ [r.target] }

/-- Expand the ids of a round, one after another, until the goal is reached. -/
def expandAll (g : Graph) (goal : String) : List String → Frontier → Bool × Frontier
  | [], f => (false, f)
  | id :: rest, f =>
    match expand goal id (g.outgoing id) f with
    | (true, f) => (true, f)
    | (false, f) => expandAll g goal rest f

/-- The way back from an id, itself included, followed by `tail`. -/
def trace (previous : Dict String String) : Nat → String → List String → List String
  | 0, id, tail => id :: tail
  | fuel + 1, id, tail =>
    match previous.get? id with
    | some p => trace previous fuel p (id :: tail)
    | none => id :: tail

/-- Search round by round; each round is one hop. -/
def searchPath (g : Graph) (goal : String) : Nat → Frontier → Option (List String)
  | 0, _ => none
  | hops + 1, f =>
    match f.next with
    | [] => none
    | round =>
      match expandAll g goal round { f with next := [] } with
      | (true, f) => some (trace f.previous f.previous.size goal [])
      | (false, f) => searchPath g goal hops f

/-- The number of hops of a chain, unless the caller says otherwise. -/
def pathLimit : Nat := 5

/-- A shortest chain of ids along outgoing relationships, of at most `maxLength` hops. -/
def shortestPath (ix : GraphIndex) (start goal : String) (maxLength : Nat) : Option (List String) :=
  if !ix.graph.hasEntity start || !ix.graph.hasEntity goal then none
  else if start = goal then some [start]
  else searchPath ix.graph goal maxLength ⟨[start], .empty, [start]⟩

/-! ## Parts of the graph -/

/-- The frozen graph of the selected entities and the relationships among them; with `widen`, their
    neighbours are selected too. -/
def subgraph (ix : GraphIndex) (ids : List String) (widen : Bool) : Graph :=
  let known := distinct (ids.filter ix.graph.hasEntity)
  let selected :=
    if widen then distinct (known ++ known.flatMap fun id => ix.neighbors id none .both) else known
  let bare := (selected.filterMap ix.graph.entity?).foldl Graph.insertEntity Graph.empty
  let inner := selected.flatMap fun id => (ix.graph.outgoing id).filter fun r => r.target ∈ selected
  (inner.foldl Graph.linkIfKnown bare).freeze

/-- One child met on a walk: visit it unless it was visited. -/
def meet (g : Graph) (state : List String × List String × List Entity) (child : String) :
    List String × List String × List Entity :=
  let (visited, stack, found) := state
  if child ∈ visited then state
  else (child :: visited, child :: stack, found ++ (g.entity? child).toList)

/-- Walk containment, the last entity met first. -/
def collect (ix : GraphIndex) : Nat → List String → List String → List Entity → List Entity
  | 0, _, _, found => found
  | _ + 1, _, [], found => found
  | fuel + 1, visited, id :: stack, found =>
    let (visited, stack, found) := (ix.contained id).foldl (meet ix.graph) (visited, stack, found)
    collect ix fuel visited stack found

def lineLe (a b : Entity) : Bool :=
  if a.startLine ≠ b.startLine then a.startLine < b.startLine else Text.atMost a.id b.id

/-- Every entity reached through containment from the file at a path, by first line. -/
def entitiesInFile (ix : GraphIndex) (path : String) : List String :=
  match ix.byPath path with
  | none => []
  | some id =>
    if id ≠ "" ∧ (ix.graph.entity? id).map (·.kind) = some .file then
      ((ix.collect (ix.graph.entityMap.size + 1) [id] [id] []).mergeSort lineLe).map (·.id)
    else []

/-! ## Relevance -/

/-- How similar a name must be to count as related, unless the caller says otherwise. -/
def relatedThreshold : Rat := 0.6

/-- The number of related entities, unless the caller says otherwise. -/
def relatedLimit : Rat := 10

section Relevance

variable {α : Type} [Scoring α]

/-- The least score of a name that contains the query. -/
def substringScore : α := Scoring.ofRat 0.8

/-- How much an entity's kind counts. -/
def kindWeight (k : EntityKind) : α :=
  if k.isSymbol then Scoring.ofRat 1 else if k = .file then Scoring.ofRat 0.9 else Scoring.ofRat 0.7

/-- The number of relationships of an entity other than containment. -/
def degree (ix : GraphIndex) (id : String) : Nat :=
  ((ix.graph.outgoing id).filter (·.kind ≠ .contains)).length
    + ((ix.graph.incoming id).filter (·.kind ≠ .contains)).length

/-- How well connected an entity is; five relationships are the most that count. -/
def connectivity (ix : GraphIndex) (id : String) : α :=
  Scoring.smaller (Scoring.ofNat 1) (Scoring.ofNat (ix.degree id) / Scoring.ofNat 5)

/-- How well a lower-cased name matches a lower-cased query, if it matches. -/
def nameScore (needle : String) (threshold : α) (name : String) : Option α :=
  let similarity : α := Similarity.ratio (Text.units needle) (Text.units name)
  if name = needle then some (Scoring.ofNat 1)
  else if Text.includes name needle then some (Scoring.larger substringScore similarity)
  else if Scoring.less similarity threshold then none
  else some similarity

/-- Blend a name's score with the kind and the connectivity of the entity. -/
def relevance (ix : GraphIndex) (score : α) (e : Entity) : α :=
  let half : α := Scoring.ofRat 0.5
  let structural := half * kindWeight e.kind + half * ix.connectivity e.id
  Scoring.ofRat 0.8 * score + Scoring.ofRat 0.2 * structural

/-- The entities whose name matches the query, by relevance. -/
def searchRelated (ix : GraphIndex) (query : String) (maxResults : Rat) (threshold : α) :
    List (Scored α) :=
  let needle := Unicode.lower (Text.trim query)
  if needle = "" ∨ maxResults ≤ 0 then []
  else
    upTo maxResults <| Scored.rank <| ix.names.entries.flatMap fun (name, ids) =>
      match nameScore needle threshold (Unicode.lower name) with
      | none => []
      | some score => (ids.filterMap ix.graph.entity?).map fun e => ⟨e.id, ix.relevance score e⟩

end Relevance

/-- The counts of the graph. -/
def stats (ix : GraphIndex) : GraphStats where
  entities := ix.graph.entityMap.size
  relationships := ix.graph.relationshipMap.size
  files := (ix.byKind .file).length
  entitiesByKind := ix.kinds.entries.map fun (k, ids) => (k, ids.length)
  relationshipsByKind :=
    (ix.graph.relationships.foldl (fun d r => d.update r.kind 0 (· + 1)) (Dict.empty)).entries

end GraphIndex

end CodeAtlas
