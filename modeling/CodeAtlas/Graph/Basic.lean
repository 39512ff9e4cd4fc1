import CodeAtlas.Dict
import CodeAtlas.Entity
import CodeAtlas.Fault

set_option autoImplicit false

/-! # The knowledge graph

Entities joined by directed relationships, with the relationships that leave and enter each entity at
hand. Two entities may be joined several times. Ids identify: an entity added again replaces the one
before it, and a relationship added again is the one already there. A frozen graph cannot change. -/

namespace CodeAtlas

/-- Entities, relationships and, per entity, the relationships that leave and enter it. -/
structure Graph where
  entityMap : Dict String Entity
  relationshipMap : Dict String Relationship
  leaving : Dict String (List Relationship)
  entering : Dict String (List Relationship)
  frozen : Bool

/-- The stored form of a graph. -/
structure GraphSnapshot where
  entities : List Entity
  relationships : List Relationship

namespace Graph

def empty : Graph := ⟨.empty, .empty, .empty, .empty, false⟩

/-! ## Reading -/

def entity? (g : Graph) (id : String) : Option Entity := g.entityMap.get? id

def hasEntity (g : Graph) (id : String) : Bool := g.entityMap.contains id

def relationship? (g : Graph) (id : String) : Option Relationship := g.relationshipMap.get? id

/-- All entities, in the order they were first added. -/
def entities (g : Graph) : List Entity := g.entityMap.values

/-- All relationships, in the order they were first added. -/
def relationships (g : Graph) : List Relationship := g.relationshipMap.values

/-- The relationships that leave an entity. -/
def outgoing (g : Graph) (id : String) : List Relationship := (g.leaving.get? id).getD []

/-- The relationships that enter an entity. -/
def incoming (g : Graph) (id : String) : List Relationship := (g.entering.get? id).getD []

/-! ## Changing -/

/-- Insert an entity, or replace the one of its id; the relationships of the id stay. -/
def insertEntity (g : Graph) (e : Entity) : Graph :=
  { g with
    entityMap := g.entityMap.insert e.id e
    leaving := g.leaving.insertNew e.id []
    entering := g.entering.insertNew e.id [] }

/-- The first endpoint of a relationship that is no entity of the graph, source before target. -/
def missingEndpoint? (g : Graph) (r : Relationship) : Option String :=
  [r.source, r.target].find? fun id => !g.hasEntity id

/-- Link two entities. A missing endpoint is a fault; a relationship whose id is known stays as it is. -/
def link (g : Graph) (r : Relationship) : Except Fault (Graph × Relationship) :=
  match g.missingEndpoint? r with
  | some id => .error (.unknownEndpoint r.id id)
  | none =>
    match g.relationship? r.id with
    | some known => .ok (g, known)
    | none =>
      .ok ({ g with
        relationshipMap := g.relationshipMap.insert r.id r
        leaving := g.leaving.update r.source [] (· ++ [r])
        entering := g.entering.update r.target [] (· ++ [r]) }, r)

/-- Link two entities if both are known; otherwise leave the graph as it is. -/
def linkIfKnown (g : Graph) (r : Relationship) : Graph :=
  match g.link r with
  | .ok (g, _) => g
  | .error _ => g

/-- Take a relationship out of the graph and out of the lists of its endpoints. -/
def detach (g : Graph) (r : Relationship) : Graph :=
  if g.relationshipMap.contains r.id then
    { g with
      relationshipMap := g.relationshipMap.erase r.id
      leaving := dropFrom g.leaving r.source
      entering := dropFrom g.entering r.target }
  else g
where
  /-- The list of one endpoint without the relationship. -/
  dropFrom (d : Dict String (List Relationship)) (id : String) : Dict String (List Relationship) :=
    match d.get? id with
    | some l => d.insert id (l.filter (·.id ≠ r.id))
    | none => d

/-- Take an entity out of the graph with every relationship that touches it. -/
def removeEntity (g : Graph) (id : String) : Graph :=
  let g := (g.outgoing id ++ g.incoming id).foldl detach g
  { g with
    entityMap := g.entityMap.erase id
    leaving := g.leaving.erase id
    entering := g.entering.erase id }

/-- Is the entity located in the file of that path? Folders are in no file. -/
def inFile (path : String) (e : Entity) : Bool :=
  e.kind ≠ .directory && e.path = path

/-- Remove every entity located in a file and every relationship that touches one; the removed ids come
    with the graph. -/
def dropFile (g : Graph) (path : String) : Graph × List String :=
  let removed := (g.entities.filter (inFile path)).map (·.id)
  (removed.foldl removeEntity g, removed)

/-- The graph, closed to changes. -/
def freeze (g : Graph) : Graph := { g with frozen := true }

/-! ## Guarded changes -/

/-- Refuse an operation on a frozen graph. -/
def whileOpen {α : Type} (g : Graph) (operation : String) (result : α) : Except Fault α :=
  if g.frozen then .error (.frozenGraph operation) else .ok result

/-- Insert or replace an entity, unless the graph is frozen. -/
def addEntity (g : Graph) (e : Entity) : Except Fault Graph :=
  g.whileOpen "add entity" (g.insertEntity e)

/-- Link two entities, unless the graph is frozen; an unknown endpoint is reported beside the unchanged
    graph. -/
def addRelationship (g : Graph) (r : Relationship) : Except Fault (Graph × Except Fault Relationship) :=
  g.whileOpen "add relationship" <|
    match g.link r with
    | .ok (g, r) => (g, .ok r)
    | .error f => (g, .error f)

/-- Remove a file's entities, unless the graph is frozen. -/
def removeFile (g : Graph) (path : String) : Except Fault (Graph × List String) :=
  g.whileOpen "remove file" (g.dropFile path)

/-! ## Snapshots -/

/-- The stored form: entities and relationships by id. -/
def toSnapshot (g : Graph) : GraphSnapshot where
  entities := Entity.sortById g.entities
  relationships := Relationship.sortById g.relationships

/-- The open graph of the given entities and relationships; the first relationship without an endpoint is
    a fault. -/
def ofLists (es : List Entity) (rs : List Relationship) : Except Fault Graph :=
  rs.foldlM (fun g r => (g.link r).map (·.1)) (es.foldl insertEntity empty)

def ofSnapshot (s : GraphSnapshot) : Except Fault Graph :=
  ofLists s.entities s.relationships

/-- An open graph of the same entities and relationships. -/
def copy (g : Graph) : Graph :=
  g.relationships.foldl linkIfKnown (g.entities.foldl insertEntity empty)

end Graph

end CodeAtlas
