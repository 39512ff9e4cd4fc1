import CodeAtlas.Config
import CodeAtlas.Graph.Index
import CodeAtlas.Search.Bm25

set_option autoImplicit false

/-! # Queries over both indices

Lexical search, search by name and structure, search steered by words such as `class` or `file`, and the
fusion of the first two; further the entities of a kind and the neighbours of an entity. -/

namespace CodeAtlas.Search

/-- How a query is answered. -/
inductive Mode where
  | text
  | graph
  | structural
  | hybrid
deriving DecidableEq

namespace Mode

/-- The name of a mode. -/
def name : Mode → String
  | text => "text"
  | graph => "graph"
  | .structural => "structure"
  | hybrid => "hybrid"

/-- Every mode, in the order messages list them. -/
def all : List Mode := [text, graph, structural, hybrid]

def ofName? (s : String) : Option Mode := all.find? (·.name = s)

end Mode

/-- Which neighbours of an entity are wanted. -/
inductive Relation where
  | all
  | dependencies
  | dependents
  | contained
  | container
deriving DecidableEq

namespace Relation

/-- The name of a relation. -/
def name : Relation → String
  | all => "all"
  | dependencies => "dependencies"
  | dependents => "dependents"
  | contained => "contained"
  | container => "container"

/-- Every relation, in the order messages list them. -/
def values : List Relation := [all, dependencies, dependents, contained, container]

def ofName? (s : String) : Option Relation := values.find? (·.name = s)

/-- Does the wish for `r` include the relation `part`? -/
def wants (r part : Relation) : Bool := r = all || r = part

end Relation

/-- Where a hit comes from. -/
inductive Source where
  | mode (m : Mode)
  | kind
  | related
deriving DecidableEq

/-- The name of a source. -/
def Source.name : Source → String
  | mode m => m.name
  | kind => "kind"
  | related => "related"

/-- A found entity. -/
structure Hit (α : Type) where
  entityId : String
  score : α
  source : Source
  summary : Entity.Summary

/-- Ranked hits. A query that cannot be answered has none and a diagnostic. -/
structure Outcome (α : Type) where
  results : List (Hit α)
  diagnostic : Option String := none

def unsupported {α : Type} (diagnostic : String) : Outcome α := ⟨[], some diagnostic⟩

/-- The kinds that a query word steers to. -/
def steeredKinds (term : String) : Option (List EntityKind) :=
  if term ∈ ["file", "module", "script"] then some [.file]
  else if term ∈ ["class", "object", "type"] then some [.classDecl, .interfaceDecl]
  else if term ∈ ["function", "method", "def"] then some [.functionDecl, .methodDecl]
  else none

/-- Both indices of one graph, and how they are weighted. -/
structure Retriever (α : Type) where
  index : GraphIndex
  text : Bm25 α
  config : RetrievalConfig

namespace Retriever

variable {α : Type}

/-- The hits of scored ids; an unknown id is left out. -/
def hits (r : Retriever α) (source : Source) (l : List (Scored α)) : List (Hit α) :=
  l.filterMap fun s => (r.index.graph.entity? s.id).map fun e => ⟨s.id, s.score, source, e.summary⟩

variable [Scoring α]

/-- Fuse two rankings by id: the weighted scores of an id found by both are added, with a bonus. -/
def fuse (w : Weights) (text graph : List (Scored α)) : List (Scored α) :=
  let fromText : Dict String α :=
    Dict.ofList (text.map fun s => (s.id, s.score * Scoring.ofRat w.text))
  let both := graph.foldl (fun d s =>
    d.insert s.id (match d.get? s.id with
      | none => s.score * Scoring.ofRat w.graph
      | some t => t + s.score * Scoring.ofRat w.graph + Scoring.ofRat w.agreementBonus)) fromText
  both.entries.map fun (id, score) => ⟨id, score⟩

/-- Text and graph candidates, twice as many as wanted, fused by id. -/
def hybridSearch (r : Retriever α) (query : String) (topK : Rat) : Except Fault (List (Scored α)) := do
  let text ← r.text.search query (topK * 2)
  let graph := r.index.searchRelated query (topK * 2) (Scoring.ofRat r.config.fuzzyThreshold)
  return upTo topK (Scored.rank (fuse r.config.weights text graph))

/-- The share of the terms that a lower-cased name contains; all of none. -/
def share (terms : List String) (name : String) : α :=
  if terms = [] then Scoring.ofNat 1
  else Scoring.ofNat (terms.filter (Text.includes name)).length / Scoring.ofNat terms.length

/-- Entities of the kinds that query words name, scored by the share of the other words in their names. -/
def structureSearch (r : Retriever α) (query : String) (topK : Rat) : List (Scored α) :=
  let words := tokenize query
  let kinds := distinct (words.filterMap steeredKinds).flatten
  let terms := words.filter fun t => (steeredKinds t).isNone
  if kinds = [] ∧ terms = [] then []
  else
    let weight : α := if kinds = [] then Scoring.ofRat 0.5 else Scoring.ofNat 1
    let candidates :=
      if kinds = [] then r.index.graph.entities else kinds.flatMap r.index.entitiesOfKind
    let scored := candidates.filterMap fun e =>
      let s : α := share terms (Unicode.lower e.name)
      if Scoring.less (Scoring.ofNat 0) s then some ⟨e.id, s * weight⟩ else none
    upTo topK (Scored.rank scored)

/-- The best ids of a mode. -/
def rank (r : Retriever α) (query : String) (mode : Mode) (topK : Rat) :
    Except Fault (List (Scored α)) :=
  if topK ≤ 0 then .ok []
  else match mode with
    | .text => r.text.search query topK
    | .graph => .ok (r.index.searchRelated query topK (Scoring.ofRat r.config.fuzzyThreshold))
    | .structural => .ok (r.structureSearch query topK)
    | .hybrid => r.hybridSearch query topK

/-- Answer a query in the mode of that name. -/
def search (r : Retriever α) (query mode : String) (topK : Option Rat) : Except Fault (Outcome α) :=
  match Mode.ofName? mode with
  | none => .ok (unsupported ("Unsupported search mode \"" ++ mode ++ "\"; expected one of "
      ++ ", ".intercalate (Mode.all.map Mode.name)))
  | some m => do
    let ranked ← r.rank query m (topK.getD r.config.topK)
    return ⟨r.hits (.mode m) ranked, none⟩

/-- How well a name fits filter terms: 1 for a term it contains, a half for a term that contains one of
    its segments. -/
def filterScore (name : String) (terms : List String) : α :=
  let lowered := Unicode.lower name
  let segments := (nameSegments name).filter fun s => 1 < Text.unitLength s
  terms.foldl (fun score t =>
    if Text.includes lowered t then score + Scoring.ofNat 1
    else if segments.any (Text.includes t) then score + Scoring.ofRat 0.5
    else score) (Scoring.ofNat 0)

/-- The entities of the kind of that name, ranked by the terms of a name filter. -/
def searchByKind (r : Retriever α) (kind : String) (filter : Option String) (topK : Option Rat) :
    Outcome α :=
  let topK := topK.getD r.config.topK
  match EntityKind.ofName? kind with
  | none => unsupported ("Unsupported entity kind \"" ++ kind ++ "\"; expected one of "
      ++ ", ".intercalate (EntityKind.all.map EntityKind.name))
  | some k =>
    if topK ≤ 0 then ⟨[], none⟩
    else
      match Text.words (Unicode.lower (filter.getD "")) with
      | [] => ⟨r.hits .kind ((upTo topK (r.index.byKind k)).map fun id => ⟨id, Scoring.ofNat 1⟩), none⟩
      | terms =>
        let scored := (r.index.entitiesOfKind k).filterMap fun e =>
          let s : α := filterScore e.name terms
          if Scoring.less (Scoring.ofNat 0) s then some ⟨e.id, s⟩ else none
        ⟨r.hits .kind (upTo topK (Scored.rank scored)), none⟩

/-- The neighbours of an entity by relation, each once: what it depends on, what depends on it, what it
    contains, what contains it. -/
def relatedIds (r : Retriever α) (id : String) (relation : Relation) : List String :=
  let part (p : Relation) (l : List String) : List String := if relation.wants p then l else []
  distinct (part .dependencies ((r.index.dependencies id).flatMap (·.2))
    ++ part .dependents ((r.index.dependents id).flatMap (·.2))
    ++ part .contained (r.index.contained id)
    ++ part .container (r.index.containers id))

/-- The neighbours of an entity by the relation of that name. -/
def relatedEntities (r : Retriever α) (id relation : String) (maxResults : Option Rat) : Outcome α :=
  match Relation.ofName? relation with
  | none => unsupported ("Unsupported relation \"" ++ relation ++ "\"; expected one of "
      ++ ", ".intercalate (Relation.values.map Relation.name))
  | some wanted =>
    if r.index.graph.hasEntity id then
      let ids := upTo (maxResults.getD r.config.topK) (r.relatedIds id wanted)
      ⟨r.hits .related (ids.map fun id => ⟨id, Scoring.ofNat 1⟩), none⟩
    else unsupported ("Unknown entity " ++ id)

end Retriever

/-! ## Listing -/

/-- One line of a listing and the id below it. -/
def formatHit (rank : Nat) (h : Hit Float) : String :=
  toString rank ++ ". **" ++ h.summary.name ++ "** (" ++ h.summary.kind.name ++ ") " ++ h.summary.path
    ++ ":" ++ Number.text h.summary.startLine ++ "-" ++ Number.text h.summary.endLine ++ " score "
    ++ Number.fixedFloat 3 h.score ++ "\n   id: " ++ h.entityId

/-- The hits as a list under a title, or the diagnostic when there are none. -/
def formatOutcome (title : String) (o : Outcome Float) : String :=
  if o.results.isEmpty then o.diagnostic.getD (title ++ ": no results")
  else
    "\n".intercalate <|
      ["## " ++ title ++ " (" ++ toString o.results.length ++ ")", ""]
        ++ o.results.zipIdx.map (fun (h, i) => formatHit (i + 1) h)
        ++ (match nonEmpty? o.diagnostic with
          | some d => ["", d]
          | none => [])

end CodeAtlas.Search
