import CodeAtlas.Fault
import CodeAtlas.Json.Parse
import CodeAtlas.Schema

set_option autoImplicit false

/-! # Configuration

Values come from layers, later ones winning: the defaults, an optional file in the repository root, and
what the caller gives. Layers are merged member by member before the result is checked. -/

namespace CodeAtlas

/-- What is indexed. -/
structure GraphConfig where
  /-- The extensions indexed; if there are none given, every one a reader claims. -/
  extensions : Option (List String)
  skipPatterns : List String
  respectGitignore : Bool
  maxDepth : Nat
  maxFileSize : Nat
  concurrency : Nat
deriving DecidableEq

/-- How the scores of a hybrid search are weighted. -/
structure Weights where
  text : Rat
  graph : Rat
  agreementBonus : Rat
deriving DecidableEq

/-- How searches rank. -/
structure RetrievalConfig where
  k1 : Rat
  b : Rat
  topK : Nat
  fuzzyThreshold : Rat
  fileContentLines : Nat
  weights : Weights
deriving DecidableEq

/-- A complete configuration. -/
structure Config where
  graph : GraphConfig
  retrieval : RetrievalConfig
  cacheDir : String
deriving DecidableEq

namespace Config

/-- The name of the configuration file in a repository root. -/
def fileName : String := "repograph.config.json"

/-- The globs of folders and files that are never indexed. -/
def defaultSkipPatterns : List String :=
  ["node_modules", ".git", ".github", ".svn", ".hg", "dist", "build", "out", ".next", ".nuxt", "coverage",
    ".nyc_output", "__pycache__", ".pytest_cache", ".mypy_cache", ".tox", "venv", ".venv", ".idea",
    ".vscode", "*.min.js", "*.bundle.js", "*.min.css"]

/-- The weights when none are given. -/
def defaultWeights : Weights := ⟨0.6, 0.4, 0.2⟩

/-- The ranking when nothing is given. -/
def defaultRetrieval : RetrievalConfig := ⟨1.2, 0.75, 10, 0.6, 50, defaultWeights⟩

/-- The filters when nothing is given. -/
def defaultGraph : GraphConfig := ⟨none, defaultSkipPatterns, true, 20, 1048576, 8⟩

/-- The snapshot folder of a home directory. -/
def defaultCacheDir (home : String) : String :=
  Path.join (Path.join home ".cache") "repograph"

/-! ## Shapes -/

open Schema

/-- An extension is a dot and ASCII letters or digits. -/
def extensionShape (v : Json) : Checked String :=
  match string v with
  | .valid s =>
    match s.toList with
    | '.' :: c :: rest => if (c :: rest).all Char.isAlphanum then .valid s else issue "Invalid"
    | _ => issue "Invalid"
  | .invalid l => .invalid l

/-- The shape of the indexing part. -/
def graphShape (ms : List (String × Json)) : Checked GraphConfig :=
  GraphConfig.mk
    <$> optional "extensions" (array extensionShape) ms
    <*> withDefault "skipPatterns" (array string) defaultSkipPatterns ms
    <*> withDefault "respectGitignore" boolean true ms
    <*> withDefault "maxDepth" (natural [.atLeast 0]) 20 ms
    <*> withDefault "maxFileSize" (natural [.positive]) 1048576 ms
    <*> withDefault "concurrency" (natural [.atLeast 1, .atMost 64]) 8 ms

/-- The shape of the weights. -/
def weightsShape (ms : List (String × Json)) : Checked Weights :=
  Weights.mk
    <$> withDefault "text" (number [.atLeast 0]) defaultWeights.text ms
    <*> withDefault "graph" (number [.atLeast 0]) defaultWeights.graph ms
    <*> withDefault "agreementBonus" (number [.atLeast 0]) defaultWeights.agreementBonus ms

/-- The shape of the ranking part. -/
def retrievalShape (ms : List (String × Json)) : Checked RetrievalConfig :=
  RetrievalConfig.mk
    <$> withDefault "k1" (number [.positive]) defaultRetrieval.k1 ms
    <*> withDefault "b" (number [.atLeast 0, .atMost 1]) defaultRetrieval.b ms
    <*> withDefault "topK" (natural [.positive]) defaultRetrieval.topK ms
    <*> withDefault "fuzzyThreshold" (number [.atLeast 0, .atMost 1]) defaultRetrieval.fuzzyThreshold ms
    <*> withDefault "fileContentLines" (natural [.atLeast 0]) defaultRetrieval.fileContentLines ms
    <*> withDefault "weights" (object weightsShape) defaultWeights ms

/-- The shape of a configuration. -/
def shape (home : String) (ms : List (String × Json)) : Checked Config :=
  Config.mk
    <$> withDefault "graph" (object graphShape) defaultGraph ms
    <*> withDefault "retrieval" (object retrievalShape) defaultRetrieval ms
    <*> withDefault "cacheDir" string (defaultCacheDir home) ms

/-! ## Layers -/

/-- A layer: the members of a JSON object. -/
abbrev Layer := List (String × Json)

/-- The name of the member that says what an object inherits. -/
def inheritName : String := "__proto__"

/-- A value of merged layers. What a layer was laid over is an object of its own members and those it inherits. -/
inductive Merged where
  | value (v : Json)
  | object (own inherited : List (String × Merged))

namespace Merged

/-- The own members of an object. -/
def own? : Merged → Option (List (String × Merged))
  | value (.object ms) => some (ms.map fun m => (m.1, value m.2))
  | value _ => none
  | object own _ => some own

/-- The members that reading an object meets, its own first; of anything else none. -/
def visible : Merged → List (String × Merged)
  | value (.object ms) => ms.map fun m => (m.1, value m.2)
  | value _ => []
  | object own inherited => own ++ inherited

mutual

/-- The value as it is read: members that are inherited are like own ones, unless those hide them. -/
def toJson : Merged → Json
  | value v => v
  | object own inherited => .object (membersToJson own ++ membersToJson inherited)

/-- The members as they are read. -/
def membersToJson : List (String × Merged) → List (String × Json)
  | [] => []
  | (name, m) :: rest => (name, m.toJson) :: membersToJson rest

end

end Merged

mutual

/-- Lay a value over another: objects merge member by member, anything else replaces. What the lower object
    inherited is left behind. -/
def overlayValue (base : Option Merged) : Json → Merged
  | .object upper =>
    match base.bind Merged.own? with
    | some own =>
      let merged := overlayMembers own [] upper
      .object merged.1 merged.2
    | none => .value (.object upper)
  | v => .value v

/-- Lay the members of one object over those of another, one after the other. A member that is not there yet and has
    the name that says what an object inherits says so. -/
def overlayMembers (own inherited : List (String × Merged)) :
    Layer → List (String × Merged) × List (String × Merged)
  | [] => (own, inherited)
  | (name, v) :: rest =>
    if name = inheritName ∧ own.lookup name = none then
      overlayMembers own (overlayValue (some (.object [] [])) v).visible rest
    else
      overlayMembers (Json.setMember name (overlayValue ((own ++ inherited).lookup name) v) own) inherited rest

end

/-- All layers merged, the first one lowest. -/
def mergeLayers (layers : List Layer) : Merged :=
  layers.foldl (fun base layer => overlayValue (some base) (.object layer)) (.object [] [])

/-- The complete configuration that layers give, or every issue in it. -/
def resolve (home : String) (layers : List Layer) : Except ConfigError Config :=
  match shape home (mergeLayers layers).toJson.members with
  | .valid c => .ok c
  | .invalid issues => .error ⟨"Invalid configuration", issues.map Issue.text⟩

/-- A configuration as a layer. -/
def toLayer (c : Config) : Layer :=
  let extensions := match c.graph.extensions with
    | some l => [("extensions", Json.array (l.map Json.string))]
    | none => []
  [("graph", .object (extensions ++
      [("skipPatterns", .array (c.graph.skipPatterns.map Json.string)),
       ("respectGitignore", .bool c.graph.respectGitignore),
       ("maxDepth", .nat c.graph.maxDepth),
       ("maxFileSize", .nat c.graph.maxFileSize),
       ("concurrency", .nat c.graph.concurrency)])),
   ("retrieval", .object
      [("k1", .number c.retrieval.k1),
       ("b", .number c.retrieval.b),
       ("topK", .nat c.retrieval.topK),
       ("fuzzyThreshold", .number c.retrieval.fuzzyThreshold),
       ("fileContentLines", .nat c.retrieval.fileContentLines),
       ("weights", .object
         [("text", .number c.retrieval.weights.text),
          ("graph", .number c.retrieval.weights.graph),
          ("agreementBonus", .number c.retrieval.weights.agreementBonus)])]),
   ("cacheDir", .string c.cacheDir)]

/-! ## The configuration file -/

/-- The layer in the configuration file of a root; none if there is no such file. -/
def readLayer (disk : FileTree) (root : String) : Except ConfigError Layer :=
  let file := Path.join root fileName
  match disk.read file with
  | .error (.notFound _ _) => .ok []
  | .error e => .error ⟨"Cannot read " ++ file ++ ": " ++ e.message, []⟩
  | .ok bytes =>
    match Json.parse? (Text.decodeLossy bytes) with
    | none => .error ⟨"Invalid JSON in " ++ file ++ ": malformed text", []⟩
    | some (.object ms) => .ok ms
    | some _ => .error ⟨file ++ " must contain a JSON object", []⟩

/-- The configuration of a repository: the file's layer with the caller's over it. -/
def load (disk : FileTree) (home root : String) (overrides : Layer) : Except ConfigError Config := do
  let fromFile ← readLayer disk root
  resolve home [fromFile, overrides]

end Config

end CodeAtlas
