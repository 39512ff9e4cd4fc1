import CodeAtlas.FileTree

set_option autoImplicit false

/-! # Faults

Why an operation did not succeed, one constructor per cause, and the wording of each. -/

namespace CodeAtlas

/-- A configuration that cannot be used: what is wrong, and the issues found in it. -/
structure ConfigError where
  summary : String
  issues : List String
deriving DecidableEq

/-- The wording: the summary, and the issues after it. -/
def ConfigError.message (e : ConfigError) : String :=
  if e.issues = [] then e.summary else e.summary ++ ": " ++ "; ".intercalate e.issues

/-- The causes of failure. -/
inductive Fault where
  /-- A relationship names an entity that the graph does not hold. -/
  | unknownEndpoint (relationshipId missingId : String)
  /-- An index was asked before it was built. -/
  | indexNotBuilt (name : String)
  /-- A frozen graph was asked to change. -/
  | frozenGraph (operation : String)
  | config (e : ConfigError)
  /-- A build was started while another one runs. -/
  | buildInProgress (root : String)
  /-- A file operation failed. -/
  | file (e : FileError)
  | longPattern
  /-- A pattern whose regular expression is refused. -/
  | badExpression (source : String)
  /-- Any other failure, by its text. -/
  | failure (text : String)
deriving DecidableEq

/-- The wording of a fault. -/
def Fault.message : Fault → String
  | unknownEndpoint r e => "Relationship " ++ r ++ " references unknown entity " ++ e
  | indexNotBuilt n => n ++ " has not been built; call build() or load a snapshot first"
  | frozenGraph op => "Cannot " ++ op ++ ": graph is frozen"
  | config e => e.message
  | buildInProgress root => "A build of " ++ root ++ " is already running"
  | file e => e.message
  | longPattern => "pattern is too long"
  | badExpression source => "Invalid regular expression: /^" ++ source ++ "$/u: Invalid escape"
  | failure text => text

end CodeAtlas
