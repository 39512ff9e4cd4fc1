import CodeAtlas.Json.Basic
import CodeAtlas.Path

set_option autoImplicit false

/-! # Log lines

Every line goes to the error stream, warnings through a sink of their own. A level below the current
one is left out. -/

namespace CodeAtlas.Log

/-- The level a line is written at. -/
inductive Level where
  | debug
  | info
  | warn
  | error
deriving DecidableEq

/-- The level from which on lines are written. Two further names are accepted, and order nothing. -/
inductive Threshold where
  | atLevel (l : Level)
  | silent
  | unordered (name : String)
deriving DecidableEq

/-- The name of a level. -/
def Level.name : Level → String
  | debug => "debug"
  | info => "info"
  | warn => "warn"
  | error => "error"

def Level.ofName? (s : String) : Option Level :=
  [Level.debug, .info, .warn, .error].find? (·.name = s)

/-- The rank of a level. -/
def Level.rank : Level → Nat
  | debug => 10
  | info => 20
  | warn => 30
  | error => 40

/-- The name of a threshold. -/
def Threshold.name : Threshold → String
  | atLevel l => l.name
  | silent => "silent"
  | unordered n => n

/-- The names that are accepted without an order. -/
def unorderedNames : List String := ["constructor", "__proto__"]

/-- The threshold that a setting asks for; without a usable setting it is `info`. -/
def threshold (setting : Option String) : Threshold :=
  let name := Unicode.lower (Text.trim (setting.getD ""))
  match Level.ofName? name with
  | some l => .atLevel l
  | none =>
    if name = "silent" then .silent
    else if name ∈ unorderedNames then .unordered name
    else .atLevel .info

/-- Is a line of the level written? -/
def Threshold.passes (t : Threshold) (l : Level) : Bool :=
  match t with
  | atLevel m => m.rank ≤ l.rank
  | silent => false
  | unordered _ => true

/-- A written line. -/
structure Line where
  /-- Written by the sink for warnings. -/
  warns : Bool
  text : String
  context : Option Json

/-- The line of a message, if the threshold lets it through. An empty context is left out. -/
def line? (t : Threshold) (scope : String) (l : Level) (message : String) (context : Option Json) :
    Option Line :=
  if t.passes l then
    some {
      warns := l = .warn
      text := "[" ++ scope ++ "] " ++ message
      context := context.filter fun c => !c.members.isEmpty }
  else none

end CodeAtlas.Log
