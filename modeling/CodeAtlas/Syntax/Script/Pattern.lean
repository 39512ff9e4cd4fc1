import CodeAtlas.Syntax.Script.Types

set_option autoImplicit false

/-! # Patterns and parameters

Names are bound one by one or by taking objects and arrays apart. A pattern on the left side of an
assignment is read as an expression first and then turned into a pattern. -/

namespace CodeAtlas.Syntax.Script

open Reading

/-! ## Patterns -/

/-- The value that a pattern has by default, behind it. -/
def withDefault (n : Node) : Read Node := do
  let t ← next
  if t.isSign "=" then
    let equals ← take t
    return .branch "assignment_pattern"
      [n.withField "left", equals, ← field "right" (.expression .never)]
  else return n

def restPattern : Read Node := do
  return .branch "rest_pattern" [← sign "...", ← nodeOf .pattern]

/-- A part of an object pattern. -/
def objectPatternPart : Read (List Node) := do
  let t ← next
  let second ← after t
  if t.isSign "," then return []
  else if t.isSign "..." then return [← restPattern]
  else if t.kind = .word ∧ !second.isSign ":" then
    let id ← takeAs "shorthand_property_identifier_pattern" t
    if second.isSign "=" then
      let equals ← take second
      return [.branch "object_assignment_pattern"
        [id.withField "left", equals, ← field "right" (.expression .never)]]
    else return [id]
  else
    let key := (← propertyName).withField "key"
    let colon ← sign ":"
    let value ← withDefault (← nodeOf .pattern)
    return [.branch "pair_pattern" [key, colon, value.withField "value"]]

/-- A part of an array pattern; there may be none between two commas. -/
def arrayPatternPart : Read (List Node) := do
  let t ← next
  if t.isSign "," then return []
  else if t.isSign "..." then return [← restPattern]
  else return [← withDefault (← nodeOf .pattern)]

/-- A pattern. -/
def pattern : Read Node := do
  let t ← next
  if t.isSign "\x7b" then bracketed "object_pattern" "\x7b" "\x7d" objectPatternPart
  else if t.isSign "[" then bracketed "array_pattern" "[" "]" arrayPatternPart
  else name "identifier"

/-! ## From expressions -/

/-- Kinds of expression that may stand on the left side of an assignment as they are. -/
def targetKinds : List String :=
  ["identifier", "member_expression", "subscript_expression", "parenthesized_expression",
    "non_null_expression", "this", "undefined", "shorthand_property_identifier_pattern",
    "object_assignment_pattern", "object_pattern", "array_pattern", "rest_pattern", "assignment_pattern"]

/-- The kind of pattern that is made from a kind of expression. -/
def patternKind? : String → Option String
  | "object" => some "object_pattern"
  | "array" => some "array_pattern"
  | "pair" => some "pair_pattern"
  | "spread_element" => some "rest_pattern"
  | "shorthand_property_identifier" => some "shorthand_property_identifier_pattern"
  | "assignment_expression" => some "assignment_pattern"
  | _ => none

mutual

/-- An expression as the left side of an assignment, if it can be one. -/
def toPattern? : Node → Option Node
  | .mk i cs =>
    if targetKinds.contains i.kind then some (.mk i cs)
    else (patternKind? i.kind).bind fun kind =>
      (toPatterns? cs).map fun cs => .mk { i with kind } cs

/-- The parts of a pattern. Keys and default values stay as they are. -/
def toPatterns? : List Node → Option (List Node)
  | [] => some []
  | c :: rest =>
    let stays := !c.isNamed || c.info.field = some "key" || c.info.field = some "right"
    if stays then (toPatterns? rest).map (c :: ·)
    else do
      let first ← toPattern? c
      let rest ← toPatterns? rest
      return first :: rest

end

/-! ## Parameters -/

def leadingDecorators : Read (List Node) := gather do
  if (← next).isSign "@" then return some [← field "decorator" .decorator] else return none

/-- A parameter with a type. -/
def typedParameter : Read (List Node) := do
  let marks ← leadingDecorators
  let words ← modifiers (accessWords ++ ["override", "readonly"])
  let t ← next
  let target ← if t.isSign "..." then restPattern
    else if t.isWord "this" then takeAs "this" t
    else nodeOf .pattern
  let optional ← signIf "?"
  let type ← typeAnnotation? .never
  let value ← initializer? .never
  let kind := if optional.isEmpty then "required_parameter" else "optional_parameter"
  return [.branch kind
    (marks ++ words.map wrapModifier ++ target.withField "pattern" :: optional ++ type ++ value)]

/-- A parameter without a type. -/
def plainParameter : Read (List Node) := do
  if (← next).isSign "..." then return [← restPattern] else return [← withDefault (← nodeOf .pattern)]

/-- The parameters of a function. -/
def parameters : Read Node := do
  let typed := (← dialect).typed
  bracketed "formal_parameters" "(" ")" (if typed then typedParameter else plainParameter)

end CodeAtlas.Syntax.Script
