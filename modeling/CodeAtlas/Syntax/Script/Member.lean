import CodeAtlas.Syntax.Script.Pattern

set_option autoImplicit false

/-! # Members of classes and objects

A method is told from a field by its parameters, a modifier from a name by the name behind it. -/

namespace CodeAtlas.Syntax.Script

open Reading

/-! ## Objects -/

/-- A method whose words before the name were read. -/
def methodAfter (before : List Node) (e : Ending) : Read Node := do
  let id := (← propertyName).withField "name"
  let optional ← if (← dialect).typed then signIf "?" else pure []
  let signature ← callSignature .other
  return .branch "method_definition" (before ++ id :: optional ++ signature ++ [← field "body" (.block e)])

/-- Words that may stand before the name of a method. -/
def methodWords : List String := ["static", "async", "get", "set"]

/-- A member of an object. -/
def objectMember : Read (List Node) := do
  let t ← next
  if t.isSign "," then return []
  else if t.isSign "..." then
    return [.branch "spread_element" [← take t, ← nodeOf (.expression .never)]]
  else
    let words ← modifiers methodWords
    let star ← signIf "*"
    let before := words ++ star
    let t ← next
    let shorthand := t.kind = .word && before.isEmpty
    if !before.isEmpty then return [← methodAfter before .expression]
    else
      let id ← propertyName
      let t ← next
      if t.isSign "(" ∨ t.isSign "<" then
        moveTo id.info.start
        return [← methodAfter [] .expression]
      else if t.isSign ":" then
        let colon ← take t
        return [.branch "pair" [id.withField "key", colon, ← field "value" (.expression .never)]]
      else if shorthand ∧ t.isSign "=" then
        let left := (id.withKind "shorthand_property_identifier_pattern").withField "left"
        let equals ← take t
        return [.branch "object_assignment_pattern" [left, equals, ← field "right" (.expression .never)]]
      else if shorthand then return [id.withKind "shorthand_property_identifier"]
      else refuseAt t.start

def object : Read Node := bracketed "object" "\x7b" "\x7d" objectMember

/-! ## Classes -/

/-- Words that may stand before the name of a member of a typed class. -/
def memberWords : List String :=
  accessWords ++ ["declare", "static", "override", "readonly", "abstract", "async", "accessor", "get", "set"]

/-- A block that a class runs once. -/
def staticBlock : Read Node := do
  let word ← keyword "static"
  return .branch "class_static_block" [word, ← field "body" (.block .other)]

/-- The separator behind a field or a signature. -/
def memberEnd (e : Ending) : Read (List Node) := do
  let t ← next
  if (← dialect).typed ∧ t.isSign "," then return [← take t] else semicolon e

/-- The separator behind a method, if there is one. -/
def methodEnd : Read (List Node) := signIf ";"

def isWordNode (s : String) (n : Node) : Bool := n.kind = s

/-- A member of a typed class. The decorators of a method stand before it, those of a field in it. -/
def typedMember : Read (List Node) := do
  let marks ← leadingDecorators
  let words ← modifiers memberWords
  let wrapped := words.map wrapModifier
  let t ← next
  if ← startsIndex t then
    let signature ← indexSignature wrapped
    return signature :: (← memberEnd .other)
  let star ← signIf "*"
  let before := wrapped ++ star
  let id := (← propertyName).withField "name"
  let t ← next
  let optional ← if t.isSign "?" ∨ t.isSign "!" then pure [← take t] else pure []
  let t ← follow .other
  if t.isSign "(" ∨ t.isSign "<" then
    let signature ← callSignature .other
    let t ← next
    if t.isSign "\x7b" then
      let body ← field "body" (.block .other)
      let method := Node.branch "method_definition" (before ++ id :: optional ++ signature ++ [body])
      return marks ++ method :: (← methodEnd)
    else if !marks.isEmpty then refuseAt t.start
    else
      let kind := if words.any (isWordNode "abstract") then "abstract_method_signature" else "method_signature"
      return .branch kind (before ++ id :: optional ++ signature) :: (← memberEnd .other)
  else
    let type ← typeAnnotation? .other
    let value ← initializer? .other
    let ending := if value.isEmpty then Ending.other else .expression
    return .branch "public_field_definition" (marks ++ before ++ id :: optional ++ type ++ value)
      :: (← memberEnd ending)

/-- A member of a class without types. -/
def plainMember : Read (List Node) := do
  let marks ← leadingDecorators
  let words ← modifiers methodWords
  let star ← signIf "*"
  let before := marks ++ words ++ star
  let p ← offset
  let id ← propertyName
  if (← next).isSign "(" then
    moveTo p
    let method := (← methodAfter before .other).withField "member"
    return method :: (← methodEnd)
  else
    let value ← initializer? .other
    let fieldNode := Node.branch "field_definition" (before ++ id.withField "property" :: value)
    let ending := if value.isEmpty then Ending.other else .expression
    return fieldNode.withField "member" :: (← semicolon ending)

/-- A class body. -/
def classBody : Read Node := do
  let opening ← sign "\x7b"
  let typed := (← dialect).typed
  let members ← gather do
    let t ← next
    if t.isSign "\x7d" then return none
    else if t.isSign ";" then return some [← take t]
    else if t.isWord "static" ∧ (← after t).isSign "\x7b" then
      let block ← staticBlock
      return some [if typed then block else block.withField "member"]
    else if typed then return some (← typedMember)
    else return some (← plainMember)
  return .branch "class_body" (opening :: members ++ [← sign "\x7d"])

/-- What a typed class extends: a value, perhaps with type arguments. -/
def extended : Read (List Node) := do
  let value ← field "value" (.operand .never)
  if ← markFollows '<' then return [value, (← typeArguments).withField "type_arguments"] else return [value]

/-- What a class extends and implements. -/
def heritage : Read (List Node) := do
  let t ← next
  let extending ← if !t.isWord "extends" then pure []
    else if (← dialect).typed then do
      let word ← take t
      let first ← extended
      let more ← gather do
        let t ← next
        if t.isSign "," then return some ((← take t) :: (← extended)) else return none
      pure [Node.branch "extends_clause" (word :: first ++ more)]
    else pure [← take t, ← nodeOf (.operand .never)]
  let t ← next
  let implementing ← if (← dialect).typed ∧ t.isWord "implements" then
      pure [Node.branch "implements_clause" ((← take t) :: (← commaList (nodeOf (.typeOf .never))))]
    else pure []
  let parts := extending ++ implementing
  return if parts.isEmpty then [] else [.branch "class_heritage" parts]

/-- The rest of a class behind its word: name, heritage and body. -/
def classRest (before : List Node) (kind : String) : Read Node := do
  let typed := (← dialect).typed
  let t ← next
  let named := t.kind = .word && t.text ≠ "extends" && (t.text ≠ "implements" || !typed)
  let id ← if named then
      pure [(← name (if typed then "type_identifier" else "identifier")).withField "name"]
    else pure []
  let types ← if typed then typeParameters? else pure []
  let bases ← heritage
  return .branch kind (before ++ id ++ types ++ bases ++ [← field "body" .classBody])

end CodeAtlas.Syntax.Script
