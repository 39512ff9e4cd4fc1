import CodeAtlas.Syntax.Script.Read

set_option autoImplicit false

/-! # Types of TypeScript

Types have operators, literals and function types of their own. Where a type could go on in the next line,
it does so only if no semicolon is supplied before it. -/

namespace CodeAtlas.Syntax.Script

open Reading

/-! ## Parts -/

def typeAnnotation (e : Ending) : Read Node := do
  return .branch "type_annotation" [← sign ":", ← nodeOf (.typeOf e)]

/-- A type behind a colon under its field, if there is one. -/
def typeAnnotation? (e : Ending) : Read (List Node) := do
  if (← follow e).isSign ":" then return [(← typeAnnotation e).withField "type"] else return []

/-- A type parameter. -/
def typeParameter : Read Node := do
  let t ← next
  let isConst := t.isWord "const" && (← after t).kind = .word
  let constWord ← if isConst then pure [← take t] else pure []
  let id := (← name "type_identifier").withField "name"
  let t ← next
  let bound ← if t.isWord "extends" then
      pure [(Node.branch "constraint" [← take t, ← nodeOf (.typeOf .never)]).withField "constraint"]
    else pure []
  let t ← next
  let standard ← if t.isSign "=" then
      pure [(Node.branch "default_type" [← take t, ← nodeOf (.typeOf .never)]).withField "value"]
    else pure []
  return .branch "type_parameter" (constWord ++ id :: bound ++ standard)

def typeParameters : Read Node := do
  return (← angled "type_parameters" typeParameter).withField "type_parameters"

def typeParameters? : Read (List Node) := do
  if ← markFollows '<' then return [← typeParameters] else return []

def typeArguments : Read Node := angled "type_arguments" (nodeOf (.typeOf .never))

/-- What is asserted of a value: a name, `is` and a type. -/
def typePredicate (e : Ending) : Read Node := do
  let t ← next
  let subject ← if t.isWord "this" then takeAs "this" t else name "identifier"
  let isWord ← keyword "is"
  return .branch "type_predicate" [subject.withField "name", isWord, ← field "type" (.typeOf e)]

/-- A type, or what is asserted of an argument. -/
def resultType (e : Ending) : Read Node := do
  let t ← next
  let second ← after t
  if t.isWord "asserts" ∧ second.kind = .word ∧ second.text ≠ "is" then
    let word ← take t
    let third ← after second
    let subject ← if third.isWord "is" then typePredicate e
      else if second.isWord "this" then takeAs "this" second
      else takeAs "identifier" second
    return .branch "asserts" [word, subject]
  else if t.kind = .word ∧ second.isWord "is" then typePredicate e
  else nodeOf (.typeOf e)

/-- The type of a result behind a colon. -/
def returnType (e : Ending) : Read Node := do
  let colon ← sign ":"
  let result ← resultType e
  let kind := match result.kind with
    | "asserts" => "asserts_annotation"
    | "type_predicate" => "type_predicate_annotation"
    | _ => "type_annotation"
  return .branch kind [colon, result]

/-- The parameters of a function and the type of its result. -/
def callSignature (e : Ending) : Read (List Node) := do
  let typed := (← dialect).typed
  let types ← if typed then typeParameters? else pure []
  let params ← field "parameters" .parameters
  let result ← if typed ∧ (← follow e).isSign ":" then pure [(← returnType e).withField "return_type"]
    else pure []
  return types ++ params :: result

/-! ## Primary types -/

/-- Types with a name of the language. -/
def predefinedTypes : List String :=
  ["any", "number", "boolean", "string", "symbol", "void", "unknown", "never", "object"]

/-- Words that are values and types. -/
def literalWords : List String := ["true", "false", "null", "undefined"]

/-- A named type, perhaps of a module, perhaps with arguments. -/
def namedType (e : Ending) : Read Node := do
  let first ← next
  let base ← grow (← name "identifier") fun n => do
    let t ← follow e
    let second ← after t
    if t.isSign "." ∧ (← after second).isSign "." then
      let dot ← take t
      let property := (← name "property_identifier").withField "property"
      return some (.branch "nested_identifier" [n.withField "object", dot, property])
    else return none
  let t ← follow e
  let named ← if t.isSign "." then do
      let dot ← take t
      let last := (← name "type_identifier").withField "name"
      pure (Node.branch "nested_type_identifier" [base.withField "module", dot, last])
    else pure (first.leaf "type_identifier")
  if (← follow e).kind ≠ .stop ∧ (← markFollows '<') then
    let args := (← typeArguments).withField "type_arguments"
    return .branch "generic_type" [named.withField "name", args]
  else return named

/-- A function type. -/
def functionType (e : Ending) : Read Node := do
  let types ← typeParameters?
  let params ← field "parameters" .parameters
  let arrow ← sign "=>"
  return .branch "function_type" (types ++ [params, arrow, (← resultType e).withField "return_type"])

/-- The type of a constructor. -/
def constructorType (e : Ending) : Read Node := do
  let abstractWord ← wordIf "abstract"
  let newWord ← keyword "new"
  let types ← typeParameters?
  let params ← field "parameters" .parameters
  let arrow ← sign "=>"
  return .branch "constructor_type"
    (abstractWord ++ newWord :: types ++ [params, arrow, ← field "type" (.typeOf e)])

/-- A type between round brackets, or a function type. -/
def parenthesizedType (e : Ending) : Read Node := do
  either (functionType e) do
    let opening ← sign "("
    let inside ← nodeOf (.typeOf .never)
    return .branch "parenthesized_type" [opening, inside, ← sign ")"]

/-- A member of a tuple type. -/
def tupleMember : Read (List Node) := do
  let t ← next
  let second ← after t
  if t.isSign "..." then
    let dots ← take t
    let t ← next
    let second ← after t
    if t.kind = .word ∧ second.isSign ":" then
      let rest := Node.branch "rest_pattern" [dots, ← takeAs "identifier" t]
      return [.branch "required_parameter" [rest.withField "name", (← typeAnnotation .never).withField "type"]]
    else return [.branch "rest_type" [dots, ← nodeOf (.typeOf .never)]]
  else if t.kind = .word ∧ second.isSign ":" then
    let id := (← takeAs "identifier" t).withField "name"
    return [.branch "required_parameter" [id, (← typeAnnotation .never).withField "type"]]
  else if t.kind = .word ∧ second.isSign "?" ∧ (← after second).isSign ":" then
    let id := (← takeAs "identifier" t).withField "name"
    let question ← take second
    return [.branch "optional_parameter" [id, question, (← typeAnnotation .never).withField "type"]]
  else
    let type ← nodeOf (.typeOf .never)
    let t ← next
    if t.isSign "?" then return [.branch "optional_type" [type, ← take t]] else return [type]

/-- The type of a value, named by the value. -/
def typeQuery (e : Ending) : Read Node := do
  let word ← keyword "typeof"
  let t ← next
  let first ← if t.isWord "this" then takeAs "this" t else name "identifier"
  let path ← grow first fun n => do
    let t ← follow e
    if t.isSign "." then
      let dot ← take t
      let property := (← name "property_identifier").withField "property"
      return some (.branch "member_expression" [n.withField "object", dot, property])
    else return none
  let t ← follow e
  if t.isSign "<" then
    let args := (← typeArguments).withField "type_arguments"
    return .branch "type_query" [word, .branch "instantiation_expression" [path, args]]
  else return .branch "type_query" [word, path]

/-- The type that a module exports. -/
def importType (e : Ending) : Read Node := do
  let word := Node.branch "import" [← keyword "import"]
  let args ← bracketed "arguments" "(" ")" (return [← string])
  let call := Node.branch "call_expression" [word.withField "function", args.withField "arguments"]
  let path ← grow call fun n => do
    let t ← follow e
    if t.isSign "." then
      let dot ← take t
      let property := (← name "property_identifier").withField "property"
      return some (.branch "member_expression" [n.withField "object", dot, property])
    else return none
  if (← follow e).isSign "<" then
    return .branch "generic_type" [path.withField "name", (← typeArguments).withField "type_arguments"]
  else return path

/-- A type that begins with a word. -/
def wordType (e : Ending) (t : Token) : Read Node := do
  let second ← after t
  let beginsType := second.kind = .word || second.kind = .string || second.isSign "(" || second.isSign "\x7b"
    || second.isSign "["
  if predefinedTypes.contains t.text then return .branch "predefined_type" [← take t]
  else if t.text = "unique" ∧ second.isWord "symbol" then
    moveTo second.stop
    return .branch "predefined_type" [.token "unique symbol" t.start second.stop]
  else if literalWords.contains t.text then return .branch "literal_type" [← takeAs t.text t]
  else if t.text = "this" then takeAs "this_type" t
  else if t.text = "typeof" then typeQuery e
  else if t.text = "import" ∧ second.isSign "(" then importType e
  else if t.text = "keyof" ∧ beginsType then
    return .branch "index_type_query" [← take t, ← nodeOf (.primaryType e)]
  else if t.text = "readonly" ∧ beginsType then
    return .branch "readonly_type" [← take t, ← nodeOf (.typeOf e)]
  else if t.text = "infer" ∧ second.kind = .word then
    return .branch "infer_type" [← take t, ← name "type_identifier"]
  else if t.text = "new" ∨ (t.text = "abstract" ∧ second.isWord "new") then constructorType e
  else namedType e

/-- A type without operators between types. -/
def primaryType (e : Ending) : Read Node := do
  let t ← next
  let first ← match t.kind with
    | .word => wordType e t
    | .string => do pure (Node.branch "literal_type" [← string])
    | .number => do pure (Node.branch "literal_type" [← takeAs "number" t])
    | .template => templateOf "template_literal_type" "template_type" (nodeOf (.typeOf .never))
    | _ =>
      match t.text with
      | "(" => parenthesizedType e
      | "[" => bracketed "tuple_type" "[" "]" tupleMember
      | "\x7b" => nodeOf .objectType
      | "-" => do
        let minus := (← take t).withField "operator"
        let digits ← next
        if digits.kind = .number then
          let value := (← takeAs "number" digits).withField "argument"
          pure (Node.branch "literal_type" [.branch "unary_expression" [minus, value]])
        else refuseAt digits.start
      | _ => if t.isSign "<" then functionType e else refuseAt t.start
  grow first fun n => do
    let t ← follow e
    if t.isSign "[" then
      let opening ← take t
      let close ← next
      if close.isSign "]" then return some (.branch "array_type" [n, opening, ← take close])
      else
        let index ← nodeOf (.typeOf .never)
        return some (.branch "lookup_type" [n, opening, index, ← sign "]"])
    else return none

/-! ## Operators -/

/-- Types with an operator between them, grouped to the left; the operator may also stand first. -/
def operatorType (op kind : String) (e : Ending) (part : Read Node) : Read Node := do
  let t ← next
  let first ← if t.isSign op then do pure (Node.branch kind [← take t, ← part]) else part
  grow first fun n => do
    let t ← follow e
    if t.isSign op then return some (.branch kind [n, ← take t, ← part]) else return none

/-- A type. -/
def typeOf (e : Ending) : Read Node := do
  let union ← operatorType "|" "union_type" e
    (operatorType "&" "intersection_type" e (nodeOf (.primaryType e)))
  let t ← follow e
  if t.isWord "extends" then
    let word ← take t
    let right ← field "right" (.primaryType .never)
    let question ← sign "?"
    let yes ← field "consequence" (.typeOf .never)
    let colon ← sign ":"
    return .branch "conditional_type"
      [union.withField "left", word, right, question, yes, colon, ← field "alternative" (.typeOf e)]
  else return union

/-! ## Object types -/

/-- An index signature, or the clause of a mapped type. -/
def indexSignature (before : List Node) : Read Node := do
  let opening ← sign "["
  let second ← after (← next)
  let inside ← if second.isWord "in" then do
      let id := (← name "type_identifier").withField "name"
      let word ← keyword "in"
      let domain ← field "type" (.typeOf .never)
      let t ← next
      let renamed ← if t.isWord "as" then pure [← take t, ← field "alias" (.typeOf .never)] else pure []
      pure [Node.branch "mapped_type_clause" ([id, word, domain] ++ renamed)]
    else do
      let id := (← name "identifier").withField "name"
      let colon ← sign ":"
      pure [id, colon, ← field "index_type" (.typeOf .never)]
  let close ← sign "]"
  let t ← next
  let optional ← if t.isSign "?" then pure [← take t]
    else if t.isSign "-" ∨ t.isSign "+" then pure [← take t, ← sign "?"]
    else pure []
  return .branch "index_signature" (before ++ opening :: inside ++ close :: optional
    ++ [(← typeAnnotation .other).withField "type"])

/-- Does an index signature begin at the token? -/
def startsIndex (t : Token) : Read Bool := do
  let id ← after t
  let third ← after id
  return t.isSign "[" && id.kind = .word && (third.isSign ":" || third.isWord "in")

/-- A member of an object type. -/
def typeMember : Read Node := do
  let t ← next
  let second ← after t
  if t.isSign "-" ∨ t.isSign "+" then
    let op := (← take t).withField "sign"
    let word ← keyword "readonly"
    indexSignature [op, word]
  else if t.isSign "(" ∨ t.isSign "<" then
    return .branch "call_signature" (← callSignature .other)
  else if t.isWord "new" ∧ (second.isSign "(" ∨ second.isSign "<") then
    let word ← take t
    let types ← typeParameters?
    let params ← field "parameters" .parameters
    return .branch "construct_signature" (word :: types ++ params :: (← typeAnnotation? .other))
  else
    let words ← modifiers (accessWords ++ ["static", "override", "readonly", "async", "get", "set"])
    let words := words.map wrapModifier
    let t ← next
    if ← startsIndex t then indexSignature words
    else
      let star ← signIf "*"
      let id := (← propertyName).withField "name"
      let optional ← signIf "?"
      let t ← follow .other
      if t.isSign "(" ∨ t.isSign "<" then
        return .branch "method_signature" (words ++ star ++ id :: optional ++ (← callSignature .other))
      else return .branch "property_signature" (words ++ id :: optional ++ (← typeAnnotation? .other))

/-- An object type. -/
def objectType : Read Node := do
  let opening ← sign "\x7b"
  let members ← gather do
    let t ← next
    if t.isSign "\x7d" then return none
    if t.isSign ";" ∨ t.isSign "," then return some [← take t]
    let member ← typeMember
    let t ← next
    if t.isSign "," ∨ t.isSign "\x7d" then return some [member]
    else return some (member :: (← semicolon .other))
  return .branch "object_type" (opening :: members ++ [← sign "\x7d"])

end CodeAtlas.Syntax.Script
