import CodeAtlas.Syntax.Script.Markup
import CodeAtlas.Syntax.Script.Member

set_option autoImplicit false

/-! # Expressions

From loose to tight: functions with an arrow, conditions, operators between values, operators before a
value, assignments, and values with accesses and calls behind them. -/

namespace CodeAtlas.Syntax.Script

open Reading

/-! ## Operators -/

/-- The operators between values, each with the tightness of its binding. -/
def operatorLevels : List (String × Nat) :=
  [("??", 1), ("||", 2), ("&&", 3), ("|", 4), ("^", 5), ("&", 6), ("==", 7), ("!=", 7), ("===", 7), ("!==", 7),
    ("<", 8), (">", 8), ("<=", 8), (">=", 8), ("in", 8), ("instanceof", 8), ("<<", 9), (">>", 9), (">>>", 9),
    ("+", 10), ("-", 10), ("*", 11), ("/", 11), ("%", 11), ("**", 12)]

/-- How tightly the types behind `as` and `satisfies` are bound. -/
def typeOperatorLevel : Nat := 8

/-- Is the token a word or a sign of the language? -/
def Token.isLiteral (t : Token) : Bool := t.kind = .word || t.kind = .sign

/-- How tightly the token binds as an operator between values. -/
def Token.level? (t : Token) : Option Nat := if t.isLiteral then operatorLevels.lookup t.text else none

def Token.isTypeOperator (t : Token) : Bool := t.isWord "as" || t.isWord "satisfies"

/-- Operators that join an assignment with a computation. -/
def augmentedSigns : List String :=
  ["+=", "-=", "*=", "/=", "%=", "^=", "&=", "|=", ">>=", ">>>=", "<<=", "**=", "&&=", "||=", "??="]

def unaryWords : List String := ["typeof", "void", "delete"]

/-- Can the token begin an expression? -/
def Token.startsExpression (t : Token) : Bool :=
  match t.kind with
  | .word => t.level?.isNone && !t.isTypeOperator && t.text ≠ "of"
  | .sign => ["(", "[", "\x7b", "+", "-", "!", "~", "/", "/=", "<", "++", "--", "@"].contains t.text
  | .stop => false
  | _ => true

/-! ## Functions -/

/-- The rest of a function with an arrow behind its parameters. -/
def arrowAfter (before : List Node) (e : Ending) : Read Node := do
  let arrow ← sign "=>"
  let body ← if (← next).isSign "\x7b" then field "body" (.block .expression)
    else field "body" (.expression e)
  return .branch "arrow_function" (before ++ [arrow, body])

/-- What stands before an arrow: a name, or parameters with types around them. -/
def arrowHead? : Read (Option (List Node)) := do
  let t ← next
  let second ← after t
  let third ← after second
  let plain (t : Token) : Read (List Node) := return [(← takeAs "identifier" t).withField "parameter"]
  let isAsync := t.isWord "async"
  if t.kind = .word ∧ second.isSign "=>" then return some (← plain t)
  else if isAsync ∧ second.kind = .word ∧ third.isSign "=>" then return some ((← take t) :: (← plain second))
  else
    let start := if isAsync then second else t
    if start.isSign "(" ∨ ((← dialect).typed ∧ start.isSign "<") then
      attempt do
        let before ← if isAsync then pure [← take t] else pure []
        let signature ← callSignature .never
        if !(← next).isSign "=>" then refuseAt (← offset)
        return before ++ signature
    else return none

/-- A function as a value. -/
def functionExpression : Read Node := do
  let asyncWord ← wordIf "async"
  let word ← keyword "function"
  let star ← signIf "*"
  let id ← if (← next).kind = .word then pure [(← name "identifier").withField "name"] else pure []
  let signature ← callSignature .never
  let kind := if star.isEmpty then "function_expression" else "generator_function"
  return .branch kind (asyncWord ++ word :: star ++ id ++ signature ++ [← field "body" (.block .expression)])

/-! ## Lists of expressions -/

/-- A part of a list of values; there may be none between two commas. -/
def listPart : Read (List Node) := do
  let t ← next
  if t.isSign "," then return []
  else if t.isSign "..." then
    return [.branch "spread_element" [← take t, ← nodeOf (.expression .never)]]
  else return [← nodeOf (.expression .never)]

def arguments : Read Node := return (← bracketed "arguments" "(" ")" listPart).withField "arguments"

/-- Expressions with commas between them; a single one stands for itself. -/
def sequence (e : Ending) : Read Node := do
  let first ← nodeOf (.expression e)
  let rest ← gather do
    let t ← follow e
    if t.isSign "," then return some [← take t, ← nodeOf (.expression e)] else return none
  return if rest.isEmpty then first else .branch "sequence_expression" (first :: rest)

/-! ## Simple values -/

/-- Where a character class in a regular expression ends; `p` lies behind its opening bracket. -/
def characterClassStop (src : Source) : Nat → Nat → Nat
  | 0, p => p
  | n + 1, p =>
    match src.chars[p]? with
    | none => p
    | some '\\' => characterClassStop src n (p + 2)
    | some c => if c = ']' ∨ endsLine c then p else characterClassStop src n (p + 1)

/-- Where the pattern of a regular expression ends that goes on at an offset. -/
def regexStop (src : Source) : Nat → Nat → Nat
  | 0, p => p
  | n + 1, p =>
    match src.chars[p]? with
    | none => p
    | some '\\' => regexStop src n (p + 2)
    | some '[' => regexStop src n (characterClassStop src (src.chars.size - p) (p + 1))
    | some c => if c = '/' ∨ endsLine c then p else regexStop src n (p + 1)

/-- A regular expression. -/
def regex : Read Node := do
  let src ← source
  let p := (← next).start
  let q := regexStop src (src.chars.size - p) (p + 1)
  if src.chars[q]? ≠ some '/' ∨ q ≤ p + 1 then refuseAt (min q src.chars.size)
  let r := src.runStop Char.isAlpha (q + 1)
  moveTo r
  let flags := if q + 1 < r then [(Node.leaf "regex_flags" (q + 1) r).withField "flags"] else []
  return .branch "regex"
    (.token "/" p (p + 1) :: (Node.leaf "regex_pattern" (p + 1) q).withField "pattern"
      :: .token "/" q (q + 1) :: flags)

def template : Read Node := templateOf "template_string" "template_substitution" (nodeOf (.sequence .never))

def valueWords : List String := ["this", "super", "true", "false", "null", "undefined"]

/-- A name that belongs to the language: two words with a point between them. -/
def metaProperty : Read Node := do
  let t ← next
  let word ← take t
  return .branch "meta_property" [word, ← sign ".", ← take (← next)]

/-- A class as a value. -/
def classExpression : Read Node := do
  let marks ← leadingDecorators
  classRest (marks ++ [← keyword "class"]) "class"

/-- A value between round brackets. -/
def parenthesized : Read Node := do
  let opening ← sign "("
  let inside ← nodeOf (.sequence .never)
  let t ← next
  let type ← if (← dialect).typed ∧ t.isSign ":" then pure [(← typeAnnotation .never).withField "type"]
    else pure []
  return .branch "parenthesized_expression" (opening :: inside :: type ++ [← sign ")"])

/-- A value that begins with a word. -/
def wordValue (t : Token) : Read Node := do
  let second ← after t
  if t.text = "function" ∨ (t.text = "async" ∧ second.isWord "function") then functionExpression
  else if t.text = "class" then classExpression
  else if t.text = "import" ∧ second.isSign "." then metaProperty
  else if t.text = "import" then return .branch "import" [← take t]
  else if valueWords.contains t.text then takeAs t.text t
  else takeAs "identifier" t

/-- A value that begins with a sign. -/
def signValue (t : Token) : Read Node := do
  match t.text with
  | "(" => parenthesized
  | "[" => bracketed "array" "[" "]" listPart
  | "\x7b" => object
  | "/" => regex
  | "/=" => regex
  | "@" => classExpression
  | "<" => if (← dialect).markup then nodeOf .element else refuseAt t.start
  | _ => refuseAt t.start

/-- A value without anything behind it. -/
def primary : Read Node := do
  let t ← next
  match t.kind with
  | .word => wordValue t
  | .privateName => takeAs "private_property_identifier" t
  | .number => takeAs "number" t
  | .string => string
  | .template => template
  | .sign => signValue t
  | .stop => refuseAt t.start

/-! ## Accesses and calls -/

/-- The name behind a point. -/
def accessedName : Read Node := do
  let t ← next
  let id ← if t.kind = .privateName then takeAs "private_property_identifier" t else name "property_identifier"
  return id.withField "property"

/-- An index behind a value. -/
def subscript (before : List Node) : Read Node := do
  let opening ← sign "["
  let index ← field "index" (.sequence .never)
  return .branch "subscript_expression" (before ++ [opening, index, ← sign "]"])

/-- An access that reads nothing where the value is missing. -/
def chained (n : Node) : Read Node := do
  let chain := (← takeAs "optional_chain" (← next)).withField "optional_chain"
  let t ← next
  if t.isSign "(" then return .branch "call_expression" [n.withField "function", chain, ← arguments]
  else if t.isSign "[" then subscript [n.withField "object", chain]
  else if (← dialect).typed ∧ t.isSign "<" then
    let types := (← typeArguments).withField "type_arguments"
    return .branch "call_expression" [n.withField "function", chain, types, ← arguments]
  else return .branch "member_expression" [n.withField "object", chain, ← accessedName]

/-- Type arguments behind a value, unless what follows shows that the bracket compares two values. -/
def typeArgumentsFor (e : Ending) : Read (Option Node) := attempt do
  let types ← typeArguments
  let t ← follow e
  let compares := t.startsExpression || t.isSign ">" || t.isSign ">>" || t.isSign ">="
  if compares ∧ !t.isSign "(" ∧ t.kind ≠ .template then refuseAt t.start
  return types.withField "type_arguments"

/-- A value with type arguments: a call of it, or the value for these types. -/
def withTypeArguments (e : Ending) (n : Node) : Read (Option Node) := do
  match ← typeArgumentsFor e with
  | none => return none
  | some types =>
    let t ← follow e
    if t.isSign "(" then return some (.branch "call_expression" [n.withField "function", types, ← arguments])
    else if t.kind = .template then
      let text := (← template).withField "arguments"
      return some (.branch "call_expression" [n.withField "function", types, text])
    else return some (.branch "instantiation_expression" [n, types])

/-- An access behind a value, if there is one. -/
def access? (e : Ending) (n : Node) : Read (Option Node) := do
  let t ← follow e
  if t.kind = .template then
    return some (.branch "call_expression" [n.withField "function", (← template).withField "arguments"])
  else if t.isSign "." then
    let dot ← take t
    return some (.branch "member_expression" [n.withField "object", dot, ← accessedName])
  else if t.isSign "[" then return some (← subscript [n.withField "object"])
  else if (← dialect).typed ∧ t.isSign "!" then
    return some (.branch "non_null_expression" [n, ← take t])
  else return none

/-- An access or a call behind a value, if there is one. -/
def suffix? (e : Ending) (n : Node) : Read (Option Node) := do
  let t ← follow e
  if t.isSign "(" then return some (.branch "call_expression" [n.withField "function", ← arguments])
  else if t.isSign "?." then return some (← chained n)
  else if (← dialect).typed ∧ t.isSign "<" then withTypeArguments e n
  else access? e n

/-- A new instance of a class. -/
def newExpression (e : Ending) : Read Node := do
  let word ← keyword "new"
  let t ← next
  let callee ← if t.isWord "new" then nodeOf (.operand .never) else grow (← primary) (access? e)
  let t ← follow e
  let types ← if (← dialect).typed ∧ t.isSign "<" then typeArgumentsFor e else pure none
  let args ← if (← follow e).isSign "(" then pure [← arguments] else pure []
  return .branch "new_expression" (word :: callee.withField "constructor" :: types.toList ++ args)

/-- A value with all accesses and calls behind it. -/
def operand (e : Ending) : Read Node := do
  let t ← next
  let first ← if !t.isWord "new" then primary
    else if (← after t).isSign "." then metaProperty
    else newExpression e
  grow first (suffix? e)

/-! ## Operations -/

/-- A value, or an assignment to it. -/
def assignment (e : Ending) : Read Node := do
  let n ← nodeOf (.operand e)
  let t ← follow e
  if t.isSign "=" then
    match toPattern? n with
    | some left =>
      let equals ← take t
      return .branch "assignment_expression" [left.withField "left", equals, ← field "right" (.expression e)]
    | none => refuseAt t.start
  else if t.kind = .sign ∧ augmentedSigns.contains t.text then
    let op := (← take t).withField "operator"
    return .branch "augmented_assignment_expression"
      [n.withField "left", op, ← field "right" (.expression e)]
  else if t.isSign "++" ∨ t.isSign "--" then
    return .branch "update_expression" [n.withField "argument", (← take t).withField "operator"]
  else return n

/-- A value with operators before it. -/
def unary (e : Ending) : Read Node := do
  let t ← next
  let operated (kind : String) : Read Node := do
    let op := (← take t).withField "operator"
    return .branch kind [op, ← field "argument" (.unary e)]
  let d ← dialect
  if t.kind = .word ∧ unaryWords.contains t.text then operated "unary_expression"
  else if t.isWord "await" then return .branch "await_expression" [← take t, ← nodeOf (.unary e)]
  else if t.isSign "++" ∨ t.isSign "--" then operated "update_expression"
  else if t.kind = .sign ∧ ["!", "~", "+", "-"].contains t.text then operated "unary_expression"
  else if d.typed ∧ !d.markup ∧ t.isSign "<" then
    return .branch "type_assertion" [← typeArguments, ← nodeOf (.unary e)]
  else assignment e

/-- The type behind `as` or `satisfies`. -/
def typeOperation (e : Ending) (n : Node) (t : Token) : Read Node := do
  let word ← take t
  let second ← next
  let kind := t.text ++ "_expression"
  if t.text = "as" ∧ second.isWord "const" then return .branch kind [n, word, ← take second]
  else return .branch kind [n, word, ← nodeOf (.typeOf e)]

/-- Values with operators between them that bind at least as tightly as a level. -/
def binary (least : Nat) (e : Ending) : Read Node := do
  let typed := (← dialect).typed
  grow (← nodeOf (.unary e)) fun n => do
    let t ← follow e
    if typed ∧ t.isTypeOperator then
      if least ≤ typeOperatorLevel then return some (← typeOperation e n t) else return none
    else match t.level? with
      | none => return none
      | some level =>
        if level < least then return none
        else
          let op := (← take t).withField "operator"
          let inner := if t.text = "**" then level else level + 1
          let right ← field "right" (.binary inner e)
          return some (.branch "binary_expression" [n.withField "left", op, right])

/-- A value that a generator hands out. -/
def yieldExpression (e : Ending) : Read Node := do
  let word ← keyword "yield"
  let t ← follow e
  if t.isSign "*" then return .branch "yield_expression" [word, ← take t, ← nodeOf (.expression e)]
  else if t.startsExpression ∨ t.kind = .template then
    return .branch "yield_expression" [word, ← nodeOf (.expression e)]
  else return .branch "yield_expression" [word]

/-- The first value of a condition and the colon behind it. Where a function with an arrow takes the colon
    for that of its result type, the brackets at its start hold a value. -/
def consequence : Read (List Node) := do
  let plain : Read (List Node) := return [← field "consequence" (.conditional .never), ← sign ":"]
  let whole : Read (List Node) := return [← field "consequence" (.expression .never), ← sign ":"]
  if (← dialect).typed ∧ (← next).isSign "(" then either whole plain else whole

/-- An expression that is no function with an arrow. -/
def conditional (e : Ending) : Read Node := do
  if (← next).isWord "yield" then yieldExpression e
  else
    let test ← nodeOf (.binary 0 e)
    let t ← follow e
    if t.isSign "?" then
      let question ← take t
      let middle ← consequence
      let last ← field "alternative" (.expression e)
      return .branch "ternary_expression" (test.withField "condition" :: question :: middle ++ [last])
    else return test

/-- An expression. -/
def expression (e : Ending) : Read Node := do
  match ← arrowHead? with
  | some head => arrowAfter head e
  | none => nodeOf (.conditional e)

/-! ## Decorators -/

/-- A decorator. -/
def decorator : Read Node := do
  let mark ← sign "@"
  if (← next).isSign "(" then return .branch "decorator" [mark, ← parenthesized]
  let path ← grow (← name "identifier") fun n => do
    let t ← next
    if t.isSign "." then
      let dot ← take t
      let property := (← name "property_identifier").withField "property"
      return some (.branch "member_expression" [n.withField "object", dot, property])
    else return none
  let t ← next
  let types ← if (← dialect).typed ∧ t.isSign "<" then pure [(← typeArguments).withField "type_arguments"]
    else pure []
  if (← next).isSign "(" then
    let call := Node.branch "call_expression" (path.withField "function" :: types ++ [← arguments])
    return .branch "decorator" [mark, call]
  else return .branch "decorator" [mark, path]

end CodeAtlas.Syntax.Script
