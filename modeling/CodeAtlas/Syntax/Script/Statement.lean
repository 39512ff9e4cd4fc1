import CodeAtlas.Syntax.Script.Expression

set_option autoImplicit false

/-! # Statements

Each kind of statement begins with a word of its own; what begins otherwise is an expression. A statement
without a semicolon ends where one is supplied. -/

namespace CodeAtlas.Syntax.Script

open Reading

/-! ## Blocks -/

/-- A node up to where a semicolon is supplied behind it, if it is. -/
def endingAt (e : Ending) (n : Node) : Read Node := do
  match supplied? (← dialect) e (← source) (← offset) with
  | some p =>
    moveTo p
    return .branchTo p n.kind n.children
  | none => return n

/-- A block of statements. -/
def block (e : Ending) : Read Node := do
  let opening ← sign "\x7b"
  let inside ← gather do
    if (← next).isSign "\x7d" then return none else return some [← nodeOf .statement]
  endingAt e (.branch "statement_block" (opening :: inside ++ [← sign "\x7d"]))

/-- A statement that ends with a semicolon. -/
def terminated (kind : String) (children : List Node) (e : Ending) : Read Node := do
  upToHere kind (children ++ (← semicolon e))

/-! ## Variables -/

/-- A variable with its type and value. -/
def declarator : Read Node := do
  let target := (← nodeOf .pattern).withField "name"
  let t ← next
  let typed := (← dialect).typed
  let type ← if typed ∧ t.isSign "!" ∧ (← after t).isSign ":" then
      pure [← take t, (← typeAnnotation .other).withField "type"]
    else if typed then typeAnnotation? .other
    else pure []
  return .branch "variable_declarator" (target :: type ++ (← initializer? .expression))

/-- Variables behind the word that declares them. -/
def variableStatement : Read Node := do
  let t ← next
  let word ← take t
  let declarators ← commaList declarator
  let valued := declarators.getLast?.any fun d => (d.field? "value").isSome
  let ending := if valued then Ending.expression else .other
  if t.text = "var" then terminated "variable_declaration" (word :: declarators) ending
  else terminated "lexical_declaration" (word.withField "kind" :: declarators) ending

/-! ## Functions and classes -/

/-- The declaration of a function; with types it may have no body. -/
def functionDeclaration : Read Node := do
  let asyncWord ← wordIf "async"
  let word ← keyword "function"
  let star ← signIf "*"
  let id := (← name "identifier").withField "name"
  let signature ← callSignature .other
  let children := asyncWord ++ word :: star ++ id :: signature
  if (← dialect).typed ∧ !(← next).isSign "\x7b" then terminated "function_signature" children .other
  else
    let kind := if star.isEmpty then "function_declaration" else "generator_function_declaration"
    return .branch kind (children ++ [← field "body" (.block .other)])

/-- The declaration of a class behind its decorators. -/
def classDeclaration (marks : List Node) : Read Node := do
  let abstractWord ← if (← dialect).typed then wordIf "abstract" else pure []
  let word ← keyword "class"
  let t ← next
  if t.kind ≠ .word then refuseAt t.start
  else if abstractWord.isEmpty then endingAt .other (← classRest (marks ++ [word]) "class_declaration")
  else classRest (marks ++ abstractWord ++ [word]) "abstract_class_declaration"

/-! ## Types -/

/-- An interface. -/
def interfaceDeclaration : Read Node := do
  let word ← keyword "interface"
  let id := (← name "type_identifier").withField "name"
  let types ← typeParameters?
  let t ← next
  let bases ← if t.isWord "extends" then do
      let first ← take t
      let listed ← commaList (field "type" (.primaryType .never))
      pure [Node.branch "extends_type_clause" (first :: listed)]
    else pure []
  let body := ((← nodeOf .objectType).withKind "interface_body").withField "body"
  return .branch "interface_declaration" (word :: id :: types ++ bases ++ [body])

/-- A member of an enum. -/
def enumMember : Read (List Node) := do
  let id := (← propertyName).withField "name"
  if (← next).isSign "=" then return [.branch "enum_assignment" (id :: (← initializer .never))]
  else return [id]

/-- An enum. -/
def enumDeclaration : Read Node := do
  let constWord ← wordIf "const"
  let word ← keyword "enum"
  let id := (← name "identifier").withField "name"
  let body := (← bracketed "enum_body" "\x7b" "\x7d" enumMember).withField "body"
  return .branch "enum_declaration" (constWord ++ [word, id, body])

/-- A name for a type. -/
def typeAlias : Read Node := do
  let word ← keyword "type"
  let id := (← name "type_identifier").withField "name"
  let types ← typeParameters?
  let equals ← sign "="
  let value ← field "value" (.typeOf .other)
  terminated "type_alias_declaration" (word :: id :: types ++ [equals, value]) .other

/-- A namespace or a module with its statements, as a node of a kind. -/
def namespaceNode (kind : String) : Read Node := do
  let word ← take (← next)
  let id := (← if (← next).kind = .string then string else nestedName).withField "name"
  let body ← if (← next).isSign "\x7b" then pure [← field "body" (.block .expression)] else pure []
  return .branch kind (word :: id :: body)

/-! ## Imports -/

def fromClause : Read (List Node) := return [← keyword "from", (← string).withField "source"]

/-- What else is said of an imported module. -/
def importAttribute? : Read (List Node) := do
  let t ← follow .other
  if (t.isWord "with" ∨ t.isWord "assert") ∧ (← after t).isSign "\x7b" then
    return [.branch "import_attribute" [← take t, ← object]]
  else return []

def exportedName : Read Node := do
  if (← next).kind = .string then string else name "identifier"

/-- A name in a list of imports or exports, perhaps renamed. -/
def specifier (kind : String) : Read (List Node) := do
  let t ← next
  let second ← after t
  let isTypeWord := t.isWord "type" || t.isWord "typeof"
  let named := second.kind = .string || (second.kind = .word && second.text ≠ "as")
  let typeWord ← if (← dialect).typed && isTypeWord && named then pure [← take t] else pure []
  let id := (← exportedName).withField "name"
  let t ← next
  let renamed ← if t.isWord "as" then pure [← take t, (← exportedName).withField "alias"] else pure []
  return [.branch kind (typeWord ++ id :: renamed)]

def namespaceImport : Read Node := do
  return .branch "namespace_import" [← sign "*", ← keyword "as", ← name "identifier"]

/-- Names of a module: all under one, or single ones. -/
def importedNames : Read Node := do
  if (← next).isSign "*" then namespaceImport
  else bracketed "named_imports" "\x7b" "\x7d" (specifier "import_specifier")

/-- What an import binds. -/
def importClause : Read Node := do
  if (← next).kind = .word then
    let id ← name "identifier"
    let t ← next
    if t.isSign "," then return .branch "import_clause" [id, ← take t, ← importedNames]
    else return .branch "import_clause" [id]
  else return .branch "import_clause" [← importedNames]

/-- A name for a module that is loaded or for a name of a namespace. -/
def importedAlias (before : List Node) : Read Node := do
  let id ← name "identifier"
  let equals ← sign "="
  let t ← next
  if t.isWord "require" ∧ (← after t).isSign "(" then
    let word ← take t
    let opening ← sign "("
    let module := (← string).withField "source"
    let clause := Node.branch "import_require_clause" [id, equals, word, opening, module, ← sign ")"]
    terminated "import_statement" (before ++ [clause]) .other
  else terminated "import_alias" (before ++ [id, equals, ← nestedName]) .other

/-- An import. -/
def importStatement : Read Node := do
  let word ← keyword "import"
  let t ← next
  let second ← after t
  let typed := (← dialect).typed
  let named := second.isSign "\x7b" || second.isSign "*" ||
    (second.kind = .word && (second.text ≠ "from" || (← after second).kind ≠ .string))
  let typeWord ← if typed && (t.isWord "type" || t.isWord "typeof") && named then pure [← take t] else pure []
  let t ← next
  if t.kind = .string then
    let source := (← string).withField "source"
    terminated "import_statement" (word :: typeWord ++ source :: (← importAttribute?)) .other
  else if typed ∧ t.kind = .word ∧ (← after t).isSign "=" then importedAlias (word :: typeWord)
  else
    let clause ← importClause
    let source ← fromClause
    terminated "import_statement" (word :: typeWord ++ clause :: source ++ (← importAttribute?)) .other

/-! ## Declarations -/

/-- A declaration in the surroundings of the program. -/
def ambientDeclaration (declaration? : Read (Option Node)) : Read Node := do
  let word ← keyword "declare"
  let t ← next
  if t.isWord "global" then
    return .branch "ambient_declaration" [word, ← take t, ← nodeOf (.block .other)]
  else match ← declaration? with
    | some n => return .branch "ambient_declaration" [word, n]
    | none => refuseAt t.start

/-- A declaration that only the typed dialect has, if one begins here. -/
def typedDeclaration? : Read (Option Node) := do
  let t ← next
  let second ← after t
  let named := second.kind = .word
  if !(← dialect).typed ∨ t.kind ≠ .word then return none
  match t.text with
  | "interface" => if named then return some (← interfaceDeclaration) else return none
  | "enum" => if named then return some (← enumDeclaration) else return none
  | "const" => if second.isWord "enum" then return some (← enumDeclaration) else return none
  | "type" => if named then return some (← typeAlias) else return none
  | "namespace" => if named then return some (← namespaceNode "internal_module") else return none
  | "module" =>
    if named ∨ second.kind = .string then return some (← namespaceNode "module") else return none
  | "abstract" => if second.isWord "class" then return some (← classDeclaration []) else return none
  | "import" =>
    if named ∧ (← after second).isSign "=" then return some (← importedAlias [← take t]) else return none
  | _ => return none

/-- A declaration, if one begins here. -/
def plainDeclaration? : Read (Option Node) := do
  let t ← next
  let second ← after t
  match if t.kind = .word then t.text else "" with
  | "function" => return some (← functionDeclaration)
  | "async" => if second.isWord "function" then return some (← functionDeclaration) else return none
  | "class" => return some (← classDeclaration [])
  | "const" => return some (← variableStatement)
  | "var" => return some (← variableStatement)
  | "let" =>
    if second.kind = .word ∨ second.isSign "[" ∨ second.isSign "\x7b" then return some (← variableStatement)
    else return none
  | _ => if t.isSign "@" then return some (← classDeclaration (← leadingDecorators)) else return none

/-- A declaration other than one in the surroundings, if one begins here. -/
def ownDeclaration? : Read (Option Node) := do
  match ← typedDeclaration? with
  | some n => return some n
  | none => plainDeclaration?

/-- A declaration, if one begins here. -/
def declaration? : Read (Option Node) := do
  let t ← next
  if (← dialect).typed ∧ t.isWord "declare" ∧ (← after t).kind = .word then
    return some (← ambientDeclaration ownDeclaration?)
  else ownDeclaration?

/-! ## Exports -/

/-- What a module exports by default. -/
def exportedDefault (before : List Node) : Read Node := do
  let t ← next
  let second ← after t
  let anonymous :=
    (t.isWord "function" && !(second.kind = .word || (second.isSign "*" && (← after second).kind = .word)))
      || (t.isWord "async" && second.isWord "function" &&
        !((← after second).kind = .word || (← after (← after second)).kind = .word))
      || (t.isWord "class" && (second.kind ≠ .word || second.text = "extends"))
  let startsVariables := t.isWord "const" || t.isWord "let" || t.isWord "var"
  let declared ← if anonymous || startsVariables then pure none else declaration?
  match declared with
  | some n => return .branch "export_statement" (before ++ [n.withField "declaration"])
  | none =>
    let value ← field "value" (.expression .expression)
    terminated "export_statement" (before ++ [value]) .expression

/-- The names that a module exports. -/
def exportClause : Read Node :=
  bracketed "export_clause" "\x7b" "\x7d" (specifier "export_specifier")

/-- A module behind `from`, if one follows. -/
def fromClause? : Read (List Node) := do
  if (← follow .other).isWord "from" then return (← fromClause) ++ (← importAttribute?) else return []

/-- An export of all names of another module. -/
def exportAll (before : List Node) : Read Node := do
  let star ← sign "*"
  let t ← next
  let what ← if t.isWord "as" then
      pure (Node.branch "namespace_export" [star, ← take t, ← exportedName])
    else pure star
  terminated "export_statement" (before ++ what :: (← fromClause) ++ (← importAttribute?)) .other

/-- An export behind its decorators. -/
def exportStatement (marks : List Node) : Read Node := do
  let word ← keyword "export"
  let before := marks ++ [word]
  let t ← next
  let second ← after t
  let typed := (← dialect).typed
  if t.isSign "*" then exportAll before
  else if t.isSign "\x7b" then
    terminated "export_statement" (before ++ (← exportClause) :: (← fromClause?)) .other
  else if t.isWord "default" then exportedDefault (before ++ [← take t])
  else if typed ∧ t.isWord "type" ∧ second.isSign "\x7b" then
    let typeWord ← take t
    terminated "export_statement" (before ++ typeWord :: (← exportClause) :: (← fromClause?)) .other
  else if typed ∧ t.isSign "=" then
    let equals ← take t
    let value ← nodeOf (.expression .expression)
    terminated "export_statement" (before ++ [equals, value]) .expression
  else if typed ∧ t.isWord "as" ∧ second.isWord "namespace" then
    let words := [← take t, ← take second]
    terminated "export_statement" (before ++ words ++ [← name "identifier"]) .other
  else match ← declaration? with
    | some n => return .branch "export_statement" (before ++ [n.withField "declaration"])
    | none => refuseAt t.start

/-! ## Control flow -/

def condition (fieldName : String) : Read Node := return (← parenthesized).withField fieldName

/-- An `if` statement. -/
def ifStatement : Read Node := do
  let word ← keyword "if"
  let test ← condition "condition"
  let yes ← field "consequence" .statement
  let t ← next
  let no ← if t.isWord "else" then
      pure [(Node.branch "else_clause" [← take t, ← nodeOf .statement]).withField "alternative"]
    else pure []
  return .branch "if_statement" (word :: test :: yes :: no)

/-- What a loop over the values of something binds, and the word behind it. -/
def loopTarget : Read (List Node) := do
  let t ← next
  let second ← after t
  let declares := t.isWord "var" || t.isWord "const" || (t.isWord "let" && second.text ≠ "in")
  let left ← if declares then do
      let kind := (← take t).withField "kind"
      let target := (← nodeOf .pattern).withField "left"
      let value ← if t.text = "var" then initializer? .never else pure []
      pure (kind :: target :: value)
    else do
      match toPattern? (← nodeOf (.operand .never)) with
      | some n => pure [n.withField "left"]
      | none => refuseAt t.start
  let op ← next
  if op.isWord "in" ∨ op.isWord "of" then return left ++ [(← take op).withField "operator"]
  else refuseAt op.start

def emptyStatement : Read Node := return .branch "empty_statement" [← sign ";"]

/-- A part of the head of a loop, up to its semicolon. -/
def loopPart (fieldName : String) : Read (List Node) := do
  if (← next).isSign ";" then return [(← emptyStatement).withField fieldName]
  else
    let value ← field fieldName (.sequence .never)
    return [value, ← sign ";"]

/-- A `for` statement. -/
def forStatement : Read Node := do
  let word ← keyword "for"
  let awaitWord ← wordIf "await"
  let opening ← sign "("
  match ← attempt loopTarget with
  | some target =>
    let right ← field "right" (.sequence .never)
    let close ← sign ")"
    let body ← field "body" .statement
    return .branch "for_in_statement" (word :: awaitWord ++ opening :: target ++ [right, close, body])
  | none =>
    let t ← next
    let declares := t.isWord "var" || t.isWord "const" || t.isWord "let"
    let first ← if declares then pure [(← variableStatement).withField "initializer"] else loopPart "initializer"
    let test ← loopPart "condition"
    let step ← if (← next).isSign ")" then pure [] else pure [← field "increment" (.sequence .never)]
    let close ← sign ")"
    let body ← field "body" .statement
    return .branch "for_statement" (word :: opening :: first ++ test ++ step ++ [close, body])

/-- A `while` or `with` statement. -/
def headedStatement (kind fieldName : String) : Read Node := do
  let word ← take (← next)
  let head ← condition fieldName
  return .branch kind [word, head, ← field "body" .statement]

/-- A `do` statement. -/
def doStatement : Read Node := do
  let word ← keyword "do"
  let body ← field "body" .statement
  let whileWord ← keyword "while"
  let test ← condition "condition"
  let children := [word, body, whileWord, test]
  let t ← next
  if t.isSign ";" then return .branch "do_statement" (children ++ [← take t])
  else endingAt .other (.branch "do_statement" children)

/-- What is done with an error. -/
def catchClause : Read Node := do
  let word ← keyword "catch"
  let t ← next
  let parameter ← if t.isSign "(" then do
      let opening ← take t
      let target := (← nodeOf .pattern).withField "parameter"
      let type ← if (← dialect).typed then typeAnnotation? .never else pure []
      pure (opening :: target :: type ++ [← sign ")"])
    else pure []
  return .branch "catch_clause" (word :: parameter ++ [← field "body" (.block .other)])

/-- A `try` statement. -/
def tryStatement : Read Node := do
  let word ← keyword "try"
  let body ← field "body" (.block .other)
  let handler ← if (← next).isWord "catch" then pure [(← catchClause).withField "handler"] else pure []
  let t ← next
  let last ← if t.isWord "finally" then do
      let clause := Node.branch "finally_clause" [← take t, ← field "body" (.block .other)]
      pure [clause.withField "finalizer"]
    else pure []
  return .branch "try_statement" (word :: body :: handler ++ last)

/-- A case of a `switch` statement, if one follows. -/
def switchCase? : Read (Option (List Node)) := do
  let t ← next
  let statements : Read (List Node) := gather do
    let t ← next
    if t.isWord "case" ∨ t.isWord "default" ∨ t.isSign "\x7d" then return none
    else return some [← field "body" .statement]
  if t.isWord "case" then
    let word ← take t
    let value ← field "value" (.sequence .never)
    let colon ← sign ":"
    return some [.branch "switch_case" (word :: value :: colon :: (← statements))]
  else if t.isWord "default" then
    let word ← take t
    let colon ← sign ":"
    return some [.branch "switch_default" (word :: colon :: (← statements))]
  else return none

/-- A `switch` statement. -/
def switchStatement : Read Node := do
  let word ← keyword "switch"
  let value ← condition "value"
  let opening ← sign "\x7b"
  let cases ← gather switchCase?
  let body := Node.branch "switch_body" (opening :: cases ++ [← sign "\x7d"])
  return .branch "switch_statement" [word, value, body.withField "body"]

/-- A statement that leaves a loop or a labelled statement. -/
def jumpStatement (kind : String) : Read Node := do
  let word ← take (← next)
  let t ← follow .other
  let label ← if t.kind = .word then pure [(← takeAs "statement_identifier" t).withField "label"] else pure []
  terminated kind (word :: label) .other

/-- A statement that leaves a function. -/
def returnStatement : Read Node := do
  let word ← keyword "return"
  let t ← follow .other
  if t.kind = .stop ∨ t.isSign ";" then terminated "return_statement" [word] .other
  else terminated "return_statement" [word, ← nodeOf (.sequence .expression)] .expression

/-- A statement with a label. -/
def labeledStatement : Read Node := do
  let label := (← name "statement_identifier").withField "label"
  let colon ← sign ":"
  return .branch "labeled_statement" [label, colon, ← field "body" .statement]

def expressionStatement : Read Node := do
  terminated "expression_statement" [← nodeOf (.sequence .expression)] .expression

/-- A namespace as a statement: an expression, if a semicolon ends it. -/
def namespaceStatement (n : Node) : Read Node := do
  let isExpression ← succeeds (semicolon .expression)
  if n.kind = "internal_module" ∧ isExpression then terminated "expression_statement" [n] .expression
  else return n

/-! ## Statements -/

/-- A statement that begins with a word of its own, if one does. -/
def wordStatement? (t : Token) : Read (Option Node) := do
  let second ← after t
  match t.text with
  | "import" =>
    if second.isSign "(" ∨ second.isSign "." then return none else return some (← importStatement)
  | "export" => return some (← exportStatement [])
  | "if" => return some (← ifStatement)
  | "for" => return some (← forStatement)
  | "while" => return some (← headedStatement "while_statement" "condition")
  | "with" => return some (← headedStatement "with_statement" "object")
  | "do" => return some (← doStatement)
  | "try" => return some (← tryStatement)
  | "switch" => return some (← switchStatement)
  | "break" => return some (← jumpStatement "break_statement")
  | "continue" => return some (← jumpStatement "continue_statement")
  | "return" => return some (← returnStatement)
  | "throw" =>
    return some (← terminated "throw_statement" [← take t, ← nodeOf (.sequence .expression)] .expression)
  | "debugger" => return some (← terminated "debugger_statement" [← take t] .other)
  | _ => if second.isSign ":" then return some (← labeledStatement) else return none

/-- A line that a mark of markup comments begins. It may stand where a statement may. -/
def markupComment? : Read (Option Node) := do
  let src ← source
  let p := gapStop src (← offset)
  if src.slice p (p + 4) = "<!--" ∨ src.slice p (p + 3) = "-->" then
    let stop := src.runStop (fun c => c ≠ '\n' ∧ c ≠ '\u2028' ∧ c ≠ '\u2029') p
    moveTo stop
    return some (.leaf "html_comment" p stop)
  else return none

/-- A statement. -/
def statement : Read Node := do
  if let some comment ← markupComment? then return comment
  let t ← next
  if t.isSign ";" then emptyStatement
  else if t.isSign "\x7b" then block .other
  else if t.isSign "@" then
    let marks ← leadingDecorators
    if (← next).isWord "export" then exportStatement marks else classDeclaration marks
  else
    let special ← if t.kind = .word then wordStatement? t else pure none
    match special with
    | some n => return n
    | none =>
      match ← declaration? with
      | some n => namespaceStatement n
      | none => expressionStatement

end CodeAtlas.Syntax.Script
