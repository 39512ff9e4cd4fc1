import CodeAtlas.Syntax.Symbols

set_option autoImplicit false

/-! # Symbols of Python modules

Classes, functions, methods, variables, constants and imports. Compound statements such as `if` and `try`
are looked through; the bodies of functions are not. -/

namespace CodeAtlas.Syntax.Python

/-- Compound statements, and their parts, that are looked through. -/
def transparent : List String :=
  ["if_statement", "elif_clause", "else_clause", "try_statement", "except_clause", "finally_clause",
    "with_statement", "block"]

/-- The doc of a body: its first statement, if that is a bare string. -/
def bodyDocstring (cx : Context) (body : Option Node) : Option String := do
  let first ← (← body).namedChildren.head?
  guard (first.kind = "expression_statement")
  let literal ← first.namedChildren.head?
  guard (literal.kind = "string")
  let marks := ['r', 'R', 'b', 'B', 'u', 'U', 'f', 'F']
  let text := unquote (String.ofList ((cx.text literal).toList.dropWhile (· ∈ marks)))
  nonEmpty? (some (Text.trim ("\n".intercalate ((Text.lines text).map Text.trim))))

/-- The name that a call calls: a plain name, or the last part of a dotted one. -/
def calleeName? (cx : Context) (call : Node) : Option String := do
  let f ← call.field? "function"
  if f.kind = "identifier" then return cx.text f
  else if f.kind = "attribute" then return cx.text (← f.field? "attribute")
  else none

/-- The names called in a body, each once. -/
def callNames (cx : Context) (body : Option Node) : List String :=
  match body with
  | none => []
  | some b => distinct ((b.descendants ["call"]).filterMap (calleeName? cx))

/-- What a walk does with a node. -/
inductive Goal where
  /-- Visit it as a statement, with the decorators before it. -/
  | statement (decorators : List String)
  /-- Visit every statement in it. -/
  | block

/-- The metadata member that names the enclosing class. -/
def parentClassMember : Option String → Metadata
  | some c => [("parentClass", .text c)]
  | none => []

/-- A metadata member that is left out when there is no text. -/
def textMember (name : String) (s : Option String) : Metadata :=
  (nonEmpty? s).toList.map fun t => (name, .text t)

/-- The entity of a class. -/
def classEntity (cx : Context) (n : Node) (name : String) (parentClass : Option String)
    (decorators : List String) : Entity :=
  let arguments := ((n.field? "superclasses").map (·.namedChildren)).getD []
  let bases := (arguments.filter fun a => a.kind = "identifier" ∨ a.kind = "attribute").map fun a =>
    simpleName (cx.text a)
  cx.entity .classDecl name n (bodyDocstring cx (n.field? "body"))
    ([("bases", .list bases), ("decorators", .list decorators)] ++ parentClassMember parentClass)

/-- The entity of a function; in a class it is a method. -/
def functionEntity (cx : Context) (n : Node) (name : String) (parentClass : Option String)
    (decorators : List String) : Entity :=
  let body := n.field? "body"
  cx.entity (if parentClass.isSome then .methodDecl else .functionDecl) name n (bodyDocstring cx body)
    ([("parameters", .list (parameterNames cx (n.field? "parameters"))),
      ("decorators", .list decorators),
      ("calls", .list (callNames cx body)),
      ("isAsync", .flag (n.hasChild "async"))]
      ++ textMember "returns" ((n.field? "return_type").map cx.text)
      ++ parentClassMember parentClass)

/-- One module of an import statement. -/
def importedModule (cx : Context) (statement child : Node) : Found :=
  let aliased := child.kind = "aliased_import"
  match if aliased then child.field? "name" else some child with
  | none => .none
  | some target =>
    if target.kind ≠ "dotted_name" then .none
    else
      let name := cx.text target
      let shortName := if aliased then (child.field? "alias").map cx.text else none
      Found.importing name
        ++ Found.entity (cx.entity .importDecl name statement none
          ([("module", .text name)] ++ textMember "alias" shortName))

/-- The name that a child of a `from` import brings in. -/
def importedName? (cx : Context) (child : Node) : Option String :=
  let name := if child.kind = "aliased_import" then (child.field? "name").map cx.text
    else some (cx.text child)
  (nonEmpty? name).filter fun s => !s.startsWith "#"

/-- A `from` import. The names that come from a bare dot are modules themselves. -/
def fromImport (cx : Context) (n : Node) : Found :=
  match n.field? "module_name" with
  | none => .none
  | some m =>
    let module := cx.text m
    let others := n.namedChildren.filter fun c => c.info.start ≠ m.info.start
    let names := others.filterMap (importedName? cx)
    let imports :=
      if module ≠ "" ∧ module.toList.all (· == '.') then
        Found.all (names.map fun name => Found.importing (module ++ name))
      else Found.importing module
    imports ++ Found.entity (cx.entity .importDecl module n none
      [("module", .text module), ("names", .list names)])

/-- An assignment to a plain name. -/
def assignment (cx : Context) (n : Node) (parentClass : Option String) : Found :=
  match n.namedChildren.head? with
  | none => .none
  | some a =>
    match a.field? "left" with
    | none => .none
    | some left =>
      if a.kind ≠ "assignment" ∨ left.kind ≠ "identifier" then .none
      else
        let name := cx.text left
        Found.entity (cx.entity (if isConstantName name then .constantDecl else .variableDecl) name n none
          (textMember "annotation" ((a.field? "type").map cx.text) ++ parentClassMember parentClass))

/-- The rest of a walk below a child, once it is known what to do there and in which class. -/
abbrev Visit := Goal → Option String → Found

/-- What a walk finds at a node, given the walks below its children. -/
def visitStep (cx : Context) (n : Node) (below : List (Node × Visit)) (goal : Goal)
    (parentClass : Option String) : Found :=
  let named := below.filter (·.1.isNamed)
  let statements (c : Option String) : Found := Found.all (named.map fun p => p.2 (.statement []) c)
  let field (name : String) : Option (Node × Visit) := below.find? fun p => p.1.info.field = some name
  match goal with
  | .block => statements parentClass
  | .statement decorators =>
    match n.kind with
    | "decorated_definition" =>
      let marks := (n.namedChildren.filter (·.kind = "decorator")).map (decoratorText cx)
      match field "definition" with
      | some p => p.2 (.statement marks) parentClass
      | none => .none
    | "class_definition" =>
      match cx.fieldText? n "name" with
      | none => .none
      | some name =>
        let inside := match field "body" with
          | some p => p.2 .block (some name)
          | none => .none
        Found.entity (classEntity cx n name parentClass decorators) ++ inside
    | "function_definition" =>
      match cx.fieldText? n "name" with
      | none => .none
      | some name => Found.entity (functionEntity cx n name parentClass decorators)
    | "import_statement" => Found.all (n.namedChildren.map (importedModule cx n))
    | "import_from_statement" => fromImport cx n
    | "expression_statement" => assignment cx n parentClass
    | "block" => statements parentClass
    | kind =>
      if kind ∈ transparent then
        Found.all ((named.filter (·.1.kind ∈ transparent)).map fun p => p.2 (.statement []) parentClass)
      else .none

mutual

def visit (cx : Context) : Node → Visit
  | .mk i cs => visitStep cx (.mk i cs) (visitAll cx cs)

/-- The walks below a list of nodes. -/
def visitAll (cx : Context) : List Node → List (Node × Visit)
  | [] => []
  | c :: rest => (c, visit cx c) :: visitAll cx rest

end

/-- What a module defines and imports. -/
def collect (cx : Context) (root : Node) : Found := visit cx root .block none

def kinds : List EntityKind :=
  [.classDecl, .functionDecl, .methodDecl, .variableDecl, .constantDecl, .importDecl]

end CodeAtlas.Syntax.Python
