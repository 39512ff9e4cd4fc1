import CodeAtlas.Syntax.Symbols

set_option autoImplicit false

/-! # Symbols of JavaScript and TypeScript modules

Classes with their members, functions, variables, imports and `require` calls; in TypeScript also
interfaces, enums and namespaces. A doc comment belongs to the statement it stands above, so to the
export statement of an exported declaration. -/

namespace CodeAtlas.Syntax.Script

open Node (Place)

/-- Kinds of expression that make a declarator a function. -/
def functionValues : List String :=
  ["arrow_function", "function_expression", "function", "generator_function"]

def classDeclarations : List String := ["class_declaration", "class", "abstract_class_declaration"]

/-- The name that a call or a `new` calls: a plain name, or the property of a member access. -/
def calleeName? (cx : Context) (call : Node) : Option String := do
  let callee ← call.field? (if call.kind = "new_expression" then "constructor" else "function")
  if callee.kind = "identifier" then return cx.text callee
  else if callee.kind = "member_expression" then return cx.text (← callee.field? "property")
  else none

/-- The names called in a body, each once. -/
def callNames (cx : Context) (body : Option Node) : List String :=
  match body with
  | none => []
  | some b => distinct ((b.descendants ["call_expression", "new_expression"]).filterMap (calleeName? cx))

/-- The doc and the export mark that a declaration has from the statement it stands in. -/
structure Anchor where
  docstring : Option String
  exported : Bool

/-- The anchor of a statement that stands for itself. -/
def Anchor.of (cx : Context) (p : Place) : Anchor :=
  ⟨docComment? cx p, p.node.kind = "export_statement"⟩

/-! ## Imports -/

/-- An import statement. -/
def importSymbols (cx : Context) (n : Node) : Found :=
  match n.field? "source" with
  | none => .none
  | some source =>
    let specifier := unquote (cx.text source)
    let clause := n.namedChildren.find? (·.kind = "import_clause")
    let names := ((clause.map (·.descendants ["identifier"])).getD []).map cx.text
    Found.importing specifier
      ++ Found.entity (cx.entity .importDecl specifier n none
        [("module", .text specifier), ("names", .list names), ("typeOnly", .flag (n.hasChild "type"))])

/-- The module that a `require` call with a literal argument loads. -/
def requiredModule (cx : Context) (call : Node) : Found :=
  let loaded : Option Node := do
    let f ← call.field? "function"
    guard (f.kind = "identifier" ∧ cx.text f = "require")
    let argument ← (← call.field? "arguments").namedChildren.head?
    guard (argument.kind = "string")
    return argument
  match loaded with
  | some argument => .importing (unquote (cx.text argument))
  | none => .none

/-! ## Classes -/

/-- The names that a class extends and those it implements. -/
def heritageNames (cx : Context) (n : Node) : List String × List String :=
  let clauses := ((n.namedChildren.find? (·.kind = "class_heritage")).map (·.namedChildren)).getD []
  let name (t : Node) : String := simpleName (cx.text t)
  let bases := clauses.filterMap fun c =>
    if c.kind = "extends_clause" then ((c.field? "value").or c.namedChildren.head?).map name
    else if c.kind = "implements_clause" then none
    else some (name c)
  let implemented := (clauses.filter (·.kind = "implements_clause")).flatMap fun c =>
    c.namedChildren.map name
  (bases, implemented)

/-- The entity of a class. -/
def classEntity (cx : Context) (p : Place) (name : String) (anchor : Anchor) : Entity :=
  let (bases, implemented) := heritageNames cx p.node
  cx.entity .classDecl name p.node anchor.docstring
    [("bases", .list bases), ("implements", .list implemented),
      ("decorators", .list (decorators cx p)),
      ("isAbstract", .flag (p.node.kind = "abstract_class_declaration"))]

/-- Is a member of a class a method? -/
def isMethod (member : Node) (value : Option Node) : Bool :=
  member.kind = "method_definition" || member.kind = "method_signature"
    || member.kind = "abstract_method_signature" || value.any (·.kind ∈ functionValues)

/-- The entity of a method. -/
def methodEntity (cx : Context) (p : Place) (name className : String) (value : Option Node) : Entity :=
  let callable := if p.node.kind = "method_definition" then p.node else value.getD p.node
  let accessor := p.node.children.find? fun c => c.kind = "get" ∨ c.kind = "set"
  cx.entity .methodDecl name p.node (docComment? cx p)
    ([("parentClass", .text className),
      ("parameters", .list (parameterNames cx (callable.field? "parameters"))),
      ("decorators", .list (decorators cx p)),
      ("calls", .list (callNames cx (callable.field? "body"))),
      ("isAsync", .flag (callable.hasChild "async")),
      ("isStatic", .flag (p.node.hasChild "static"))]
      ++ accessor.toList.map fun a => ("accessor", .text a.kind))

/-- A member of a class. -/
def classMember (cx : Context) (className : String) (p : Place) : Found :=
  let m := p.node
  match nonEmpty? (((m.field? "name").or (m.field? "property")).map cx.text) with
  | none => .none
  | some name =>
    let value := m.field? "value"
    if isMethod m value then Found.entity (methodEntity cx p name className value)
    else if m.kind = "field_definition" ∨ m.kind = "public_field_definition" then
      Found.entity (cx.entity .variableDecl name m (docComment? cx p)
        [("parentClass", .text className), ("isStatic", .flag (m.hasChild "static"))])
    else .none

def namedPlaces (n : Node) : List Place := n.places.filter (·.node.isNamed)

/-- A class and its members. -/
def classSymbols (cx : Context) (p : Place) (anchor : Anchor) : Found :=
  match cx.fieldText? p.node "name" with
  | none => .none
  | some name =>
    let members := ((p.node.field? "body").map namedPlaces).getD []
    Found.entity (classEntity cx p name anchor) ++ Found.all (members.map (classMember cx name))

/-! ## Functions and variables -/

/-- A function declaration. -/
def functionSymbols (cx : Context) (n : Node) (anchor : Anchor) : Found :=
  match cx.fieldText? n "name" with
  | none => .none
  | some name =>
    Found.entity (cx.entity .functionDecl name n anchor.docstring
      [("parameters", .list (parameterNames cx (n.field? "parameters"))),
        ("calls", .list (callNames cx (n.field? "body"))),
        ("isAsync", .flag (n.hasChild "async")),
        ("isGenerator", .flag (n.kind = "generator_function_declaration")),
        ("exported", .flag anchor.exported)])

/-- The parameters of a function value; an arrow function may have a single bare one. -/
def valueParameters (cx : Context) (value : Node) : List String :=
  let params := (value.field? "parameters").or (value.field? "parameter")
  match params with
  | some p => if p.kind = "identifier" then [cx.text p] else parameterNames cx params
  | none => []

/-- One declarator of a variable declaration. -/
def declaratorSymbols (cx : Context) (isConst : Bool) (anchor : Anchor) (d : Node) : Found :=
  match d.field? "name" with
  | none => .none
  | some nameNode =>
    if nameNode.kind ≠ "identifier" then .none
    else
      let name := cx.text nameNode
      let value := d.places.find? fun p => p.node.info.field = some "value"
      let plain := Found.entity
        (cx.entity (if isConst && isConstantName name then .constantDecl else .variableDecl) name d
          anchor.docstring [("exported", .flag anchor.exported), ("isConst", .flag isConst)])
      match value with
      | none => plain
      | some p =>
        if p.node.kind ∈ functionValues then
          Found.entity (cx.entity .functionDecl name d anchor.docstring
            [("parameters", .list (valueParameters cx p.node)),
              ("calls", .list (callNames cx (p.node.field? "body"))),
              ("isAsync", .flag (p.node.hasChild "async")),
              ("exported", .flag anchor.exported)])
        else if p.node.kind ∈ classDeclarations then classSymbols cx p anchor
        else plain

/-- The declarators of a variable declaration. -/
def variableSymbols (cx : Context) (n : Node) (anchor : Anchor) : Found :=
  let isConst := n.hasChild "const"
  Found.all ((n.namedChildren.filter (·.kind = "variable_declarator")).map (declaratorSymbols cx isConst anchor))

/-! ## Interfaces and enums -/

/-- An interface declaration. -/
def interfaceSymbols (cx : Context) (n : Node) (anchor : Anchor) : Found :=
  match cx.fieldText? n "name" with
  | none => .none
  | some name =>
    let clause := n.namedChildren.find? (·.kind = "extends_type_clause")
    let bases := ((clause.map (·.namedChildren)).getD []).map fun t => simpleName (cx.text t)
    let members := (((n.field? "body").map (·.namedChildren)).getD []).filterMap fun m =>
      (m.field? "name").map cx.text
    Found.entity (cx.entity .interfaceDecl name n anchor.docstring
      [("bases", .list bases), ("members", .list members)])

/-- An enum declaration. -/
def enumSymbols (cx : Context) (n : Node) (anchor : Anchor) : Found :=
  match cx.fieldText? n "name" with
  | none => .none
  | some name =>
    let members := (((n.field? "body").map (·.namedChildren)).getD []).filterMap fun m =>
      let member := if m.kind = "enum_assignment" then (m.field? "name").map cx.text else some (cx.text m)
      (nonEmpty? member).filter fun s => !s.startsWith "/"
    Found.entity (cx.entity .enumDecl name n anchor.docstring
      [("members", .list members), ("isConst", .flag (n.hasChild "const"))])

/-! ## The walk -/

/-- What a walk does with a node. -/
inductive Goal where
  /-- Visit it as a statement. -/
  | statement (before : List Node) (anchor : Anchor)
  /-- Visit it as a namespace. -/
  | inner (anchor : Anchor)
  /-- Visit every statement in it. -/
  | body

/-- The rest of a walk below a child. -/
abbrev Visit := Goal → Found

/-- A child with what precedes it and the walk below it. -/
structure Step where
  place : Place
  visit : Visit

/-- The children with what precedes them. -/
def stepsOf (before : List Node) : List (Node × Visit) → List Step
  | [] => []
  | (c, v) :: rest => ⟨⟨c, before⟩, v⟩ :: stepsOf (if c.isNamed then c :: before else before) rest

/-- Visit a child as a statement that stands for itself. -/
def Step.asStatement (cx : Context) (s : Step) : Found :=
  s.visit (.statement s.place.before (.of cx s.place))

/-- A namespace and the statements in it. -/
def namespaceSymbols (cx : Context) (n : Node) (below : List (Node × Visit)) (anchor : Anchor) :
    Found :=
  match cx.fieldText? n "name" with
  | none => .none
  | some name =>
    let inside := match below.find? fun p => p.1.info.field = some "body" with
      | some p => p.2 .body
      | none => .none
    Found.entity (cx.entity .moduleDecl name n anchor.docstring []) ++ inside

/-- A declaration that only the typed dialect has. -/
def typedStep (cx : Context) (n : Node) (below : List (Node × Visit)) (anchor : Anchor) : Found :=
  match n.kind with
  | "interface_declaration" => interfaceSymbols cx n anchor
  | "enum_declaration" => enumSymbols cx n anchor
  | "internal_module" => namespaceSymbols cx n below anchor
  | "module" => namespaceSymbols cx n below anchor
  | "expression_statement" =>
    match below.find? (·.1.isNamed) with
    | some (c, v) => if c.kind = "internal_module" then v (.inner anchor) else .none
    | none => .none
  | _ => .none

/-- What a walk finds at a node, given the walks below its children. -/
def visitStep (cx : Context) (typed : Bool) (n : Node) (below : List (Node × Visit)) (goal : Goal) :
    Found :=
  match goal with
  | .body =>
    Found.all (((stepsOf [] below).filter (·.place.node.isNamed)).map (Step.asStatement cx))
  | .inner anchor => namespaceSymbols cx n below anchor
  | .statement before anchor =>
    match n.kind with
    | "export_statement" =>
      let source := match n.field? "source" with
        | some s => Found.importing (unquote (cx.text s))
        | none => .none
      let declaration :=
        match (stepsOf [] below).find? fun s => s.place.node.info.field = some "declaration" with
        | some s => s.visit (.statement s.place.before (.of cx ⟨n, before⟩))
        | none => .none
      source ++ declaration
    | "import_statement" => importSymbols cx n
    | "function_declaration" => functionSymbols cx n anchor
    | "generator_function_declaration" => functionSymbols cx n anchor
    | "lexical_declaration" => variableSymbols cx n anchor
    | "variable_declaration" => variableSymbols cx n anchor
    | kind =>
      if kind ∈ classDeclarations then classSymbols cx ⟨n, before⟩ anchor
      else if typed then typedStep cx n below anchor
      else .none

mutual

def visit (cx : Context) (typed : Bool) : Node → Visit
  | .mk i cs => visitStep cx typed (.mk i cs) (visitAll cx typed cs)

/-- The walks below a list of nodes. -/
def visitAll (cx : Context) (typed : Bool) : List Node → List (Node × Visit)
  | [] => []
  | c :: rest => (c, visit cx typed c) :: visitAll cx typed rest

end

/-- What a module defines, imports and requires. -/
def collect (typed : Bool) (cx : Context) (root : Node) : Found :=
  visit cx typed root .body
    ++ Found.all ((root.descendants ["call_expression"]).map (requiredModule cx))

/-- The kinds of entity found in an untyped module. -/
def kinds : List EntityKind :=
  [.classDecl, .functionDecl, .methodDecl, .variableDecl, .constantDecl, .importDecl]

def typedKinds : List EntityKind := kinds ++ [.interfaceDecl, .enumDecl, .moduleDecl]

end CodeAtlas.Syntax.Script
