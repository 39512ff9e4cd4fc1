import CodeAtlas.Syntax.Python.Expression

set_option autoImplicit false

/-! # Statements of Python

A block is told by its indentation: it goes on until a line is indented less than its first one. Several
simple statements may share a line. -/

namespace CodeAtlas.Syntax.Python

open Reading

/-! ## Simple statements -/

/-- Can a simple statement end before the token? -/
def Token.endsStatement (t : Token) (src : Source) : Bool :=
  t.isSign ";" || (t.kind = .stop && (t.startsLine || src.chars.size ≤ t.start))

/-- Check that a simple statement ends here. -/
def statementEnd (l : Layout) : Read Unit := do
  let t ← follow l
  if t.endsStatement (← source) then return () else refuseAt t.start

/-- A dotted name. -/
def dottedName (l : Layout) : Read Node := do
  let first ← identifier l
  let rest ← gather do
    let t ← follow l
    if t.isSign "." then return some [← take t, ← identifier l] else return none
  return .branch "dotted_name" (first :: rest)

/-- A name that is imported, perhaps under another one. -/
def importedItem (l : Layout) : Read Node := do
  let name ← dottedName l
  let t ← follow l
  if t.isWord "as" then
    let parts := [name.withField "name", ← take t, (← identifier l).withField "alias"]
    return (Node.branch "aliased_import" parts).withField "name"
  else return name.withField "name"

/-- An `import` of modules. -/
def importStatement (l : Layout) : Read Node := do
  let word ← keyword l "import"
  return .branch "import_statement" (word :: (← commaList l (importedItem l)))

/-- The dots before a relative module name. -/
def importPrefix (l : Layout) : Read Node := do
  let dots ← gather do
    let t ← next l
    if t.isSign "." then return some [← take t]
    else if t.isSign "..." then
      moveTo t.stop
      return some [.token "." t.start (t.start + 1), .token "." (t.start + 1) (t.start + 2),
        .token "." (t.start + 2) t.stop]
    else return none
  return .branch "import_prefix" dots

/-- The module of a `from` import. -/
def sourceModule (l : Layout) : Read Node := do
  let t ← next l
  if t.isSign "." ∨ t.isSign "..." then
    let dots ← importPrefix l
    let after ← next l
    if after.kind = .word ∧ after.text ≠ "import" then
      return .branch "relative_import" [dots, ← dottedName l]
    else return .branch "relative_import" [dots]
  else dottedName l

/-- A `from` import. -/
def fromStatement (l : Layout) : Read Node := do
  let fromWord ← keyword l "from"
  let module ← sourceModule l
  let isFuture := module.text (← source) = "__future__"
  let head := if isFuture then [fromWord, .token "__future__" module.info.start module.info.stop]
    else [fromWord, module.withField "module_name"]
  let importWord ← keyword l "import"
  let t ← next l
  let kind := if isFuture then "future_import_statement" else "import_from_statement"
  let names ← if t.isSign "*" then pure [Node.branch "wildcard_import" [← take t]]
    else if t.isSign "(" then do
      let opening ← take t
      let items ← commaList .brackets (importedItem .brackets)
      pure (opening :: items ++ [← sign .brackets ")"])
    else commaList l (importedItem l)
  return .branch kind (head ++ importWord :: names)

/-- A `yield` or expressions, then perhaps an assignment to them. -/
def rightSide (l : Layout) : Read (List Node) := do
  if (← next l).isWord "yield" then return [← yielding l]
  commaList l (nodeOf (.expression l))

/-- The signs of assignments that compute. -/
def augmentedSigns : List String :=
  ["+=", "-=", "*=", "/=", "@=", "//=", "%=", "**=", ">>=", "<<=", "&=", "^=", "|="]

/-- The target of an assignment that was read as expressions. -/
def leftSide (items : List Node) (sign : Token) : Read Node := do
  match toPatterns? items with
  | some [n] => return n.withField "left"
  | some ns => return (Node.branch "pattern_list" ns).withField "left"
  | none => refuseAt sign.start

/-- The assignment behind expressions, if there is one. -/
def assignment? (l : Layout) (items : List Node) : Read (Option Node) := do
  let t ← follow l
  if t.isSign "=" then
    let left ← leftSide items t
    return some (.branch "assignment" [left, ← take t, ← field "right" (.rightSide l)])
  else if t.isSign ":" then
    let left ← leftSide items t
    let colon ← take t
    let annotation ← field "type" (.typeOf l)
    let equals ← follow l
    if equals.isSign "=" then
      let sign ← take equals
      return some (.branch "assignment" [left, colon, annotation, sign, ← field "right" (.rightSide l)])
    else return some (.branch "assignment" [left, colon, annotation])
  else if t.kind = .sign ∧ augmentedSigns.contains t.text then
    let left ← leftSide items t
    let op := (← take t).withField "operator"
    return some (.branch "augmented_assignment" [left, op, ← field "right" (.rightSide l)])
  else return none

/-- The right side of an assignment, which may be an assignment itself. -/
def assigned (l : Layout) : Read Node := do
  let items ← rightSide l
  match ← assignment? l items with
  | some n => return n
  | none => listNode "expression_list" items

/-- An expression or an assignment as a statement. -/
def expressionStatement (l : Layout) : Read Node := do
  let items ← rightSide l
  match ← assignment? l items with
  | some n => return .branch "expression_statement" [n]
  | none => return .branch "expression_statement" items

/-- A word and the expressions behind it, if there are any. -/
def wordStatement (kind word : String) (l : Layout) : Read Node := do
  let head ← keyword l word
  let t ← follow l
  if t.endsStatement (← source) then return .branch kind [head]
  else return .branch kind [head, ← expressions l]

/-- A word and a list behind it. -/
def listStatement (kind word : String) (l : Layout) (item : Read Node) : Read Node := do
  let head ← keyword l word
  return .branch kind (head :: (← commaList l item))

/-- A `raise`. -/
def raiseStatement (l : Layout) : Read Node := do
  let head ← keyword l "raise"
  let t ← follow l
  let value ← if t.endsStatement (← source) ∨ t.isWord "from" then pure [] else pure [← expressions l]
  let t ← follow l
  let cause ← if t.isWord "from" then pure [← take t, ← field "cause" (.expression l)] else pure []
  return .branch "raise_statement" (head :: value ++ cause)

/-- A `print` that is a statement of its own. -/
def printStatement (l : Layout) : Read Node := do
  let head ← keyword l "print"
  let t ← follow l
  if t.isSign ">>" then
    let file := Node.branch "chevron" [← take t, ← nodeOf (.expression l)]
    return .branch "print_statement" (head :: file :: (← commaTail l (field "argument" (.expression l))))
  else return .branch "print_statement" (head :: (← commaList l (field "argument" (.expression l))))

/-- An `exec` that is a statement of its own. -/
def execStatement (l : Layout) : Read Node := do
  let head ← keyword l "exec"
  let t ← next l
  let code ← if t.kind = .quote then string t else identifier l
  let t ← follow l
  let scope ← if t.isWord "in" then pure ((← take t) :: (← commaList l (nodeOf (.expression l))))
    else pure []
  return .branch "exec_statement" (head :: code.withField "code" :: scope)

/-- A type alias. -/
def typeAlias (l : Layout) : Read Node := do
  let head ← keyword l "type"
  let name ← nodeOf (.typeOf l)
  let equals ← sign l "="
  return .branch "type_alias_statement" [head, name, equals, ← nodeOf (.typeOf l)]

/-- A statement that must end where its reading ends. -/
def complete (l : Layout) (n : Read Node) : Read Node := do
  let n ← n
  statementEnd l
  return n

/-- A simple statement. -/
def simpleStatement (l : Layout) : Read Node := do
  let t ← next l
  let second := (tokenAt (← source) t.stop).within false l
  let plain := expressionStatement l
  match if t.kind = .word then t.text else "" with
  | "import" => importStatement l
  | "from" => fromStatement l
  | "assert" => listStatement "assert_statement" "assert" l (nodeOf (.expression l))
  | "return" => wordStatement "return_statement" "return" l
  | "del" => wordStatement "delete_statement" "del" l
  | "raise" => raiseStatement l
  | "pass" => return .branch "pass_statement" [← take t]
  | "break" => return .branch "break_statement" [← take t]
  | "continue" => return .branch "continue_statement" [← take t]
  | "global" => listStatement "global_statement" "global" l (identifier l)
  | "nonlocal" => listStatement "nonlocal_statement" "nonlocal" l (identifier l)
  | "print" => if second.isSign ">>" then printStatement l else either (complete l plain) (printStatement l)
  | "exec" => if second.kind = .quote ∨ second.kind = .word then either (execStatement l) plain else plain
  | "type" => if second.kind = .word then either (typeAlias l) plain else plain
  | _ => plain

/-- The simple statements of a line. The reading stops behind a comment on the same line. -/
def simpleLine (indent : Nat) : Read (List Node) := do
  let l := Layout.line indent
  let first ← simpleStatement l
  let rest ← gather do
    let t ← follow l
    if t.isSign ";" then
      let semicolon ← take t
      let after ← follow l
      if after.kind = .stop then return some [semicolon] else return some [semicolon, ← simpleStatement l]
    else return none
  statementEnd l
  moveTo (lineStop (← source) (← offset))
  return first :: rest

/-! ## Blocks -/

/-- A block whose lines are indented. -/
def indentedBlock (indent : Nat) : Read Node := do
  let statements ← gather do
    let src ← source
    let t := tokenAt src (← offset)
    if src.chars.size ≤ t.start ∨ (t.startsLine ∧ t.indent < indent) then return none
    else return some (← rule (.statement indent))
  let src ← source
  let stop := blockStop src indent src.chars.size (← offset)
  moveTo stop
  return .mk { kind := "block", start := Node.startOf statements, stop } statements

/-- What follows the colon of a compound statement: statements on the same line, an indented block, or
    nothing. -/
def suite (indent : Nat) : Read Node := do
  let src ← source
  let t := tokenAt src (← offset)
  if !t.startsLine then
    let statements ← simpleLine indent
    return .mk { kind := "block", start := Node.startOf statements, stop := ← offset } statements
  else if indent < t.indent ∧ t.start < src.chars.size then indentedBlock t.indent
  else
    let p := lineStop src (← offset)
    moveTo p
    return .mk { kind := "block", start := p, stop := p } []

/-- A colon and the block behind it. -/
def colonSuite (indent : Nat) (name : String) : Read (List Node) := do
  let colon ← sign (.header indent) ":"
  return [colon, (← suite indent).withField name]

/-- A colon and the block behind it, which fills no field. -/
def plainSuite (indent : Nat) : Read (List Node) := do
  let colon ← sign (.header indent) ":"
  return [colon, ← suite indent]

/-! ## Compound statements -/

def clauseFollows (indent : Nat) (word : String) : Read Bool := do
  return (← next (.header indent)).isWord word

/-- The `else` of a statement, if there is one. -/
def elseClause (indent : Nat) : Read (List Node) := do
  if ← clauseFollows indent "else" then
    let word ← keyword (.header indent) "else"
    return [.branch "else_clause" (word :: (← colonSuite indent "body"))]
  else return []

/-- The `else` of a statement that fills a field, if there is one. -/
def alternative (indent : Nat) : Read (List Node) := do
  return (← elseClause indent).map (Node.withField "alternative")

/-- An `if` statement. -/
def ifStatement (indent : Nat) : Read Node := do
  let l := Layout.header indent
  let head (word : String) : Read (List Node) := do
    let first ← keyword l word
    let condition ← field "condition" (.expression l)
    return first :: condition :: (← colonSuite indent "consequence")
  let first ← head "if"
  let others ← gather do
    if ← clauseFollows indent "elif" then
      return some [(Node.branch "elif_clause" (← head "elif")).withField "alternative"]
    else return none
  return .branch "if_statement" (first ++ others ++ (← alternative indent))

/-- A `for` statement; `before` is the word that makes it asynchronous. -/
def forStatement (indent : Nat) (before : List Node) : Read Node := do
  let l := Layout.header indent
  let word ← keyword l "for"
  let left := (← targets l).withField "left"
  let inWord ← keyword l "in"
  let right := (← expressions l).withField "right"
  let body ← colonSuite indent "body"
  return .branch "for_statement" (before ++ [word, left, inWord, right] ++ body ++ (← alternative indent))

/-- A `while` statement. -/
def whileStatement (indent : Nat) : Read Node := do
  let l := Layout.header indent
  let word ← keyword l "while"
  let condition ← field "condition" (.expression l)
  let body ← colonSuite indent "body"
  return .branch "while_statement" (word :: condition :: body ++ (← alternative indent))

/-- An `except` clause. -/
def exceptClause (indent : Nat) : Read Node := do
  let l := Layout.header indent
  let word ← keyword l "except"
  let star ← next l
  let group := star.isSign "*" && star.start = word.info.stop
  let word ← if group then do
      moveTo star.stop
      pure (Node.token "except*" word.info.start star.stop)
    else pure word
  let t ← next l
  let caught ← if t.isSign ":" then pure [] else pure [← nodeOf (.expression l)]
  let t ← next l
  let name ← if t.isSign "," then pure [← take t, ← nodeOf (.expression l)] else pure []
  return .branch (if group then "except_group_clause" else "except_clause")
    (word :: caught ++ name ++ (← plainSuite indent))

/-- A `try` statement. -/
def tryStatement (indent : Nat) : Read Node := do
  let l := Layout.header indent
  let word ← keyword l "try"
  let body ← colonSuite indent "body"
  let handlers ← gather do
    if ← clauseFollows indent "except" then return some [← exceptClause indent] else return none
  let otherwise ← if handlers.isEmpty then pure [] else elseClause indent
  let last ← if ← clauseFollows indent "finally" then do
      let word ← keyword l "finally"
      pure [Node.branch "finally_clause" (word :: (← plainSuite indent))]
    else if handlers.isEmpty then refuseAt (← next l).start
    else pure []
  return .branch "try_statement" (word :: body ++ handlers ++ otherwise ++ last)

/-- A context of a `with` statement. -/
def withItem (l : Layout) : Read Node := do
  return .branch "with_item" [← field "value" (.expression l)]

/-- The contexts of a `with` statement between brackets, up to the colon. -/
def bracketedContexts (l : Layout) : Read (List Node) := do
  let opening ← sign l "("
  let items ← commaList .brackets (withItem .brackets)
  let close ← sign .brackets ")"
  let t ← next l
  if t.isSign ":" then return opening :: items ++ [close] else refuseAt t.start

/-- A `with` statement. -/
def withStatement (indent : Nat) (before : List Node) : Read Node := do
  let l := Layout.header indent
  let word ← keyword l "with"
  let items ← either (bracketedContexts l) (commaList l (withItem l))
  return .branch "with_statement"
    (before ++ word :: .branch "with_clause" items :: (← colonSuite indent "body"))

def typeParameters? (l : Layout) : Read (List Node) := do
  if (← next l).isSign "[" then return [(← typeParameters l).withField "type_parameters"] else return []

/-- A function definition. -/
def functionDefinition (indent : Nat) (before : List Node) : Read Node := do
  let l := Layout.header indent
  let word ← keyword l "def"
  let name := (← identifier l).withField "name"
  let types ← typeParameters? l
  let opening ← sign l "("
  let close ← next .brackets
  let params ← if close.isSign ")" then pure [] else commaList .brackets (parameter true .brackets)
  let list := Node.branch "parameters" (opening :: params ++ [← sign .brackets ")"])
  let arrow ← next l
  let result ← if arrow.isSign "->" then pure [← take arrow, ← field "return_type" (.typeOf l)] else pure []
  return .branch "function_definition"
    (before ++ [word, name] ++ types ++ [list.withField "parameters"] ++ result
      ++ (← colonSuite indent "body"))

/-- A class definition. -/
def classDefinition (indent : Nat) : Read Node := do
  let l := Layout.header indent
  let word ← keyword l "class"
  let name := (← identifier l).withField "name"
  let types ← typeParameters? l
  let t ← next l
  let bases ← if t.isSign "(" then pure [(← arguments t).withField "superclasses"] else pure []
  return .branch "class_definition" (word :: name :: types ++ bases ++ (← colonSuite indent "body"))

/-- A decorator, with the comment behind it. -/
def decorator (indent : Nat) : Read Node := do
  let l := Layout.line indent
  let mark ← sign l "@"
  let value ← nodeOf (.expression l)
  let t ← follow l
  if t.kind ≠ .stop ∨ !t.startsLine then refuseAt t.start
  else
    let stop := lineStop (← source) (← offset)
    moveTo stop
    return .mk { kind := "decorator", start := mark.info.start, stop } [mark, value]

/-- A class or a function with decorators. -/
def decoratedDefinition (indent : Nat) : Read Node := do
  let l := Layout.header indent
  let marks ← gather do
    if (← next l).isSign "@" then return some [← decorator indent] else return none
  let t ← next l
  let definition ← if t.isWord "class" then classDefinition indent
    else if t.isWord "async" then do
      let word ← take t
      functionDefinition indent [word]
    else functionDefinition indent []
  return .branch "decorated_definition" (marks ++ [definition.withField "definition"])

/-! ## Pattern matching -/

/-- Patterns between brackets. -/
def patternsBetween (kind close : String) (before : List Node) (item : Read Node) : Read Node := do
  let opening ← take (← next .brackets)
  let t ← next .brackets
  let items ← if t.isSign close then pure [] else commaList .brackets item
  return .branch kind (before ++ opening :: items ++ [← sign .brackets close])

/-- A star pattern. -/
def splatPattern : Read Node := do
  let star ← take (← next .brackets)
  return .branch "splat_pattern" [star, ← identifier .brackets]

/-- A number, perhaps negative, perhaps with an imaginary part. -/
def numberPattern : Read (List Node) := do
  let l := Layout.brackets
  let number : Read Node := do
    let t ← next l
    if t.kind = .integer ∨ t.kind = .float then atom l else refuseAt t.start
  let t ← next l
  let minus ← if t.isSign "-" then pure [← take t] else pure []
  let real ← number
  let t ← next l
  if t.isSign "+" ∨ t.isSign "-" then
    return [.branch "complex_pattern" (minus ++ [real, ← take t, ← number])]
  else return minus ++ [real]

/-- A pattern without alternatives. -/
def closedPattern : Read (List Node) := do
  let l := Layout.brackets
  let t ← next l
  let item := nodeOf Rule.casePattern
  match t.kind with
  | .quote => return [← strings l t]
  | .word =>
    if t.text ∈ ["True", "False", "None"] then return [← atom l]
    let name ← dottedName l
    if (← next l).isSign "(" then return [← patternsBetween "class_pattern" ")" [name] item]
    else return [name]
  | .sign =>
    match t.text with
    | "[" => return [← patternsBetween "list_pattern" "]" [] item]
    | "(" => return [← patternsBetween "tuple_pattern" ")" [] item]
    | "\x7b" =>
      let pair : Read Node := do
        if (← next l).isSign "**" then splatPattern
        else
          let key ← item
          let colon ← sign l ":"
          return .branch "key_value_pattern" [key.withField "key", colon, (← item).withField "value"]
      return [← patternsBetween "dict_pattern" "\x7d" [] pair]
    | "*" => return [← splatPattern]
    | "**" => return [← splatPattern]
    | _ => numberPattern
  | _ => numberPattern

/-- A pattern of a `case`. -/
def casePattern : Read Node := do
  let l := Layout.brackets
  let t ← next l
  let second := tokenAt (← source) t.stop
  if t.kind = .word ∧ second.isSign "=" then
    let name ← identifier l
    let parts := name :: (← take second) :: (← closedPattern)
    return .branch "case_pattern" [.branch "keyword_pattern" parts]
  let first ← closedPattern
  let rest ← gather do
    let t ← next l
    if t.isSign "|" then return some ((← take t) :: (← closedPattern)) else return none
  let whole := if rest.isEmpty then first else [.branch "union_pattern" (first ++ rest)]
  let t ← next l
  if t.isWord "as" then
    let named := Node.branch "as_pattern" [.branch "case_pattern" whole, ← take t, ← identifier l]
    return .branch "case_pattern" [named]
  else return .branch "case_pattern" whole

/-- A `case` clause. -/
def caseClause (indent : Nat) : Read Node := do
  let l := Layout.header indent
  let word ← keyword l "case"
  let patterns ← commaList l (nodeOf .casePattern)
  let t ← next l
  let guarded ← if t.isWord "if" then do
      let clause := Node.branch "if_clause" [← take t, ← nodeOf (.expression l)]
      pure [clause.withField "guard"]
    else pure []
  return .branch "case_clause" (word :: patterns ++ guarded ++ (← colonSuite indent "consequence"))

/-- A `match` statement. -/
def matchStatement (indent : Nat) : Read Node := do
  let l := Layout.header indent
  let word ← keyword l "match"
  let subjects ← commaList l (field "subject" (.expression l))
  let colon ← sign l ":"
  let src ← source
  let t := tokenAt src (← offset)
  if !(t.startsLine ∧ indent < t.indent ∧ t.isWord "case") then refuseAt t.start
  else
    let clauses ← gather do
      let c := tokenAt src (← offset)
      if c.kind = .stop ∨ (c.startsLine ∧ c.indent < t.indent) then return none
      else return some [(← caseClause t.indent).withField "alternative"]
    let stop := blockStop src t.indent src.chars.size (← offset)
    moveTo stop
    let body := Node.mk { kind := "block", start := t.start, stop } clauses
    return .branch "match_statement" (word :: subjects ++ [colon, body.withField "body"])

/-! ## Modules -/

/-- A statement; a line of simple ones gives several nodes. -/
def statement (indent : Nat) : Read (List Node) := do
  let src ← source
  let t := tokenAt src (← offset)
  let second := (tokenAt src t.stop).within false (.line indent)
  if t.isSign "@" then return [← decoratedDefinition indent]
  match if t.kind = .word then t.text else "" with
  | "if" => return [← ifStatement indent]
  | "for" => return [← forStatement indent []]
  | "while" => return [← whileStatement indent]
  | "try" => return [← tryStatement indent]
  | "with" => return [← withStatement indent []]
  | "def" => return [← functionDefinition indent []]
  | "class" => return [← classDefinition indent]
  | "match" =>
    either (return [← matchStatement indent]) (simpleLine indent)
  | "async" =>
    if second.isWord "def" then return [← functionDefinition indent [← take t]]
    else if second.isWord "for" then return [← forStatement indent [← take t]]
    else if second.isWord "with" then return [← withStatement indent [← take t]]
    else simpleLine indent
  | _ => simpleLine indent

/-- The reading of each rule. -/
def rules : Rule → Read (List Node)
  | .expression l => return [← expression l]
  | .disjunction l => return [← disjunction l]
  | .negation l => return [← negation l]
  | .binary least l => return [← binary least l]
  | .operand l => return [← operand l]
  | .typeOf l => return [← typeOf l]
  | .rightSide l => return [← assigned l]
  | .interpolation => return [← interpolation]
  | .casePattern => return [← casePattern]
  | .statement indent => statement indent

/-- The statements of a module from an offset on. Where the text ends too early, the statement that is
    not finished does not fit. -/
def moduleFrom (src : Source) : Nat → Nat → Except Nat (List Node)
  | 0, p => .error p
  | n + 1, p =>
    let t := tokenAt src p
    if src.chars.size ≤ t.start then .ok []
    else match readRule rules src () (depthFor src) (.statement 0) p with
      | .error e => .error (if src.chars.size ≤ e then t.start else e)
      | .ok (statements, q) => (moduleFrom src n q).map (statements ++ ·)

/-- The tree of a module. -/
def grammar (src : Source) : Node :=
  match moduleFrom src (src.chars.size + 1) 0 with
  | .error p => .refused "module" src p
  | .ok statements =>
    let root := Node.mk { kind := "module", start := 0, stop := src.chars.size } statements
    root.withExtras (extras src) src

end CodeAtlas.Syntax.Python
