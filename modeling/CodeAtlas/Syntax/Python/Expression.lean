import CodeAtlas.Syntax.Python.Token

set_option autoImplicit false

/-! # Expressions of Python

Operators bind by level; what stands between brackets may span lines. Words that have a meaning only in
some places, such as `match`, are names everywhere else. -/

namespace CodeAtlas.Syntax.Python

open Reading

/-- How line ends count where something is read. -/
inductive Layout where
  /-- Between brackets: not at all. -/
  | brackets
  /-- In the head of a compound statement: only if the next line is indented less than the block. -/
  | header (indent : Nat)
  /-- In a simple statement: a line end ends what could end there. -/
  | line (indent : Nat)

/-- The rules that refer to each other. -/
inductive Rule where
  | expression (l : Layout)
  | disjunction (l : Layout)
  | negation (l : Layout)
  | binary (level : Nat) (l : Layout)
  | operand (l : Layout)
  | typeOf (l : Layout)
  | rightSide (l : Layout)
  | interpolation
  | casePattern
  | statement (indent : Nat)

/-- A reading of Python. -/
abbrev Read := Reading Rule Unit

/-! ## Reading tokens -/

/-- The token as it counts in a layout; `required` says that no line end may stand in its place. -/
def Token.within (t : Token) (required : Bool) (l : Layout) : Token :=
  let cut := match l with
    | .brackets => false
    | .header indent => t.startsLine && t.indent < indent
    | .line indent => t.startsLine && (!required || t.indent < indent)
  if cut then { t with kind := .stop, text := "" } else t

def next (l : Layout) : Read Token :=
  return (tokenAt (← source) (← offset)).within true l

/-- The next token, where the line may end instead. -/
def follow (l : Layout) : Read Token :=
  return (tokenAt (← source) (← offset)).within false l

def Token.node (t : Token) : Node := .token t.text t.start t.stop

/-- Read the token. -/
def take (t : Token) : Read Node := do
  moveTo t.stop
  return t.node

/-- Read a sign. -/
def sign (l : Layout) (s : String) : Read Node := do
  let t ← next l
  if t.isSign s then take t else refuseAt t.start

/-- Read a word of the language. -/
def keyword (l : Layout) (s : String) : Read Node := do
  let t ← next l
  if t.isWord s then take t else refuseAt t.start

/-- Read a name. -/
def identifier (l : Layout) : Read Node := do
  let t ← next l
  if t.kind = .word then
    moveTo t.stop
    return .leaf "identifier" t.start t.stop
  else refuseAt t.start

/-- Words that cannot begin an operand where a list of them may end. -/
def closingWords : List String := ["in", "if", "for", "else", "from", "as"]

/-- May the token begin an operand? -/
def Token.startsOperand (t : Token) : Bool :=
  match t.kind with
  | .word => !closingWords.contains t.text
  | .sign => t.text ∈ ["(", "[", "\x7b", "-", "+", "~", "*", "**", "...", "/"]
  | .stop => false
  | _ => true

/-- More items behind commas, given which tokens begin one; a comma may stand at the end. -/
def commaTailOf (starts : Token → Bool) (l : Layout) (item : Read Node) : Read (List Node) := gather do
  let t ← follow l
  if t.isSign "," then
    let comma ← take t
    let after ← follow l
    if starts after then return some [comma, ← item]
    else if after.isSign "," then refuseAt after.start
    else return some [comma]
  else return none

/-- More items that begin like operands behind commas. -/
def commaTail (l : Layout) (item : Read Node) : Read (List Node) := commaTailOf Token.startsOperand l item

/-- Items with commas between them. -/
def commaList (l : Layout) (item : Read Node) : Read (List Node) := do
  let first ← item
  return first :: (← commaTail l item)

/-- A list as one node: a single item stands for itself. -/
def listNode (kind : String) (items : List Node) : Read Node :=
  match items with
  | [n] => return n
  | ns => return .branch kind ns

/-! ## Strings -/

/-- What the opening of a string says about it. -/
structure Delimiter where
  mark : Char
  triple : Bool
  raw : Bool
  format : Bool

/-- The delimiter of an opening. -/
def Delimiter.ofText (s : String) : Delimiter :=
  let letters := s.toList.takeWhile isStringLetter
  let marks := s.toList.drop letters.length
  { mark := marks.headD '"'
    triple := marks.length = 3
    raw := letters.any fun c => c = 'r' || c = 'R'
    format := letters.any fun c => c = 'f' || c = 'F' }

/-- The number of characters that close the string. -/
def Delimiter.size (d : Delimiter) : Nat := if d.triple then 3 else 1

/-- Does the string end at an offset? -/
def Delimiter.closesAt (d : Delimiter) (src : Source) (p : Nat) : Bool :=
  (List.range d.size).all fun i => src.chars[p + i]? = some d.mark

/-- Characters that a backslash may stand before. -/
def isEscapable (c : Char) : Bool := c ∈ ['\'', '"', '\\', '\n', '\r']

/-- Where plain contents end that begin at an offset: at the end of the string or at an interpolation. A
    line end must not follow other contents, unless the string has three marks. -/
def contentStop (src : Source) (d : Delimiter) (begun : Bool) : Nat → Nat → Except Nat Nat
  | 0, p => .error p
  | n + 1, p =>
    let go (begun : Bool) (q : Nat) := contentStop src d begun n q
    let second := src.chars[p + 1]?
    match src.chars[p]? with
    | none => .error p
    | some c =>
      if d.closesAt src p then .ok p
      else if c = '\\' ∧ d.raw then
        go begun (if second = some d.mark ∨ second = some '\\' ∨ second = some '\n' then p + 2 else p + 1)
      else if c = '\\' ∧ d.format ∧ second = some 'N' ∧ src.chars[p + 2]? = some '\x7b' then
        go false (src.runStop (· ≠ '\x7d') p + 1)
      else if c = '\\' then go false (if second.any isEscapable then p + 2 else p + 1)
      else if d.format ∧ (c = '\x7b' ∨ c = '\x7d') then
        if second = some c then go false (p + 2) else if c = '\x7b' then .ok p else .error p
      else if c = '\n' ∧ begun ∧ !d.triple then .error p
      else go true (p + 1)

/-- One more part of a string: contents or an interpolation. -/
def stringPart (d : Delimiter) : Read (Option (List Node)) := do
  let src ← source
  let p ← offset
  if d.closesAt src p then return none
  match contentStop src d false (src.chars.size + 1 - p) p with
  | .error q => refuseAt q
  | .ok q =>
    if q = p then return some (← rule .interpolation)
    moveTo q
    return some [.leaf "string_content" p q]

/-- A string. -/
def string (t : Token) : Read Node := do
  moveTo t.stop
  let d := Delimiter.ofText t.text
  let parts ← gather (stringPart d)
  let p ← offset
  if d.closesAt (← source) p then
    moveTo (p + d.size)
    return .branch "string"
      (.leaf "string_start" t.start t.stop :: parts ++ [.leaf "string_end" p (p + d.size)])
  else refuseAt p

/-- A string, or several one after another. -/
def strings (l : Layout) (t : Token) : Read Node := do
  let first ← string t
  let rest ← gather do
    let t ← follow l
    if t.kind = .quote then return some [← string t] else return none
  listNode "concatenated_string" (first :: rest)

/-! ## Patterns -/

/-- The kinds of expression that may follow a star on the left side of an assignment. -/
def isSplatTarget (n : Node) : Bool := n.kind ∈ ["identifier", "subscript", "attribute"]

/-- Kinds of pattern and the kinds of expression that they are made from. -/
def patternKind? : String → Option String
  | "tuple" => some "tuple_pattern"
  | "parenthesized_expression" => some "tuple_pattern"
  | "list" => some "list_pattern"
  | "list_splat" => some "list_splat_pattern"
  | _ => none

mutual

/-- An expression as the target of an assignment, if it can be one. -/
def toPattern? : Node → Option Node
  | .mk i cs =>
    if i.kind ∈ ["identifier", "subscript", "attribute"] then some (.mk i cs)
    else (patternKind? i.kind).bind fun kind =>
      (toPatterns? cs).map fun cs => .mk { i with kind } cs

/-- The items of a pattern; tokens stay as they are. -/
def toPatterns? : List Node → Option (List Node)
  | [] => some []
  | c :: rest =>
    if c.isNamed then do
      let first ← toPattern? c
      let rest ← toPatterns? rest
      return first :: rest
    else (toPatterns? rest).map (c :: ·)

end

/-- One target of an assignment. -/
def target (l : Layout) : Read Node := do
  let p ← offset
  match toPattern? (← nodeOf (.operand l)) with
  | some n => return n
  | none => refuseAt p

/-- The targets of an assignment or of a loop. -/
def targets (l : Layout) : Read Node := do listNode "pattern_list" (← commaList l (target l))

/-! ## Operands -/

def wordKind (s : String) : String :=
  if s = "True" then "true" else if s = "False" then "false" else if s = "None" then "none" else "identifier"

def field (name : String) (r : Rule) : Read Node := return (← nodeOf r).withField name

/-- Expressions with commas between them, or a single one. -/
def expressions (l : Layout) : Read Node := do
  listNode "expression_list" (← commaList l (nodeOf (.expression l)))

/-- A `yield`. -/
def yielding (l : Layout) : Read Node := do
  let word ← keyword l "yield"
  let t ← follow l
  if t.isWord "from" then return .branch "yield" [word, ← take t, ← nodeOf (.expression l)]
  else if t.startsOperand then return .branch "yield" [word, ← expressions l]
  else return .branch "yield" [word]

/-- A starred expression, if a star of the given kind follows. -/
def splat? (l : Layout) (star kind : String) : Read (Option Node) := do
  let t ← next l
  if t.isSign star then return some (.branch kind [← take t, ← nodeOf (.expression l)]) else return none

/-- An item of a list, a tuple or a set. -/
def element : Read Node := do
  match ← splat? .brackets "*" "list_splat" with
  | some n => return n
  | none =>
    if (← next .brackets).isWord "yield" then yielding .brackets
    else nodeOf (.expression .brackets)

/-- The clauses of a comprehension. -/
def clauses : Read (List Node) := gather do
  let l := Layout.brackets
  let t ← next l
  if t.isWord "if" then
    return some [.branch "if_clause" [← take t, ← nodeOf (.disjunction l)]]
  else if t.isWord "for" ∨ t.isWord "async" then
    let async ← if t.isWord "async" then pure [← take t] else pure []
    let loop ← keyword l "for"
    let left := (← targets l).withField "left"
    let inWord ← keyword l "in"
    let right ← commaList l (field "right" (.disjunction l))
    return some [.branch "for_in_clause" (async ++ [loop, left, inWord] ++ right)]
  else return none

/-- Does a comprehension follow? -/
def Token.startsClause (t : Token) : Bool := t.isWord "for" || t.isWord "async"

/-- What follows the first item between brackets: clauses, more items, or nothing. -/
inductive Tail where
  | clauses (ns : List Node)
  | items (ns : List Node)

/-- The rest of what stands between brackets, given a reading for further items. -/
def tail (item : Read Node) : Read Tail := do
  if (← next .brackets).startsClause then return .clauses (← clauses)
  else return .items (← commaTail .brackets item)

/-- What stands between round brackets. -/
def parenthesized (t : Token) : Read Node := do
  let opening ← take t
  let close ← next .brackets
  if close.isSign ")" then return .branch "tuple" [opening, ← take close]
  let first ← element
  match ← tail element with
  | .clauses ns =>
    let all := opening :: first.withField "body" :: ns
    return .branch "generator_expression" (all ++ [← sign .brackets ")"])
  | .items ns =>
    let kind := if ns.isEmpty then "parenthesized_expression" else "tuple"
    return .branch kind (opening :: first :: ns ++ [← sign .brackets ")"])

/-- What stands between square brackets. -/
def bracketed (t : Token) : Read Node := do
  let opening ← take t
  let close ← next .brackets
  if close.isSign "]" then return .branch "list" [opening, ← take close]
  let first ← element
  match ← tail element with
  | .clauses ns =>
    let all := opening :: first.withField "body" :: ns
    return .branch "list_comprehension" (all ++ [← sign .brackets "]"])
  | .items ns => return .branch "list" (opening :: first :: ns ++ [← sign .brackets "]"])

/-- A pair of a dictionary whose key was read. -/
def pairAfter (key : Node) : Read Node := do
  let colon ← sign .brackets ":"
  return .branch "pair" [key.withField "key", colon, ← field "value" (.expression .brackets)]

/-- An item of a dictionary. -/
def entry : Read Node := do
  match ← splat? .brackets "**" "dictionary_splat" with
  | some n => return n
  | none => pairAfter (← nodeOf (.expression .brackets))

/-- What stands between braces. -/
def braced (t : Token) : Read Node := do
  let opening ← take t
  let start ← next .brackets
  if start.isSign "\x7d" then return .branch "dictionary" [opening, ← take start]
  let first ← if start.isSign "**" then entry else element
  let isPair := !start.isSign "**" && (← next .brackets).isSign ":"
  let first ← if isPair then pairAfter first else pure first
  let isMap := isPair || start.isSign "**"
  match ← tail (if isMap then entry else element) with
  | .clauses ns =>
    let all := opening :: first.withField "body" :: ns
    let kind := if isMap then "dictionary_comprehension" else "set_comprehension"
    return .branch kind (all ++ [← sign .brackets "\x7d"])
  | .items ns =>
    let all := opening :: first :: ns
    return .branch (if isMap then "dictionary" else "set") (all ++ [← sign .brackets "\x7d"])

/-- An operand by itself. -/
def atom (l : Layout) : Read Node := do
  let t ← next l
  match t.kind with
  | .word =>
    moveTo t.stop
    return .leaf (wordKind t.text) t.start t.stop
  | .integer =>
    moveTo t.stop
    return .leaf "integer" t.start t.stop
  | .float =>
    moveTo t.stop
    return .leaf "float" t.start t.stop
  | .quote => strings l t
  | .sign =>
    match t.text with
    | "(" => parenthesized t
    | "[" => bracketed t
    | "\x7b" => braced t
    | "..." =>
      moveTo t.stop
      return .leaf "ellipsis" t.start t.stop
    | "*" =>
      let star ← take t
      let n ← nodeOf (.operand l)
      if isSplatTarget n then return .branch "list_splat" [star, n] else refuseAt n.info.start
    | _ => refuseAt t.start
  | .stop => refuseAt t.start

/-! ## Calls, members and subscripts -/

/-- An argument of a call. -/
def argument : Read Node := do
  let l := Layout.brackets
  match ← splat? l "*" "list_splat" with
  | some n => return n
  | none =>
    match ← splat? l "**" "dictionary_splat" with
    | some n => return n
    | none =>
      let t ← next l
      let equals := tokenAt (← source) t.stop
      if t.kind = .word ∧ equals.isSign "=" then
        let name := (← identifier l).withField "name"
        return .branch "keyword_argument" [name, ← take equals, ← field "value" (.expression l)]
      else nodeOf (.expression l)

/-- The arguments of a call, or a comprehension in their place. -/
def arguments (t : Token) : Read Node := do
  let opening ← take t
  let close ← next .brackets
  if close.isSign ")" then return .branch "argument_list" [opening, ← take close]
  let first ← argument
  match ← tail argument with
  | .clauses ns =>
    let all := opening :: first.withField "body" :: ns
    return .branch "generator_expression" (all ++ [← sign .brackets ")"])
  | .items ns => return .branch "argument_list" (opening :: first :: ns ++ [← sign .brackets ")"])

/-- The bounds of a slice behind its first one. -/
def sliceTail : Read (List Node) := gather do
  let l := Layout.brackets
  let t ← next l
  if t.isSign ":" then
    let colon ← take t
    if (← next l).startsOperand then return some [colon, ← nodeOf (.expression l)] else return some [colon]
  else return none

/-- A subscript: an expression or a slice. -/
def index : Read Node := do
  let l := Layout.brackets
  let first ← if (← next l).isSign ":" then pure [] else pure [← nodeOf (.expression l)]
  match first, ← sliceTail with
  | [n], [] => return n.withField "subscript"
  | ns, more => return (Node.branch "slice" (ns ++ more)).withField "subscript"

/-- An operand with the calls, members and subscripts behind it. -/
def operand (l : Layout) : Read Node := do
  grow (← atom l) fun n => do
    let t ← follow l
    if t.isSign "." then
      let dot ← take t
      return some (.branch "attribute" [n.withField "object", dot, (← identifier l).withField "attribute"])
    else if t.isSign "(" then
      return some (.branch "call" [n.withField "function", (← arguments t).withField "arguments"])
    else if t.isSign "[" then
      let opening ← take t
      let first ← index
      let more ← commaTailOf (fun t => t.startsOperand || t.isSign ":") .brackets index
      let close ← sign .brackets "]"
      return some (.branch "subscript" (n.withField "value" :: opening :: first :: more ++ [close]))
    else return none

/-! ## Operators -/

/-- How tightly a binary operator binds. -/
def level? : String → Option Nat
  | "|" => some 14
  | "&" => some 15
  | "^" => some 16
  | "<<" => some 17
  | ">>" => some 17
  | "+" => some 18
  | "-" => some 18
  | "*" => some 19
  | "@" => some 19
  | "/" => some 19
  | "//" => some 19
  | "%" => some 19
  | "**" => some 21
  | _ => none

/-- How tightly a sign before an operand binds. -/
def unaryLevel : Nat := 20

/-- Words that continue an expression, so that they cannot be operands of `await`. -/
def joiningWords : List String := ["and", "or", "not", "in", "is", "if", "else", "for", "async", "as"]

/-- Can the token be the operand of `await`? -/
def Token.isAwaited (t : Token) : Bool :=
  match t.kind with
  | .word => !joiningWords.contains t.text
  | .sign => t.text ∈ ["(", "[", "\x7b", "~", "..."]
  | .stop => false
  | _ => true

/-- An operand with a sign or `await` before it. -/
def unary (l : Layout) : Read Node := do
  let t ← next l
  if t.isSign "-" ∨ t.isSign "+" ∨ t.isSign "~" then
    let op := (← take t).withField "operator"
    return .branch "unary_operator" [op, ← field "argument" (.binary unaryLevel l)]
  else if t.isWord "await" ∧ ((tokenAt (← source) t.stop).within false l).isAwaited then
    return .branch "await" [← take t, ← nodeOf (.binary unaryLevel l)]
  else operand l

/-- Operands with binary operators of at least a level. Powers group to the right, all others to the
    left. -/
def binary (least : Nat) (l : Layout) : Read Node := do
  grow (← unary l) fun n => do
    let t ← follow l
    match if t.kind = .sign then level? t.text else none with
    | none => return none
    | some level =>
      if level < least then return none
      let op := (← take t).withField "operator"
      let right ← field "right" (.binary (if t.text = "**" then level else level + 1) l)
      return some (.branch "binary_operator" [n.withField "left", op, right])

def comparisons : List String := ["<", "<=", "==", "!=", ">=", ">", "<>"]

/-- A comparison operator, if one follows. Two words make one operator. -/
def comparison? (l : Layout) : Read (Option Node) := do
  let t ← follow l
  let second := (tokenAt (← source) t.stop).within true l
  if t.kind = .sign ∧ comparisons.contains t.text ∨ t.isWord "in" then return some (← take t)
  else if t.isWord "is" then
    if second.isWord "not" then
      moveTo second.stop
      return some (.token "is not" t.start second.stop)
    else return some (← take t)
  else if t.isWord "not" ∧ second.isWord "in" then
    moveTo second.stop
    return some (.token "not in" t.start second.stop)
  else return none

/-- Operands with comparison operators between them. -/
def comparison (l : Layout) : Read Node := do
  let first ← binary 0 l
  let rest ← gather do
    match ← comparison? l with
    | none => return none
    | some op => return some [op.withField "operators", ← binary 0 l]
  listNode "comparison_operator" (first :: rest)

/-- The parameters of a lambda or a function. Only those of functions have types. -/
def parameter (typed : Bool) (l : Layout) : Read Node := do
  let t ← next l
  let annotated (kind : String) (n : Node) : Read Node := do
    let colon ← next l
    if typed ∧ colon.isSign ":" then return .branch kind [n, ← take colon, ← field "type" (.typeOf l)]
    else return n
  let default (n : Node) : Read (List Node) := do
    let equals ← next l
    if equals.isSign "=" then return [n, ← take equals, ← field "value" (.expression l)] else return [n]
  if t.isSign "*" ∨ t.isSign "**" then
    let star ← take t
    if (← next l).kind = .word then
      let kind := if t.isSign "*" then "list_splat_pattern" else "dictionary_splat_pattern"
      annotated "typed_parameter" (.branch kind [star, ← identifier l])
    else if t.isSign "*" then return .branch "keyword_separator" [star]
    else refuseAt (← offset)
  else if t.isSign "/" then return .branch "positional_separator" [← take t]
  else if t.isSign "(" then
    match ← default (← target l) with
    | [n] => return n
    | n :: ns => return .branch "default_parameter" (n.withField "name" :: ns)
    | [] => refuseAt t.start
  else
    let name ← identifier l
    let typedName ← annotated "typed_parameter" name
    match ← default typedName with
    | [n] => return n
    | n :: ns =>
      if n.kind = "identifier" then return .branch "default_parameter" (n.withField "name" :: ns)
      else
        let parts := n.children.map fun c => if c.kind = "identifier" then c.withField "name" else c
        return .branch "typed_default_parameter" (parts ++ ns)
    | [] => refuseAt t.start

/-- A lambda. -/
def lambda (l : Layout) : Read Node := do
  let word ← keyword l "lambda"
  let t ← next l
  let params ← if t.isSign ":" then pure [] else commaList l (parameter false l)
  let list := if params.isEmpty then [] else
    [(Node.branch "lambda_parameters" params).withField "parameters"]
  let colon ← sign l ":"
  return .branch "lambda" (word :: list ++ [colon, ← field "body" (.expression l)])

/-- An operand of `and` and `or`. -/
def negation (l : Layout) : Read Node := do
  let t ← next l
  if t.isWord "not" then return .branch "not_operator" [← take t, ← field "argument" (.negation l)]
  else if t.isWord "lambda" then lambda l
  else comparison l

/-- Operands with `and` or `or` between them, grouped to the left. -/
def joined (word : String) (l : Layout) (part : Read Node) : Read Node := do
  grow (← part) fun n => do
    let t ← follow l
    if t.isWord word then
      let op := (← take t).withField "operator"
      return some (.branch "boolean_operator" [n.withField "left", op, (← part).withField "right"])
    else return none

/-- An expression without a condition behind it. -/
def disjunction (l : Layout) : Read Node := joined "or" l (joined "and" l (negation l))

/-- An expression. -/
def expression (l : Layout) : Read Node := do
  grow (← disjunction l) fun n => do
    let t ← follow l
    if t.isWord "if" then
      let ifWord ← take t
      let condition ← nodeOf (.expression l)
      let elseWord ← keyword l "else"
      return some (.branch "conditional_expression"
        [n, ifWord, condition, elseWord, ← nodeOf (.expression l)])
    else if t.isSign ":=" ∧ n.kind = "identifier" then
      let walrus ← take t
      return some (.branch "named_expression"
        [n.withField "name", walrus, ← field "value" (.expression l)])
    else if t.isWord "as" then
      let asWord ← take t
      let name := Node.branch "as_pattern_target" [← nodeOf (.disjunction l)]
      return some (.branch "as_pattern" [n, asWord, name.withField "alias"])
    else return none

/-! ## Types -/

/-- Type arguments or parameters between square brackets. -/
def typeParameters (l : Layout) : Read Node := do
  let opening ← sign l "["
  let items ← commaList .brackets (nodeOf (.typeOf .brackets))
  return .branch "type_parameter" (opening :: items ++ [← sign .brackets "]"])

/-- Can a type end before the token? -/
def Token.endsType (t : Token) : Bool :=
  t.kind = .stop || (t.kind = .sign && t.text ∈ ["=", ",", ")", ":", "]", ";"])

/-- A generic type: a name with type arguments, and nothing behind it. -/
def genericType (l : Layout) : Read Node := do
  let name ← identifier l
  let args ← typeParameters l
  let t ← follow l
  if t.endsType then return .branch "generic_type" [name, args] else refuseAt t.start

/-- A type. -/
def typeOf (l : Layout) : Read Node := do
  let t ← next l
  if t.isSign "*" ∨ t.isSign "**" then
    return .branch "type" [.branch "splat_type" [← take t, ← identifier l]]
  else return .branch "type" [← either (genericType l) (nodeOf (.expression l))]

/-! ## Interpolations -/

/-- What is interpolated, behind its opening brace. -/
def interpolated : Read Node := do
  if (← next .brackets).isWord "yield" then yielding .brackets else expressions .brackets

/-- The conversion that may follow what is interpolated. -/
def conversion : Read (List Node) := do
  let t ← next .brackets
  if t.isSign "!" then
    let stop := t.stop + 1
    moveTo stop
    return [(Node.leaf "type_conversion" t.start stop).withField "type_conversion"]
  else return []

/-- A part of a format. -/
def formatPart : Read (Option (List Node)) := do
  let src ← source
  let p ← offset
  match src.chars[p]? with
  | some '\x7b' => return some (← rule .interpolation)
  | some c =>
    if c = '\x7d' ∨ c = '\n' then return none
    let q := src.runStop (fun c => c ≠ '\x7b' && c ≠ '\x7d' && c ≠ '\n') p
    moveTo q
    return some [.token "format" p q]
  | none => return none

/-- The format that may follow what is interpolated. -/
def format : Read (List Node) := do
  let t ← next .brackets
  if t.isSign ":" then
    let colon ← take t
    let parts ← gather formatPart
    return [(Node.branch "format_specifier" (colon :: parts)).withField "format_specifier"]
  else return []

/-- An interpolation. -/
def interpolation : Read Node := do
  let opening ← sign .brackets "\x7b"
  let value := (← interpolated).withField "expression"
  let t ← next .brackets
  let equals ← if t.isSign "=" then pure [← take t] else pure []
  let convert ← conversion
  let spec ← format
  let close ← sign .brackets "\x7d"
  return .branch "interpolation" (opening :: value :: equals ++ convert ++ spec ++ [close])

end CodeAtlas.Syntax.Python
