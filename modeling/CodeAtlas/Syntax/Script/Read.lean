import CodeAtlas.Syntax.Script.Token

set_option autoImplicit false

/-! # Reading JavaScript and TypeScript

The names of the rules, and the small readings that all of them share. -/

namespace CodeAtlas.Syntax.Script

open Reading

/-- The rules that refer to each other. Those that may end where a semicolon is supplied know whether it
    can be there. -/
inductive Rule where
  | expression (e : Ending)
  /-- An expression that is no function with an arrow. -/
  | conditional (e : Ending)
  | sequence (e : Ending)
  /-- Operators that bind at least as tightly as a level. -/
  | binary (least : Nat) (e : Ending)
  | unary (e : Ending)
  | operand (e : Ending)
  | typeOf (e : Ending)
  | primaryType (e : Ending)
  | pattern
  | parameters
  | objectType
  | classBody
  | block (e : Ending)
  | element
  | decorator
  | statement

/-- A reading of a script. -/
abbrev Read := Reading Rule Dialect

/-! ## Tokens -/

def next : Read Token := return tokenAt (← source) (← offset)

/-- The next token, or none if a semicolon is supplied before it. -/
def follow (e : Ending) : Read Token := do
  let t ← next
  if (supplied? (← dialect) e (← source) (← offset)).isSome then return { t with kind := .stop, text := "" }
  else return t

/-- The token behind another one. -/
def after (t : Token) : Read Token := return tokenAt (← source) t.stop

def Token.node (t : Token) : Node := .token t.text t.start t.stop

/-- The token as a node of a kind. -/
def Token.leaf (kind : String) (t : Token) : Node := .leaf kind t.start t.stop

/-- Read the token. -/
def take (t : Token) : Read Node := do
  moveTo t.stop
  return t.node

/-- Read the token as a node of a kind. -/
def takeAs (kind : String) (t : Token) : Read Node := do
  moveTo t.stop
  return t.leaf kind

/-- Read a sign. -/
def sign (s : String) : Read Node := do
  let t ← next
  if t.isSign s then take t else refuseAt t.start

/-- Read a word of the language. -/
def keyword (s : String) : Read Node := do
  let t ← next
  if t.isWord s then take t else refuseAt t.start

/-- Read a name as a node of a kind. -/
def name (kind : String) : Read Node := do
  let t ← next
  if t.kind = .word then takeAs kind t else refuseAt t.start

/-- Read one character, whatever follows it. -/
def mark (c : Char) : Read Node := do
  let p := gapStop (← source) (← offset)
  if (← source).chars[p]? = some c then
    moveTo (p + 1)
    return .token c.toString p (p + 1)
  else refuseAt p

def markFollows (c : Char) : Read Bool := do
  return (← source).chars[gapStop (← source) (← offset)]? = some c

/-- Read the sign if it follows. -/
def signIf (s : String) : Read (List Node) := do
  let t ← next
  if t.isSign s then return [← take t] else return []

/-- Read the word if it follows. -/
def wordIf (s : String) : Read (List Node) := do
  let t ← next
  if t.isWord s then return [← take t] else return []

def field (name : String) (r : Rule) : Read Node := return (← nodeOf r).withField name

/-- A semicolon, or the place where one is supplied. -/
def semicolon (e : Ending) : Read (List Node) := do
  match supplied? (← dialect) e (← source) (← offset) with
  | some p =>
    moveTo p
    return []
  | none => return [← sign ";"]

/-- A node from its first child up to where the reading stands. -/
def upToHere (kind : String) (children : List Node) : Read Node := do
  return .branchTo (← offset) kind children

/-! ## Lists -/

/-- Items with commas between them and perhaps at the end, up to a closing sign. -/
def listUntil (close : String) (item : Read (List Node)) : Read (List Node) := gather do
  let t ← next
  if t.isSign close then return none
  let ns ← item
  let c ← next
  if c.isSign "," then return some (ns ++ [← take c])
  else if c.isSign close then return some ns
  else refuseAt c.start

/-- A list between brackets. -/
def bracketed (kind opening close : String) (item : Read (List Node)) : Read Node := do
  let first ← sign opening
  let items ← listUntil close item
  return .branch kind (first :: items ++ [← sign close])

/-- One or more items with commas between them. -/
def commaList (item : Read Node) : Read (List Node) := do
  let first ← item
  let rest ← gather do
    let t ← next
    if t.isSign "," then return some [← take t, ← item] else return none
  return first :: rest

/-- Items between angle brackets, with commas between them. -/
def angled (kind : String) (item : Read Node) : Read Node := do
  let first ← mark '<'
  let items ← gather do
    if ← markFollows '>' then return none
    let n ← item
    if ← markFollows '>' then return some [n] else return some [n, ← sign ","]
  return .branch kind (first :: items ++ [← mark '>'])

/-! ## Names and literals -/

/-- A string. -/
def string : Read Node := do
  let t ← next
  if t.kind ≠ .string then refuseAt t.start
  else
    moveTo t.stop
    let quote := (t.text.take 1).toString
    let inside := if t.start + 2 < t.stop then [Node.leaf "string_fragment" (t.start + 1) (t.stop - 1)] else []
    return .branch "string"
      (.token quote t.start (t.start + 1) :: inside ++ [.token quote (t.stop - 1) t.stop])

/-- Where the text of a template stops that begins at an offset: at its end or at an insertion. -/
def templateTextStop (src : Source) : Nat → Nat → Nat
  | 0, p => p
  | n + 1, p =>
    match src.chars[p]? with
    | none => p
    | some '\\' => templateTextStop src n (p + 2)
    | some '$' => if src.chars[p + 1]? = some '\x7b' then p else templateTextStop src n (p + 1)
    | some c => if c = templateMark then p else templateTextStop src n (p + 1)

/-- A template, given what its insertions hold. -/
def templateOf (kind insertion : String) (inside : Read Node) : Read Node := do
  let t ← next
  if t.kind ≠ .template then refuseAt t.start
  let first ← take t
  let parts ← gather do
    let src ← source
    let p ← offset
    let q := templateTextStop src (src.chars.size - p) p
    if p < q then
      moveTo q
      return some [.leaf "string_fragment" p q]
    else if src.chars[p]? = some '$' then
      moveTo (p + 2)
      let part ← inside
      return some [.branch insertion [.token "$\x7b" p (p + 2), part, ← sign "\x7d"]]
    else return none
  let p ← offset
  if (← source).chars[p]? ≠ some templateMark then refuseAt p
  moveTo (p + 1)
  return .branch kind (first :: parts ++ [.token t.text p (p + 1)])

/-- Can the token begin the name of a property? -/
def Token.startsProperty (t : Token) : Bool :=
  match t.kind with
  | .word => true
  | .privateName => true
  | .string => true
  | .number => true
  | .sign => t.text = "["
  | _ => false

/-- The name of a property. -/
def propertyName : Read Node := do
  let t ← next
  match t.kind with
  | .word => takeAs "property_identifier" t
  | .privateName => takeAs "private_property_identifier" t
  | .string => string
  | .number => takeAs "number" t
  | _ =>
    let opening ← sign "["
    let inside ← nodeOf (.expression .never)
    return .branch "computed_property_name" [opening, inside, ← sign "]"]

/-- Names with points between them. -/
def nestedName : Read Node := do
  grow (← name "identifier") fun n => do
    let t ← next
    if t.isSign "." then
      let dot ← take t
      let property := (← name "property_identifier").withField "property"
      return some (.branch "nested_identifier" [n.withField "object", dot, property])
    else return none

/-- The value behind an equals sign. -/
def initializer (e : Ending) : Read (List Node) := do
  return [← sign "=", ← field "value" (.expression e)]

/-- The value behind an equals sign, if there is one. -/
def initializer? (e : Ending) : Read (List Node) := do
  if (← follow e).isSign "=" then initializer e else return []

/-- Words that stand before the name of a member, if a name follows each of them. -/
def modifiers (words : List String) : Read (List Node) := gather do
  let t ← next
  let second ← after t
  let isModifier := second.startsProperty || second.isSign "*" || second.isSign "\x7b"
  if t.kind = .word ∧ words.contains t.text ∧ isModifier then return some [← take t]
  else return none

/-- Words that say who may use a member. -/
def accessWords : List String := ["public", "private", "protected"]

/-- A modifier as it stands in the tree. -/
def wrapModifier (n : Node) : Node :=
  if accessWords.contains n.kind then .branch "accessibility_modifier" [n]
  else if n.kind = "override" then .branch "override_modifier" [n]
  else n

end CodeAtlas.Syntax.Script
