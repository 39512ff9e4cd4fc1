import CodeAtlas.Syntax.Script.Types

set_option autoImplicit false

/-! # Markup in expressions

Elements stand where values do. Between tags blanks count as text, unless they only break a line. -/

namespace CodeAtlas.Syntax.Script

open Reading

/-! ## Texts -/

/-- Does the text follow, whatever comes behind it? -/
def textFollows (s : String) : Read Bool := do
  let src ← source
  let p := gapStop src (← offset)
  return src.slice p (p + s.length) = s

/-- Read a text, whatever follows it. -/
def exactly (s : String) : Read Node := do
  let p := gapStop (← source) (← offset)
  if ← textFollows s then
    moveTo (p + s.length)
    return .token s p (p + s.length)
  else refuseAt p

/-! ## Names -/

def isElementNamePart (c : Char) : Bool := isNamePart c || c = '-'

/-- A simple name in a tag. -/
def simpleElementName (kind : String) : Read Node := do
  let t ← next
  if t.kind ≠ .word then refuseAt t.start
  else
    let stop := (← source).runStop isElementNamePart t.start
    moveTo stop
    return .leaf kind t.start stop

/-- A name in a tag, perhaps behind the name of a namespace. -/
def prefixedName (kind : String) : Read Node := do
  let id ← simpleElementName kind
  let t ← next
  if t.isSign ":" then
    return .branch "jsx_namespace_name"
      [id.withKind "identifier", ← take t, ← simpleElementName "identifier"]
  else return id

/-- The name of an element. -/
def elementName : Read Node := do
  grow (← prefixedName "identifier") fun n => do
    let t ← next
    if t.isSign "." then
      let dot ← take t
      let property := (← name "property_identifier").withField "property"
      return some (.branch "member_expression" [n.withField "object", dot, property])
    else return none

/-! ## Attributes -/

/-- A value between braces. -/
def braced : Read Node := do
  let opening ← sign "\x7b"
  let t ← next
  let inside ← if t.isSign "\x7d" then pure []
    else if t.isSign "..." then
      pure [Node.branch "spread_element" [← take t, ← nodeOf (.expression .never)]]
    else pure [← nodeOf (.sequence .never)]
  return .branch "jsx_expression" (opening :: inside ++ [← sign "\x7d"])

/-- The string that is an attribute's value; it may go over several lines and has no escapes. -/
def attributeString : Read Node := do
  let src ← source
  let p := gapStop src (← offset)
  let quote := (src.chars[p]?).getD '"'
  let q := src.runStop (· != quote) (p + 1)
  if src.chars[q]? ≠ some quote then refuseAt src.chars.size
  moveTo (q + 1)
  let inside := if p + 1 < q then [Node.leaf "string_fragment" (p + 1) q] else []
  return .branch "string"
    (.token quote.toString p (p + 1) :: inside ++ [.token quote.toString q (q + 1)])

/-- An attribute, or a value that is spread over several. -/
def elementAttribute : Read Node := do
  if ← markFollows '\x7b' then braced
  else
    let id ← prefixedName "property_identifier"
    if ← markFollows '=' then
      let equals ← mark '='
      let value ← if ← markFollows '\x7b' then braced
        else if ← markFollows '<' then nodeOf .element
        else if (← markFollows '"') || (← markFollows '\'') then attributeString
        else refuseAt (← offset)
      return .branch "jsx_attribute" [id, equals, value]
    else return .branch "jsx_attribute" [id]

/-! ## Elements -/

/-- A tag that opens an element or is a whole one. -/
def openingTag : Read Node := do
  let opening ← mark '<'
  if ← markFollows '>' then return .branch "jsx_opening_element" [opening, ← mark '>']
  let id := (← elementName).withField "name"
  let types ← if (← dialect).typed && (← markFollows '<') then
      pure [(← typeArguments).withField "type_arguments"]
    else pure []
  let attributes ← gather do
    if (← markFollows '>') || (← markFollows '/') then return none
    return some [(← elementAttribute).withField "attribute"]
  let children := opening :: id :: types ++ attributes
  if ← markFollows '>' then return .branch "jsx_opening_element" (children ++ [← mark '>'])
  else return .branch "jsx_self_closing_element" (children ++ [← exactly "/>"])

/-- A tag that closes an element. -/
def closingTag : Read Node := do
  let opening ← exactly "</"
  let id ← if ← markFollows '>' then pure [] else pure [(← elementName).withField "name"]
  return .branch "jsx_closing_element" (opening :: id ++ [← mark '>'])

/-- Is there more in a text between tags than line breaks and the blanks behind them? -/
def isContent (text : List Char) : Bool := go false text
where
  /-- The rest of the text, behind a line break or not. -/
  go (behindBreak : Bool) : List Char → Bool
    | [] => false
    | c :: rest =>
      if c = '\n' then go true rest
      else if behindBreak && isSpace c then go true rest
      else true

/-- Where the character reference that begins at an offset ends. -/
def characterReferenceStop (src : Source) (p : Nat) : Nat :=
  src.runStop (fun c => c.isAlphanum || c = '#') (p + 1)

/-- What stands between the tags of an element. -/
def elementContent : Read (List Node) := gather do
  let src ← source
  let p ← offset
  let q := src.runStop (fun c => !("<>\x7b\x7d&".toList.contains c)) p
  if isContent (src.chars.extract p q).toList then
    moveTo q
    return some [.leaf "jsx_text" p q]
  moveTo q
  if ← textFollows "</" then return none
  match src.chars[q]? with
  | some '<' => return some [← nodeOf .element]
  | some '\x7b' => return some [← braced]
  | some '&' =>
    let stop := characterReferenceStop src q
    if src.chars[stop]? = some ';' then
      moveTo (stop + 1)
      return some [.leaf "html_character_reference" q (stop + 1)]
    else refuseAt q
  | _ => refuseAt q

/-- An element. -/
def element : Read Node := do
  let tag ← openingTag
  if tag.kind = "jsx_self_closing_element" then return tag
  else
    let inside ← elementContent
    return .branch "jsx_element" (tag.withField "open_tag" :: inside ++ [(← closingTag).withField "close_tag"])

end CodeAtlas.Syntax.Script
