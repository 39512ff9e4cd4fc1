import CodeAtlas.Markdown.Cell

set_option autoImplicit false

/-! # Markup in Markdown

Markdown may hold raw markup: tags, comments, declarations, instructions and character data. Inside a
paragraph such a piece must be complete; as a block it starts with a line of one of seven kinds and ends
with a line that closes it. -/

namespace CodeAtlas.Markdown

/-! ## Pieces of a paragraph -/

/-- Where the reading of a piece stands. -/
inductive MarkupState where
  | comment
  | commentClose
  | commentEnd
  | data
  | dataClose
  | dataEnd
  | declaration
  | instruction
  | instructionClose
  | closingName
  | closingGap
  | openName
  | openGap
  | attributeName
  | afterAttributeName
  | beforeValue
  | quotedValue (mark : Char)
  | bareValue
  | afterQuotedValue
  /-- Only the closing angle bracket may follow. -/
  | finish

/-- What a cell does to a piece. -/
inductive MarkupStep where
  | go (s : MarkupState)
  | closed
  | failed

open MarkupState MarkupStep

/-- May the character continue a tag name? -/
def isTagPart (c : Cell) : Bool := c.has fun x => x.isAlphanum || x = '-'

/-- May the character begin an attribute name? -/
def startsAttribute (c : Cell) : Bool := c.has fun x => x.isAlpha || x = ':' || x = '_'

def continuesAttribute (c : Cell) : Bool :=
  c.has fun x => x.isAlphanum || x = ':' || x = '_' || x = '-' || x = '.'

/-- The mark of quoted code, which may not begin a bare value. -/
def grave : Char := Char.ofNat 0x60

/-- The closing angle bracket, or failure. -/
def close (c : Cell) : MarkupStep := if c.is '>' then closed else failed

/-- Between the parts of an opening tag. -/
def stepOpenGap (c : Cell) : MarkupStep :=
  if c.is '/' then go finish
  else if startsAttribute c then go attributeName
  else if c.isGap then go openGap
  else close c

/-- After the name of an attribute. -/
def stepAfterAttributeName (c : Cell) : MarkupStep :=
  if c.is '=' then go beforeValue
  else if c.isGap then go afterAttributeName
  else stepOpenGap c

def endsTagPart (c : Cell) : Bool := c.is '/' || c.is '>' || c.isGap

/-- One cell further in a piece. In a tag `alone` on its line a bare value may be followed by another
    one. -/
def MarkupState.step (alone : Bool) (s : MarkupState) (c : Cell) : MarkupStep :=
  match s with
  | comment => go (if c.is '-' then commentClose else comment)
  | commentClose => go (if c.is '-' then commentEnd else comment)
  | commentEnd => if c.is '>' then closed else go (if c.is '-' then commentEnd else comment)
  | data => go (if c.is ']' then dataClose else data)
  | dataClose => go (if c.is ']' then dataEnd else data)
  | dataEnd => if c.is '>' then closed else go (if c.is ']' then dataEnd else data)
  | declaration => if c.is '>' then closed else go declaration
  | instruction => go (if c.is '?' then instructionClose else instruction)
  | instructionClose =>
    if c.is '>' then closed else go (if c.is '?' then instructionClose else instruction)
  | closingName => if isTagPart c then go closingName else if c.isGap then go closingGap else close c
  | closingGap => if c.isGap then go closingGap else close c
  | openName =>
    if isTagPart c then go openName else if endsTagPart c then stepOpenGap c else failed
  | openGap => stepOpenGap c
  | attributeName => if continuesAttribute c then go attributeName else stepAfterAttributeName c
  | afterAttributeName => stepAfterAttributeName c
  | beforeValue =>
    if c.has fun x => x = '<' || x = '=' || x = '>' || x = grave then failed
    else if c.is '"' then go (quotedValue '"')
    else if c.is '\'' then go (quotedValue '\'')
    else if c.isGap then go beforeValue
    else go bareValue
  | quotedValue mark => go (if c.is mark then afterQuotedValue else quotedValue mark)
  | bareValue =>
    if alone && c.is '=' then go beforeValue
    else if c.has fun x => x = '"' || x = '\'' || x = '<' || x = '=' || x = grave then failed
    else if endsTagPart c then stepOpenGap c
    else go bareValue
  | afterQuotedValue => if endsTagPart c then stepOpenGap c else failed
  | finish => close c

/-- The number of cells up to the end of a piece. -/
def markupLength (alone : Bool) (s : MarkupState) : List Cell → Option Nat
  | [] => none
  | c :: rest =>
    match s.step alone c with
    | closed => some 1
    | failed => none
    | go s => (markupLength alone s rest).map (· + 1)

/-- The opening of character data, after its angle bracket. -/
def dataOpening : List Cell := "![CDATA[".toList.map Cell.char

/-- The number of cells of the piece that follows an opening angle bracket. -/
def inlineMarkup? (cells : List Cell) : Option Nat :=
  let after (n : Nat) (s : MarkupState) : Option Nat := (markupLength false s (cells.drop n)).map (· + n)
  match cells with
  | .char '!' :: .char '-' :: .char '-' :: _ => after 3 commentEnd
  | .char '!' :: .char c :: _ =>
    if c.isAlpha then after 2 declaration
    else if dataOpening.isPrefixOf cells then after dataOpening.length data
    else none
  | .char '?' :: _ => after 1 instruction
  | .char '/' :: .char c :: _ => if c.isAlpha then after 2 closingName else none
  | .char c :: _ => if c.isAlpha then after 1 openName else none
  | _ => none

/-- The text of a piece: the lines after the first lose up to three blank columns. -/
def markupText : List Cell → List Char
  | [] => []
  | .lineEnd s :: rest =>
    let kept := dropIndent 3 rest
    s.toList ++ charsOf false (kept.takeWhile (!·.isEnd)) ++ markupText (kept.dropWhile (!·.isEnd))
  | c :: rest => charsOf false [c] ++ markupText rest
termination_by cells => cells.length
decreasing_by
  · simp only [List.length_cons]
    have h := (List.dropWhile_suffix (fun c : Cell => !c.isEnd) (l := dropIndent 3 rest)).length_le
    simp only [dropIndent, List.length_drop] at h ⊢
    omega
  · simp

/-! ## Blocks -/

/-- The kinds of markup block, by what ends them. -/
inductive MarkupBlock where
  /-- The contents of a script, style, text area or preformatted text. -/
  | raw
  | comment
  | instruction
  | declaration
  | data
  /-- A block-level tag; ends before a blank line. -/
  | tag
  /-- Any other complete tag alone on its line; ends before a blank line. -/
  | complete
deriving DecidableEq

/-- The elements with raw contents. -/
def rawNames : List String := ["pre", "script", "style", "textarea"]

/-- The block-level elements. -/
def blockNames : List String :=
  ["address", "article", "aside", "base", "basefont", "blockquote", "body", "caption", "center", "col",
    "colgroup", "dd", "details", "dialog", "dir", "div", "dl", "dt", "fieldset", "figcaption", "figure",
    "footer", "form", "frame", "frameset", "h1", "h2", "h3", "h4", "h5", "h6", "head", "header", "hr",
    "html", "iframe", "legend", "li", "link", "main", "menu", "menuitem", "nav", "noframes", "ol",
    "optgroup", "option", "p", "param", "search", "section", "summary", "table", "tbody", "td", "tfoot",
    "th", "thead", "title", "tr", "track", "ul"]

/-- Does a complete tag, whose name was read, end with nothing but blanks after it? -/
def completeTag (s : MarkupState) (cells : List Cell) : Bool :=
  match markupLength true s cells with
  | some n => isBlankLine (cells.drop n)
  | none => false

/-- The kind of block that a tag begins; `cells` start at its name. -/
def tagBlock? (closing lazy interrupts : Bool) (cells : List Cell) : Option MarkupBlock :=
  let name := cells.takeWhile isTagPart
  let rest := cells.drop name.length
  let lowered := (textOf name).toLower
  let slash := rest.head?.any (·.is '/')
  if !rest.head?.all endsTagPart then none
  else if !slash && !closing && rawNames.contains lowered then some .raw
  else if blockNames.contains lowered then
    if slash && !(rest[1]?).any (·.is '>') then none else some .tag
  else if interrupts && !lazy then none
  else if completeTag (if closing then .closingGap else .openGap) rest then some .complete
  else none

/-- The kind of markup block that a line begins after an opening angle bracket, and how many of its cells
    the opening takes. -/
def markupBlock? (lazy interrupts : Bool) (cells : List Cell) : Option (MarkupBlock × Nat) :=
  match cells with
  | .char '!' :: .char '-' :: .char '-' :: _ => some (.comment, 3)
  | .char '!' :: .char c :: _ =>
    if c.isAlpha then some (.declaration, 2)
    else if dataOpening.isPrefixOf cells then some (.data, dataOpening.length)
    else none
  | .char '?' :: _ => some (.instruction, 1)
  | .char '/' :: .char c :: rest =>
    if c.isAlpha then (tagBlock? true lazy interrupts (.char c :: rest)).map fun k => (k, 2) else none
  | .char c :: rest =>
    if c.isAlpha then (tagBlock? false lazy interrupts (.char c :: rest)).map fun k => (k, 1) else none
  | _ => none

/-- Does a closing tag of an element with raw contents follow? -/
def closesRaw (cells : List Cell) : Bool :=
  match cells with
  | .char '/' :: rest =>
    let name := leading Char.isAlpha 8 rest
    rawNames.contains (String.ofList name).toLower && (rest.drop name.length).head?.any (·.is '>')
  | _ => false

/-- How much of what ends a markup block was just read. -/
inductive EndProgress where
  | nothing
  | half
  /-- Only the closing bracket is missing. -/
  | most
deriving DecidableEq

/-- What was read after a cell. -/
def EndProgress.after (kind : MarkupBlock) (p : EndProgress) (c : Cell) : EndProgress :=
  match kind with
  | .comment =>
    if !c.is '-' then .nothing else if p = .nothing then .half else .most
  | .instruction => if c.is '?' then .most else .nothing
  | .data => if !c.is ']' then .nothing else if p = .half then .most else .half
  | .declaration => .most
  | _ => .nothing

/-- What the opening of a block already provides towards its end. -/
def EndProgress.ofOpening : MarkupBlock → EndProgress
  | .comment => .most
  | .instruction => .most
  | .declaration => .most
  | _ => .nothing

/-- Does a line hold the end of a markup block? -/
def endsMarkup (kind : MarkupBlock) (p : EndProgress) : List Cell → Bool
  | [] => false
  | c :: rest =>
    (p = .most && c.is '>') || (kind = .raw && c.is '<' && closesRaw rest)
      || endsMarkup kind (p.after kind c) rest

end CodeAtlas.Markdown
