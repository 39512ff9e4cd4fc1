import CodeAtlas.Markdown.Attention
import CodeAtlas.Markdown.Block

set_option autoImplicit false

/-! # The text of a paragraph

A paragraph's text is read from left to right: code, links, markup, escapes and emphasis. Brackets that
were opened wait in frames until a closing bracket decides whether they make a link. -/

namespace CodeAtlas.Markdown

/-! ## Code -/

/-- What stands before a run of exactly `size` code marks, and what follows it. -/
def codeCells (size : Nat) (cells : List Cell) : Option (List Cell × List Cell) :=
  let body := cells.takeWhile (!·.is grave)
  let after := cells.drop body.length
  let n := runLength grave after
  if _h : n = 0 then none
  else if n = size then some (body, after.drop n)
  else (codeCells size (after.drop n)).map fun (more, rest) => (body ++ after.take n ++ more, rest)
termination_by cells.length
decreasing_by
  have h := runLength_le grave after
  simp only [n, after, body, List.length_drop] at *
  omega

/-- Is the cell one that may pad code? -/
def isPadding (c : Cell) : Bool := c.is ' ' || c.isEnd

/-- The value of code: padding on both sides loses one cell on each, unless there is nothing else. -/
def codeValue (cells : List Cell) : String :=
  let padded := cells.head?.any isPadding && cells.getLast?.any isPadding && !cells.all isPadding
  textOf (if padded then (cells.drop 1).dropLast else cells)

/-! ## Addresses between angle brackets -/

/-- May the character stand in the scheme of an address? -/
def isSchemePart (c : Char) : Bool := c.isAlphanum || c = '+' || c = '-' || c = '.'

/-- The longest scheme. -/
def schemeLimit : Nat := 32

/-- The longest part of a mail domain. -/
def domainLimit : Nat := 63

/-- May the character stand in the name before the at sign of a mail address? -/
def isMailPart (c : Char) : Bool :=
  c.isAlphanum || c = grave || c ∈ "#$%&'*+-./=?^_\x7b|\x7d~".toList

/-- What follows the closing angle bracket of a mail domain. -/
def afterDomain : Nat → List Cell → Option (List Cell)
  | 0, _ => none
  | fuel + 1, cells =>
    let part := leading (fun c => c.isAlphanum || c = '-') cells.length cells
    if part.length ≤ domainLimit ∧ part.head?.any Char.isAlphanum ∧ part.getLast?.any Char.isAlphanum then
      match cells.drop part.length with
      | .char '.' :: rest => afterDomain fuel rest
      | .char '>' :: rest => some rest
      | _ => none
    else none

def isAddressCell (c : Cell) : Bool := !(c.is ' ' || c.is '<' || c.is '>' || isControl c)

/-- A mail address after an angle bracket: its URL and text, and what follows. -/
def mail? (cells : List Cell) : Option (String × String × List Cell) :=
  let name := cells.takeWhile (·.has isMailPart)
  match name, cells.drop name.length with
  | _ :: _, .char '@' :: rest =>
    (afterDomain rest.length rest).map fun after =>
      let text := textOf (cells.take (cells.length - after.length - 1))
      ("mailto:" ++ text, text, after)
  | _, _ => none

/-- An address after an angle bracket: its URL and text, and what follows. -/
def address? (cells : List Cell) : Option (String × String × List Cell) :=
  let scheme := leading isSchemePart schemeLimit cells
  if cells.head?.any (·.has Char.isAlpha) ∧ 2 ≤ scheme.length
      ∧ (cells.drop scheme.length).head?.any (·.is ':') then
    let body := cells.takeWhile isAddressCell
    match cells.drop body.length with
    | .char '>' :: rest => some (textOf body, textOf body, rest)
    | _ => none
  else mail? cells

/-! ## Targets of links -/

/-- What follows a closing parenthesis. -/
def afterParenthesis? : List Cell → Option (List Cell)
  | .char ')' :: rest => some rest
  | _ => none

/-- The deepest nesting of parentheses in the destination of a link. -/
def nestingLimit : Nat := 32

/-- A destination with an optional title after an opening parenthesis, and what follows the closing one. -/
def resource? (cells : List Cell) : Option (String × List Cell) :=
  let cells := dropGaps cells
  match afterParenthesis? cells with
  | some rest => some ("", rest)
  | none => do
    let (url, rest) ← destination? (some nestingLimit) cells
    let titled := rest.head?.any Cell.isGap && (dropGaps rest).head?.any fun c => (titleClose? c).isSome
    let rest ← if titled then title? (dropGaps rest) else some rest
    let rest ← afterParenthesis? (dropGaps rest)
    return (url, rest)

/-- What a bracketed text points to, from what follows it: a URL of its own, or a definition. -/
def target? (labels : List String) (isDefined : Bool) (cells : List Cell) :
    Option (Option String × List Cell) :=
  let shortcut := if isDefined then some (none, cells) else none
  match cells with
  | .char '(' :: rest =>
    match resource? rest with
    | some (url, rest) => some (some url, rest)
    | none => shortcut
  | .char '[' :: rest =>
    match label? rest, rest with
    | some (label, after), _ => if labels.contains label then some (none, after) else none
    | none, .char ']' :: after => if isDefined then some (none, after) else none
    | none, _ => none
  | _ => shortcut

/-! ## Reading -/

/-- An open bracket. -/
structure Frame where
  image : Bool
  /-- Links hold no links: once one is read, the brackets around it cannot make another. -/
  active : Bool
  line : Nat
  /-- What follows the bracket. -/
  inside : List Cell
  /-- What was read since, the last piece first. -/
  pieces : List Piece

/-- A reading of a text. -/
structure InlineReading where
  /-- The open brackets, the innermost first. -/
  frames : List Frame
  /-- What was read outside all brackets, the last piece first. -/
  outer : List Piece
  line : Nat
  previous : Option Cell

namespace InlineReading

/-- Put pieces, the last one first, behind what was read. -/
def append (s : InlineReading) (pieces : List Piece) : InlineReading :=
  match s.frames with
  | [] => { s with outer := pieces ++ s.outer }
  | f :: rest => { s with frames := { f with pieces := pieces ++ f.pieces } :: rest }

/-- Put an item behind what was read. -/
def add (s : InlineReading) (i : Inline) : InlineReading := s.append [Piece.item i]

def pass (s : InlineReading) (read : List Cell) : InlineReading :=
  { s with line := s.line + read.countP Cell.isEnd, previous := read.getLast?.or s.previous }

/-- Give up the innermost bracket: it is text. -/
def dropFrame (s : InlineReading) : InlineReading :=
  match s.frames with
  | [] => s
  | f :: rest =>
    let opening : Piece := .item (.text (if f.image then "![" else "["))
    { s with frames := rest }.append (f.pieces ++ [opening])

def openFrame (s : InlineReading) (image : Bool) (inside : List Cell) : InlineReading :=
  { s with frames := ⟨image, true, s.line, inside, []⟩ :: s.frames }

/-- Make a link, an image or a reference of the innermost bracket; `stop` is its last line. Of an image
    nothing is kept. -/
def closeFrame (s : InlineReading) (f : Frame) (outer : List Frame) (url : Option String) (stop : Nat) :
    InlineReading :=
  let items := settleAll f.pieces
  let link := url.toList.map fun u => Inline.link u (plainText items) f.line stop
  if f.image then { s with frames := outer }
  else
    let blocked := outer.map fun o => { o with active := o.active && o.image }
    let s : InlineReading := { s with frames := blocked }
    s.append ((link ++ items).reverse.map Piece.item)

/-- A closing bracket, before `rest`. -/
def onClosing (labels : List String) (s : InlineReading) (rest : List Cell) : InlineReading × List Cell :=
  let closing := [Cell.char ']']
  match s.frames with
  | [] => ((s.add (.text "]")).pass closing, rest)
  | f :: outer =>
    let label := f.inside.take (f.inside.length - rest.length - 1)
    let found := if f.active then target? labels (labels.contains (normalizeLabel (textOf label))) rest
      else none
    match found with
    | none => ((s.dropFrame.add (.text "]")).pass closing, rest)
    | some (url, after) =>
      let read := rest.take (rest.length - after.length)
      let stop := s.line + read.countP Cell.isEnd
      ((s.closeFrame f outer url stop).pass (closing ++ read), after)

/-- A code mark at the start of `cells`. -/
def onCode (s : InlineReading) (cells : List Cell) : InlineReading × List Cell :=
  let size := runLength grave cells
  match codeCells size (cells.drop size) with
  | some (body, rest) =>
    ((s.add (.code (codeValue body))).pass (cells.take (cells.length - rest.length)), rest)
  | none => ((s.add (.text (textOf (cells.take size)))).pass (cells.take size), cells.drop size)

/-- An emphasis mark at the start of `cells`. -/
def onMark (s : InlineReading) (mark : Char) (cells : List Cell) : InlineReading × List Cell :=
  let size := runLength mark cells
  let rest := cells.drop size
  ((s.append [.run (.between mark size s.previous rest.head?)]).pass (cells.take size), rest)

/-- An opening angle bracket, before `rest`. -/
def onAngle (s : InlineReading) (rest : List Cell) : InlineReading × List Cell :=
  let opening := Cell.char '<'
  match address? rest with
  | some (url, text, after) =>
    let s := (s.add (.link url text s.line s.line)).add (.text text)
    (s.pass (opening :: rest.take (rest.length - after.length)), after)
  | none =>
    match inlineMarkup? rest with
    | some n =>
      let read := opening :: rest.take n
      ((s.add (.text (String.ofList (markupText read)))).pass read, rest.drop n)
    | none => ((s.add (.text "<")).pass [opening], rest)

/-- A backslash, before `rest`. One at the end of a line breaks it. -/
def onBackslash (s : InlineReading) (rest : List Cell) : InlineReading × List Cell :=
  let plain := ((s.add (.text "\\")).pass [.char '\\'], rest)
  match rest with
  | .lineEnd e :: after => (s.pass [.lineEnd e], dropSpaces after)
  | .char c :: after =>
    if isAsciiPunctuation c then ((s.add (.text c.toString)).pass [.char c], after) else plain
  | _ => plain

/-- An ampersand, before `rest`. -/
def onAmpersand (s : InlineReading) (rest : List Cell) : InlineReading × List Cell :=
  match reference? rest with
  | some (text, after) => ((s.add (.text text)).pass (rest.take (rest.length - after.length)), after)
  | none => ((s.add (.text "&")).pass [.char '&'], rest)

/-- Characters that may begin something other than plain text. -/
def isSpecial (c : Char) : Bool := isMark c || c = grave || c ∈ "\\&![]<".toList

def isPlain (c : Cell) : Bool := !c.isEnd && !c.has isSpecial

def breaksLine (blanks : List Cell) : Bool :=
  !blanks.contains .tab && 2 ≤ blanks.countP (· ≠ .fill)

/-- Plain text at the start of `cells`; the first cell is plain whatever it is. -/
def onText (s : InlineReading) (cells : List Cell) : InlineReading × List Cell :=
  let span := cells.take 1 ++ (cells.drop 1).takeWhile isPlain
  let rest := cells.drop span.length
  if rest.head?.all Cell.isEnd then
    let body := (span.reverse.dropWhile Cell.isSpace).reverse
    let s := (s.add (.text (textOf body))).pass span
    if breaksLine (span.drop body.length) then (s.pass (rest.take 1), dropSpaces (rest.drop 1))
    else (s, rest)
  else ((s.add (.text (textOf span))).pass span, rest)

/-- Read what starts with a cell. -/
def step (labels : List String) (s : InlineReading) (c : Cell) (rest : List Cell) :
    InlineReading × List Cell :=
  match c with
  | .lineEnd e => ((s.add (.text e)).pass [c], dropSpaces rest)
  | .char '\\' => s.onBackslash rest
  | .char '&' => s.onAmpersand rest
  | .char '[' => ((s.openFrame false rest).pass [c], rest)
  | .char ']' => onClosing labels s rest
  | .char '<' => s.onAngle rest
  | .char '!' =>
    match rest with
    | .char '[' :: inside => ((s.openFrame true inside).pass [.char '['], inside)
    | _ => s.onText (c :: rest)
  | .char x =>
    if isMark x then s.onMark x (c :: rest)
    else if x = grave then s.onCode (c :: rest)
    else s.onText (c :: rest)
  | _ => s.onText (c :: rest)

/-- Read everything. -/
def run (labels : List String) : Nat → InlineReading → List Cell → InlineReading
  | 0, s, _ => s
  | _, s, [] => s
  | fuel + 1, s, c :: rest =>
    let (s, rest) := step labels s c rest
    run labels fuel s rest

/-- Give up all open brackets. -/
def dropFrames : Nat → InlineReading → InlineReading
  | 0, s => s
  | n + 1, s => dropFrames n s.dropFrame

end InlineReading

/-- What a text holds that begins on a line, given the labels of all link definitions. -/
def inlines (labels : List String) (line : Nat) (cells : List Cell) : List Inline :=
  let s := InlineReading.run labels cells.length ⟨[], [], line, none⟩ cells
  settleAll (s.dropFrames s.frames.length).outer

end CodeAtlas.Markdown
