import CodeAtlas.Markdown.Markup
import CodeAtlas.Text.Blank
import CodeAtlas.Unicode.UpperCase

set_option autoImplicit false

/-! # Blocks of a Markdown text

A text is read line by line. Quotes and list items contain other blocks; each line first continues the
open containers, then may open new ones, and what remains of it goes to the open leaf block. A line that
does not continue all containers is lazy: it can only go on with a paragraph. -/

namespace CodeAtlas.Markdown

/-! ## Blocks -/

/-- A block that entities come from. Lines count from 1. -/
inductive Block where
  | heading (depth startLine endLine textLine : Nat) (text : List Cell)
  | code (language value : String) (startLine endLine : Nat)
  | paragraph (startLine : Nat) (text : List Cell)

/-- A marker of list items: bullets are told apart by their character, numbers by what follows them. -/
inductive ListMarker where
  | bullet (c : Char)
  | number (c : Char)
deriving DecidableEq

/-- An open container. -/
inductive Container where
  | quote
  /-- A list, with the width of its current item's marker; `startsBlank` says that the item began with a
      blank line, `blankTwice` that another one followed. -/
  | list (marker : ListMarker) (width : Nat) (startsBlank blankTwice : Bool)

/-- Code between fences, as far as it was read. -/
structure FencedCode where
  marker : Char
  size : Nat
  indent : Nat
  language : String
  startLine : Nat
  /-- The lines, the last one first, each after the text that ended the line before it. -/
  lines : List (String × List Cell)
  /-- The text that ended the last line. -/
  ending : Option String
  lastLine : Nat

/-- The open leaf block. -/
inductive Leaf where
  | nothing
  /-- The lines of a paragraph or of link definitions, in one text. -/
  | content (startLine : Nat) (text : List Cell) (ending : Option String)
  /-- Indented code; `pending` are blank lines at its end. -/
  | indented (startLine endLine : Nat) (value : List Char) (ending : Option String) (pending : List Char)
  | fenced (f : FencedCode)
  | markup (kind : MarkupBlock)

/-- Is a leaf block open? -/
def Leaf.isOpen : Leaf → Bool
  | nothing => false
  | _ => true

/-- Does the leaf block take its lines as they are, so that no container opens in it? -/
def Leaf.isConcrete : Leaf → Bool
  | fenced _ => true
  | markup _ => true
  | _ => false

/-! ## Link definitions -/

/-- The form of a label under which it is looked up. -/
def normalizeLabel (s : String) : String :=
  let isGap (c : Char) : Bool := c = ' ' || c = '\t' || c = '\n' || c = '\r'
  let words := (Text.split isGap s).filter (· ≠ "")
  Unicode.upper (Unicode.lower (" ".intercalate words))

/-- The greatest length of a label. -/
def labelLimit : Nat := 999

/-- The cells of a label up to its closing bracket; `escaped` says that a backslash precedes. -/
def labelCells (escaped : Bool) : List Cell → Option (List Cell)
  | [] => none
  | c :: rest =>
    if escaped ∧ (c.is '[' ∨ c.is '\\' ∨ c.is ']') then (labelCells false rest).map (c :: ·)
    else if c.is '[' then none
    else if c.is ']' then some []
    else (labelCells (c.is '\\') rest).map (c :: ·)

/-- A label after its opening bracket, and what follows it. A label is neither blank nor too long. -/
def label? (cells : List Cell) : Option (String × List Cell) := do
  let body ← labelCells false cells
  let length := (body.filter (!·.isEnd)).length
  if body.all Cell.isGap ∨ labelLimit < length then none
  else some (normalizeLabel (textOf body), cells.drop (body.length + 1))

def dropGaps (cells : List Cell) : List Cell := cells.dropWhile Cell.isGap

/-- The cells of a destination between angle brackets, up to the closing one. -/
def enclosedCells (escaped : Bool) : List Cell → Option (List Cell)
  | [] => none
  | c :: rest =>
    if escaped ∧ (c.is '<' ∨ c.is '>' ∨ c.is '\\') then (enclosedCells false rest).map (c :: ·)
    else if c.is '>' then some []
    else if c.is '<' ∨ c.isEnd then none
    else (enclosedCells (c.is '\\') rest).map (c :: ·)

/-- The cells of a bare destination, with balanced parentheses nested at most `limit` deep. -/
def bareCells (limit : Option Nat) (depth : Nat) (escaped : Bool) : List Cell → Option (List Cell)
  | [] => if depth = 0 then some [] else none
  | c :: rest =>
    let more (d : Nat) (e : Bool) := (bareCells limit d e rest).map (c :: ·)
    if escaped ∧ (c.is '(' ∨ c.is ')' ∨ c.is '\\') then more depth false
    else if depth = 0 ∧ (c.is ')' ∨ c.isGap) then some []
    else if c.is '(' then (if limit.all (depth < ·) then more (depth + 1) false else none)
    else if c.is ')' then more (depth - 1) false
    else if c.is ' ' ∨ isControl c then none
    else more depth (c.is '\\')

/-- A destination and what follows it. -/
def destination? (limit : Option Nat) (cells : List Cell) : Option (String × List Cell) :=
  match cells with
  | .char '<' :: rest => do
    let body ← enclosedCells false rest
    return (stringOf body, rest.drop (body.length + 1))
  | c :: _ =>
    if c.is ' ' ∨ c.is ')' ∨ isControl c then none
    else do
      let body ← bareCells limit 0 false cells
      return (stringOf body, cells.drop body.length)
  | [] => none

def titleClose? (c : Cell) : Option Char :=
  if c.is '"' then some '"' else if c.is '\'' then some '\'' else if c.is '(' then some ')' else none

/-- What follows a title whose opening mark was read. -/
def afterTitle (mark : Char) (escaped : Bool) : List Cell → Option (List Cell)
  | [] => none
  | c :: rest =>
    if escaped ∧ (c.is mark ∨ c.is '\\') then afterTitle mark false rest
    else if c.is mark then some rest
    else if mark = ')' ∧ c.is '(' then none
    else afterTitle mark (c.is '\\') rest

/-- What follows a title, if there is one. -/
def title? (cells : List Cell) : Option (List Cell) := do
  let c ← cells.head?
  let mark ← titleClose? c
  afterTitle mark false (cells.drop 1)

/-- What follows blanks up to the end of a line or of the text. -/
def lineRest? (cells : List Cell) : Option (List Cell) :=
  match dropSpaces cells with
  | [] => some []
  | c :: rest => if c.isEnd then some (c :: rest) else none

/-- What follows the optional title of a definition. -/
def afterDefinitionTitle (cells : List Cell) : Option (List Cell) :=
  let titled := if cells.head?.any Cell.isGap then (title? (dropGaps cells)).bind lineRest? else none
  titled.or (lineRest? cells)

/-- A link definition: its label, and what follows it. -/
def definition? (cells : List Cell) : Option (String × List Cell) :=
  match cells with
  | .char '[' :: rest => do
    let (label, rest) ← label? rest
    if !rest.head?.any (·.is ':') then none
    else
      let (_, rest) ← destination? none (dropGaps (rest.drop 1))
      let rest ← afterDefinitionTitle rest
      return (label, rest)
  | _ => none

/-- The definitions at the start of a text, and what follows them with the number of lines before it. -/
def definitions : Nat → Nat → List Cell → List String × Nat × List Cell
  | 0, line, cells => ([], line, cells)
  | fuel + 1, line, cells =>
    match definition? cells with
    | none => ([], line, cells)
    | some (label, rest) =>
      let read := cells.take (cells.length - rest.length)
      let line := line + (read.filter Cell.isEnd).length
      match rest with
      | [] => ([label], line, [])
      | _ :: rest =>
        let (labels, line, rest) := definitions fuel (line + 1) (dropSpaces rest)
        (label :: labels, line, rest)

/-! ## The state of a reading -/

/-- What was read so far. -/
structure Reading where
  /-- The open containers, the outermost first. -/
  containers : List Container := []
  leaf : Leaf := .nothing
  /-- Finished blocks, the last one first. -/
  blocks : List Block := []
  /-- The labels of link definitions. -/
  labels : List String := []

namespace Reading

def add (r : Reading) (b : Block) : Reading := { r with blocks := b :: r.blocks }

/-- Close a paragraph; the definitions at its start are taken out. -/
def closeContent (r : Reading) (startLine : Nat) (text : List Cell) : Reading :=
  let (labels, line, rest) := definitions text.length startLine text
  let r := { r with leaf := .nothing, labels := r.labels ++ labels }
  if rest.isEmpty then r else r.add (.paragraph line rest)

/-- A text without one line end at either end. -/
def trimEnds (s : String) : String :=
  let front (cs : List Char) : List Char := match cs with
    | '\r' :: '\n' :: rest => rest
    | '\n' :: rest => rest
    | '\r' :: rest => rest
    | cs => cs
  let back (cs : List Char) : List Char := match cs.reverse with
    | '\n' :: '\r' :: rest => rest.reverse
    | '\n' :: rest => rest.reverse
    | '\r' :: rest => rest.reverse
    | _ => cs
  String.ofList (back (front s.toList))

/-- A text without one line end at its end. -/
def trimEnd (cs : List Char) : String :=
  match cs.reverse with
  | '\n' :: '\r' :: rest => String.ofList rest.reverse
  | '\n' :: rest => String.ofList rest.reverse
  | '\r' :: rest => String.ofList rest.reverse
  | _ => String.ofList cs

/-- Close fenced code. `final` is the line end after the last line, where that belongs to the code. -/
def closeFenced (r : Reading) (f : FencedCode) (final : Option String) (endLine : Nat) : Reading :=
  let body := String.join (f.lines.reverse.map fun (e, cells) => e ++ textOf cells)
  { r with leaf := .nothing }.add
    (.code f.language (trimEnds (body ++ final.getD "")) f.startLine endLine)

/-- Close the leaf block. If the line that does so is lazy, the line end before it is no part of an
    unclosed fence. -/
def closeLeaf (r : Reading) (lazy : Bool) : Reading :=
  match r.leaf with
  | .nothing => r
  | .content startLine text _ => r.closeContent startLine text
  | .indented startLine endLine value _ _ =>
    { r with leaf := .nothing }.add (.code "" (trimEnd value) startLine endLine)
  | .fenced f =>
    if lazy ∨ f.ending.isNone then r.closeFenced f none f.lastLine
    else r.closeFenced f f.ending (f.lastLine + 1)
  | .markup _ => { r with leaf := .nothing }

end Reading

/-! ## Leaf blocks that a line begins -/

/-- Is the line a thematic break: three or more of one mark, blanks between them? -/
def isBreak (cells : List Cell) : Bool :=
  match cells with
  | .char c :: _ =>
    (c = '*' || c = '-' || c = '_') && cells.all (fun x => x.is c || x.isSpace)
      && 3 ≤ (cells.filter (·.is c)).length
  | _ => false

/-- The depth of the heading that an underline makes of the paragraph above it. -/
def underline? (cells : List Cell) : Option Nat :=
  match cells with
  | .char c :: _ =>
    if (c = '=' ∨ c = '-') ∧ isBlankLine (cells.drop (runLength c cells)) then
      some (if c = '=' then 1 else 2)
    else none
  | _ => none

/-- The contents of a heading line without blanks and without closing marks. -/
def headingText (cells : List Cell) : List Cell :=
  let body := ((dropSpaces cells).reverse).dropWhile Cell.isSpace
  let marks := runLength '#' body
  let rest := body.drop marks
  if marks = 0 then body.reverse
  else match rest with
    | [] => []
    | c :: _ => if c.isSpace then (rest.dropWhile Cell.isSpace).reverse else body.reverse

/-- The depth and contents of a heading line. -/
def heading? (cells : List Cell) : Option (Nat × List Cell) :=
  let depth := runLength '#' cells
  let rest := cells.drop depth
  if 1 ≤ depth ∧ depth ≤ 6 ∧ rest.head?.all Cell.isSpace then some (depth, headingText rest) else none

/-- A fence: its mark, its length, and the language after it. -/
def fence? (cells : List Cell) : Option (Char × Nat × String) :=
  match cells with
  | .char c :: _ =>
    if c = grave ∨ c = '~' then
      let size := runLength c cells
      let info := dropSpaces (cells.drop size)
      if size < 3 ∨ (c = grave ∧ info.any (·.is grave)) then none
      else some (c, size, stringOf (info.takeWhile (!·.isSpace)))
    else none
  | _ => none

/-- Is the line the fence that closes the code? -/
def closesFence (f : FencedCode) (cells : List Cell) : Bool :=
  let body := dropIndent 3 cells
  let size := runLength f.marker body
  f.size ≤ size && isBlankLine (body.drop size)

/-- Does a line, after its indentation, end a paragraph above it by beginning another block? -/
def interrupts (lazy : Bool) (cells : List Cell) : Bool :=
  (heading? cells).isSome || isBreak cells || (fence? cells).isSome || (!lazy && (underline? cells).isSome)
    || (match cells with
      | .char '<' :: rest => (markupBlock? lazy true rest).isSome
      | _ => false)

/-! ## Lines of leaf blocks -/

/-- A line that goes to a leaf block. -/
structure LeafLine where
  number : Nat
  cells : List Cell
  ending : Option String
  lazy : Bool

namespace Reading

/-- Begin a leaf block with a line, none being open. -/
def beginLeaf (r : Reading) (l : LeafLine) : Reading :=
  let indent := indentOf l.cells
  let body := dropSpaces l.cells
  if body.isEmpty then r
  else if tabSize ≤ indent then
    { r with leaf := .indented l.number l.number (charsOf false (l.cells.drop tabSize)) l.ending [] }
  else match heading? body with
    | some (depth, text) => r.add (.heading depth l.number l.number l.number text)
    | none =>
      if isBreak body then r
      else match fence? body with
        | some (marker, size, language) =>
          { r with leaf := .fenced ⟨marker, size, indent, language, l.number, [], l.ending, l.number⟩ }
        | none =>
          let block := match body with
            | .char '<' :: rest =>
              (markupBlock? l.lazy false rest).map fun (kind, n) => (kind, rest.drop n)
            | _ => none
          match block with
          | some (kind, rest) =>
            if endsMarkup kind (.ofOpening kind) rest then r else { r with leaf := .markup kind }
          | none => { r with leaf := .content l.number body l.ending }

/-- Make a heading of the paragraph above an underline, if there is a paragraph. -/
def underlined? (r : Reading) (startLine : Nat) (text : List Cell) (depth endLine : Nat) :
    Option Reading :=
  let (labels, line, rest) := definitions text.length startLine text
  if rest.isEmpty then none
  else some ({ r with leaf := .nothing, labels := r.labels ++ labels }.add
    (.heading depth startLine endLine line rest))

/-- A line while a paragraph is open. -/
def onContent (r : Reading) (startLine : Nat) (text : List Cell) (ending : Option String) (l : LeafLine) :
    Reading :=
  let indent := indentOf l.cells
  let body := dropSpaces l.cells
  let goesOn := !body.isEmpty && (tabSize ≤ indent || !interrupts l.lazy body)
  if goesOn then
    { r with leaf := .content startLine (text ++ .lineEnd (ending.getD "") :: l.cells) l.ending }
  else
    let heading := if l.lazy ∨ body.isEmpty then none else
      (underline? body).bind fun depth => r.underlined? startLine text depth l.number
    heading.getD ((r.closeContent startLine text).beginLeaf l)

/-- A line while indented code is open. -/
def onIndented (r : Reading) (startLine endLine : Nat) (value : List Char) (ending : Option String)
    (pending : List Char) (l : LeafLine) : Reading :=
  let before := pending ++ (ending.getD "").toList
  if l.lazy then (r.closeLeaf true).beginLeaf l
  else if tabSize ≤ indentOf l.cells then
    let value := value ++ before ++ charsOf false (l.cells.drop tabSize)
    { r with leaf := .indented startLine l.number value l.ending [] }
  else if isBlankLine l.cells then
    { r with leaf := .indented startLine endLine value l.ending before }
  else (r.closeLeaf false).beginLeaf l

/-- Give a line to the open leaf block, or begin one with it. -/
def feed (r : Reading) (l : LeafLine) : Reading :=
  match r.leaf with
  | .nothing => r.beginLeaf l
  | .content startLine text ending => r.onContent startLine text ending l
  | .indented startLine endLine value ending pending =>
    r.onIndented startLine endLine value ending pending l
  | .fenced f =>
    if l.lazy then (r.closeLeaf true).beginLeaf l
    else if closesFence f l.cells then r.closeFenced f f.ending l.number
    else
      { r with leaf := .fenced { f with
          lines := (f.ending.getD "", dropIndent f.indent l.cells) :: f.lines
          ending := l.ending
          lastLine := l.number } }
  | .markup kind =>
    if l.lazy then (r.closeLeaf true).beginLeaf l
    else if (kind = .tag ∨ kind = .complete) ∧ isBlankLine l.cells then { r with leaf := .nothing }
    else if endsMarkup kind .nothing l.cells then { r with leaf := .nothing }
    else r

end Reading

/-! ## Containers -/

/-- A quote mark with the blank after it, and what follows. -/
def quoteRest? (cells : List Cell) : Option (List Cell) :=
  match dropIndent 3 cells with
  | .char '>' :: rest => some (dropIndent 1 rest)
  | _ => none

/-- The marker at the start of a list item, its width, and what follows it. One that interrupts a
    paragraph can only be a bullet or the number one. -/
def listMarker? (interrupts : Bool) (cells : List Cell) : Option (ListMarker × Nat × List Cell) :=
  match cells with
  | .char c :: rest =>
    if c = '*' ∨ c = '+' ∨ c = '-' then
      if c ≠ '+' ∧ isBreak cells then none else some (.bullet c, 1, rest)
    else
      let digits := cells.takeWhile (·.has Char.isDigit)
      let n := digits.length
      if n = 0 ∨ 9 < n ∨ (interrupts ∧ ¬ (n = 1 ∧ c = '1')) then none
      else match cells.drop n with
        | .char d :: rest => if d = '.' ∨ d = ')' then some (.number d, n + 1, rest) else none
        | _ => none
  | _ => none

/-- A list item: its container and what follows its marker. The known marker of a list must fit. -/
def listItem? (interrupts : Bool) (known : Option ListMarker) (cells : List Cell) :
    Option (Container × List Cell) := do
  let body := dropIndent 3 cells
  let indent := cells.length - body.length
  let (marker, width, rest) ← listMarker? interrupts body
  let item (blank : Bool) (n : Nat) : Container × List Cell :=
    (.list marker (indent + width + n) blank false, if blank then rest else rest.drop n)
  let spaces := indentOf rest
  if known.any (· ≠ marker) then none
  else if isBlankLine rest then (if interrupts then none else some (item true 1))
  else if spaces = 0 then none
  else if spaces ≤ tabSize then some (item false spaces)
  else some (item false 1)

/-- A container that a line begins, and what follows. -/
def container? (interrupts : Bool) (cells : List Cell) : Option (Container × List Cell) :=
  match quoteRest? cells with
  | some rest => some (.quote, rest)
  | none => listItem? interrupts none cells

/-- How a line goes on with a container. -/
inductive Continuation where
  | inside (c : Container) (rest : List Cell)
  /-- With the next item of the list, which closes what the item before it held. -/
  | nextItem (c : Container) (rest : List Cell)
  | outside

/-- How a line goes on with a container. -/
def Container.continuation (cells : List Cell) : Container → Continuation
  | quote =>
    match quoteRest? cells with
    | some rest => .inside .quote rest
    | none => .outside
  | list marker width startsBlank blankTwice =>
    if isBlankLine cells then
      .inside (.list marker width startsBlank (blankTwice || startsBlank)) (dropIndent width cells)
    else if !blankTwice && cells.head?.any Cell.isSpace && width ≤ indentOf cells then
      .inside (.list marker width false false) (cells.drop width)
    else match listItem? false (some marker) cells with
      | some (c, rest) => .nextItem c rest
      | none => .outside

/-- The containers that a line goes on with. -/
structure Continued where
  kept : List Container
  rest : List Cell
  /-- Containers of the list item that ended were dropped. -/
  newItem : Bool

/-- Continue the containers, the outermost first; stop at the first that a line does not continue, or at
    the next item of a list. -/
def continueAll (cells : List Cell) : List Container → Continued
  | [] => ⟨[], cells, false⟩
  | c :: others =>
    match c.continuation cells with
    | .inside c rest =>
      let inner := continueAll rest others
      { inner with kept := c :: inner.kept }
    | .nextItem c rest => ⟨[c], rest, true⟩
    | .outside => ⟨[], cells, false⟩

/-- All containers that a line begins, and what follows. -/
def newContainers (interrupts : Bool) : Nat → List Cell → List Container × List Cell
  | 0, cells => ([], cells)
  | fuel + 1, cells =>
    match container? interrupts cells with
    | none => ([], cells)
    | some (c, rest) =>
      let (others, rest) := newContainers interrupts fuel rest
      (c :: others, rest)

namespace Reading

/-- One more line. -/
def addLine (r : Reading) (number : Nat) (line : Line) : Reading :=
  let k := continueAll line.cells r.containers
  let all := k.newItem || k.kept.length = r.containers.length
  let r := if k.newItem then r.closeLeaf false else r
  let opened := if all && r.leaf.isConcrete then ([], k.rest)
    else newContainers (all && r.leaf.isOpen) k.rest.length k.rest
  if opened.1.isEmpty then
    let fed := r.feed ⟨number, k.rest, line.ending, !all⟩
    let staysOpen : Bool := match r.leaf, fed.leaf with
      | .content a _ _, .content b _ _ => a == b
      | _, _ => false
    if all then { fed with containers := k.kept }
    else if staysOpen then { fed with containers := k.kept ++ r.containers.drop k.kept.length }
    else { fed with containers := k.kept }
  else
    let r := r.closeLeaf false
    { r with containers := k.kept ++ opened.1 }.feed ⟨number, opened.2, line.ending, false⟩

/-- The end of the text. -/
def finish (r : Reading) (endsLine : Bool) : Reading :=
  let k := continueAll [] r.containers
  r.closeLeaf (endsLine && k.kept.length ≠ r.containers.length)

end Reading

/-- Read all lines. -/
def readLines (r : Reading) (number : Nat) : List Line → Reading
  | [] => r.finish true
  | [l] => (r.addLine number l).finish l.ending.isSome
  | l :: rest => readLines (r.addLine number l) (number + 1) rest

/-- The blocks of a text in order, and the labels of its link definitions. -/
def blocksOf (text : String) : List Block × List String :=
  let r := readLines {} 1 (linesOf text)
  (r.blocks.reverse, r.labels)

end CodeAtlas.Markdown
