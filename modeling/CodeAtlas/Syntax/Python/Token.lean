import CodeAtlas.Syntax.Reading
import CodeAtlas.Text.Blank
import CodeAtlas.Unicode.Identifier

set_option autoImplicit false

/-! # Tokens of Python

A token is read at any offset of a source, after blanks, line ends, comments and joined lines. It knows
whether it is the first of a line and how far that line is indented. -/

namespace CodeAtlas.Syntax.Python

/-! ## Between tokens -/

/-- Where a token begins, whether a line end lies before it, and the indentation of its line. -/
structure Gap where
  stop : Nat
  startsLine : Bool
  indent : Nat

def tabWidth : Nat := 8

/-- Characters without a width of their own that may stand between tokens. -/
def isInvisible (c : Char) : Bool := c = '\u2060' || c = '\u200b' || Text.isBlank c

/-- The gap from an offset on; `n` bounds its length. -/
def gapFrom (src : Source) (inComment startsLine : Bool) (indent : Nat) : Nat → Nat → Gap
  | 0, p => ⟨p, true, 0⟩
  | n + 1, p =>
    let go (inComment startsLine : Bool) (indent : Nat) := gapFrom src inComment startsLine indent n (p + 1)
    match src.chars[p]? with
    | none => ⟨p, true, 0⟩
    | some '\n' => go false true 0
    | some c =>
      if inComment then go true startsLine indent
      else if c = ' ' then go false startsLine (indent + 1)
      else if c = '\t' then go false startsLine (indent + tabWidth)
      else if c = '\r' ∨ c = '\x0c' then go false startsLine 0
      else if c = '#' then go true startsLine indent
      else if isInvisible c then go false startsLine indent
      else if c = '\\' then
        match n, src.chars[p + 1]? with
        | n + 1, some '\n' => gapFrom src false startsLine indent n (p + 2)
        | n + 1, some '\r' => gapFrom src false startsLine indent n (p + 2)
        | _, _ => ⟨p, startsLine, indent⟩
      else ⟨p, startsLine, indent⟩

def gapAt (src : Source) (p : Nat) : Gap := gapFrom src false false 0 (src.chars.size + 1 - p) p

/-- Where the comment at an offset ends. -/
def commentStop (src : Source) (p : Nat) : Nat := src.runStop (· ≠ '\n') p

/-- Where the line of a finished statement ends: behind a comment on the same line, if there is one. -/
def lineStop (src : Source) (p : Nat) : Nat :=
  let q := src.runStop (fun c => c = ' ' || c = '\t' || c = '\x0c') p
  if src.chars[q]? = some '#' then commentStop src q else p

/-- Where a block ends behind its last statement: comments that are indented like it still belong to it. -/
def blockStop (src : Source) (indent : Nat) : Nat → Nat → Nat
  | 0, p => p
  | n + 1, p =>
    match nextComment false 0 (src.chars.size - p) p with
    | some q => blockStop src indent n (commentStop src q)
    | none => p
where
  /-- A comment that comes next, on a line that is indented far enough. -/
  nextComment (startsLine : Bool) (width : Nat) : Nat → Nat → Option Nat
    | 0, _ => none
    | n + 1, q =>
      match src.chars[q]? with
      | some '\n' => nextComment true 0 n (q + 1)
      | some ' ' => nextComment startsLine (width + 1) n (q + 1)
      | some '\t' => nextComment startsLine (width + tabWidth) n (q + 1)
      | some '\r' => nextComment startsLine 0 n (q + 1)
      | some '\x0c' => nextComment startsLine 0 n (q + 1)
      | some '#' => if startsLine && indent ≤ width then some q else none
      | _ => none

/-! ## Tokens -/

/-- What a token is. -/
inductive TokenKind where
  | word
  | integer
  | float
  /-- The opening of a string, its letters included. -/
  | quote
  | sign
  /-- The end of what can be read here. -/
  | stop
deriving DecidableEq

/-- A token. -/
structure Token where
  kind : TokenKind
  text : String
  start : Nat
  stop : Nat
  startsLine : Bool
  indent : Nat

def Token.isSign (t : Token) (s : String) : Bool := t.kind = .sign && t.text = s

def Token.isWord (t : Token) (s : String) : Bool := t.kind = .word && t.text = s

/-- The signs, longer ones first. -/
def signs : List (List Char) :=
  (["**=", "//=", ">>=", "<<=", "...", "**", "//", ">>", "<<", "<=", ">=", "==", "!=", "<>", "->", ":=", "+=",
    "-=", "*=", "/=", "%=", "@=", "&=", "|=", "^="].map String.toList)
    ++ "+-*/%@&|^~<>()[]\x7b\x7d,:.;=!".toList.map fun c => [c]

def isStringLetter (c : Char) : Bool := c ∈ ['f', 'F', 'r', 'R', 'b', 'B', 'u', 'U']

/-- Is the character a mark of strings? -/
def isQuote (c : Char) : Bool := c = '"' || c = '\'' || c = Char.ofNat 0x60

/-- Where the opening of a string ends that begins at an offset, if there is one. -/
def quoteStop? (src : Source) (p : Nat) : Option Nat :=
  let q := src.runStop isStringLetter p
  match src.chars[q]? with
  | some c =>
    if !isQuote c then none
    else if c ≠ Char.ofNat 0x60 ∧ src.chars[q + 1]? = some c ∧ src.chars[q + 2]? = some c then some (q + 3)
    else some (q + 1)
  | none => none

/-- Where digits end that begin at an offset; each group of digits may be followed by one underscore. -/
def digitsStop (src : Source) (p : Nat) : Nat :=
  let q := src.runStop Char.isDigit p
  if p < q ∧ src.chars[q]? = some '_' then groups (src.chars.size - q) (q + 1) else q
where
  /-- More groups of digits. -/
  groups : Nat → Nat → Nat
    | 0, p => p
    | n + 1, p =>
      let q := src.runStop Char.isDigit p
      if q = p then p
      else if src.chars[q]? = some '_' then groups n (q + 1)
      else q

/-- Is the character a digit of base sixteen? -/
def isHexDigit (c : Char) : Bool := c.isDigit || ('a' ≤ c && c ≤ 'f') || ('A' ≤ c && c ≤ 'F')

/-- Where the exponent ends that may begin at an offset. -/
def exponentStop (src : Source) (p : Nat) : Nat :=
  if src.chars[p]? = some 'e' ∨ src.chars[p]? = some 'E' then
    let signed := src.chars[p + 1]? = some '+' ∨ src.chars[p + 1]? = some '-'
    let q := if signed then p + 2 else p + 1
    let r := digitsStop src q
    if q < r then r else p
  else p

/-- Where a suffix letter ends that may stand at an offset. -/
def suffixStop (src : Source) (letters : List Char) (p : Nat) : Nat :=
  if (src.chars[p]?).any (· ∈ letters) then p + 1 else p

/-- Where a number with a base mark ends. -/
def basedStop? (src : Source) (p : Nat) : Option Nat :=
  let digits (f : Char → Bool) : Option Nat :=
    let q := src.runStop (fun c => f c || c = '_') (p + 2)
    if q = p + 2 then none else some (suffixStop src ['L', 'l'] q)
  match src.chars[p]?, (src.chars[p + 1]?).map Char.toLower with
  | some '0', some 'x' => digits isHexDigit
  | some '0', some 'o' => digits fun c => '0' ≤ c && c ≤ '7'
  | some '0', some 'b' => digits fun c => c = '0' || c = '1'
  | _, _ => none

/-- The kind and the end of the number at an offset. -/
def number (src : Source) (p : Nat) : TokenKind × Nat :=
  match basedStop? src p with
  | some q => (.integer, q)
  | none =>
    let whole := digitsStop src p
    let fraction := if src.chars[whole]? = some '.' then digitsStop src (whole + 1) else whole
    let stop := exponentStop src fraction
    (if stop = whole then .integer else .float, suffixStop src ['L', 'l', 'J', 'j'] stop)

/-- The sign at an offset. -/
def signAt? (src : Source) (p : Nat) : Option (List Char) :=
  let next := (src.chars.extract p (p + 3)).toList
  signs.find? fun s => s.isPrefixOf next

/-- The token that begins at the end of a gap. -/
def tokenAfter (src : Source) (g : Gap) : Token :=
  let p := g.stop
  let make (kind : TokenKind) (q : Nat) : Token := ⟨kind, src.slice p q, p, q, g.startsLine, g.indent⟩
  let isDigitAt (q : Nat) : Bool := (src.chars[q]?).any Char.isDigit
  match src.chars[p]? with
  | none => make .stop p
  | some c =>
    match quoteStop? src p with
    | some q => make .quote q
    | none =>
      if c = '_' ∨ Unicode.isIdentifierStart c then
        make .word (src.runStop (fun c => c = '_' || Unicode.isIdentifierPart c) p)
      else if c.isDigit ∨ (c = '.' ∧ isDigitAt (p + 1)) then
        let (kind, q) := number src p
        make kind q
      else match signAt? src p with
        | some s => make .sign (p + s.length)
        | none => make .stop p

/-- The next token from an offset on. -/
def tokenAt (src : Source) (p : Nat) : Token := tokenAfter src (gapAt src p)

/-! ## Comments -/

/-- The comments and joined line ends in a gap between tokens. -/
def extras (src : Source) (start stop : Nat) : List Node :=
  go (stop - start) start
where
  /-- Those from an offset on. -/
  go : Nat → Nat → List Node
    | 0, _ => []
    | n + 1, p =>
      match src.chars[p]? with
      | some '#' =>
        let q := commentStop src p
        .leaf "comment" p q :: go n q
      | some '\\' =>
        let q := if src.chars[p + 1]? = some '\r' then p + 3 else p + 2
        .leaf "line_continuation" p q :: go n q
      | some _ => if p < stop then go n (p + 1) else []
      | none => []

end CodeAtlas.Syntax.Python
