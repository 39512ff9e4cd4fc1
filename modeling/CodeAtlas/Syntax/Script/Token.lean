import CodeAtlas.Syntax.Reading
import CodeAtlas.Text.Blank

set_option autoImplicit false

/-! # Tokens of JavaScript and TypeScript

A token is read at any offset of a source, after blanks and comments. Where a statement has no semicolon,
one is supplied if the line ends and the next one cannot go on with it. -/

namespace CodeAtlas.Syntax.Script

/-- Which language is read. -/
structure Dialect where
  /-- With the types of TypeScript. -/
  typed : Bool
  /-- With markup elements in expressions. -/
  markup : Bool

/-! ## Between tokens -/

/-- Does the character end a line, and with it a comment? -/
def endsLine (c : Char) : Bool := c = '\n' || c = '\r' || c = '\u2028' || c = '\u2029'

/-- May the character stand between tokens? -/
def isSpace (c : Char) : Bool := Text.isBlank c || c = '\u2060' || c = '\u200b'

/-- Where a comment between marks ends; `p` lies behind its opening mark. -/
def blockCommentStop? (src : Source) : Nat → Nat → Option Nat
  | 0, _ => none
  | n + 1, p =>
    match src.chars[p]?, src.chars[p + 1]? with
    | some '*', some '/' => some (p + 2)
    | some _, _ => blockCommentStop? src n (p + 1)
    | none, _ => none

/-- Where the comment at an offset ends, if there is one. -/
def commentStop? (src : Source) (p : Nat) : Option Nat :=
  match src.chars[p]?, src.chars[p + 1]? with
  | some '/', some '/' => some (src.runStop (!endsLine ·) p)
  | some '/', some '*' => blockCommentStop? src (src.chars.size - p) (p + 2)
  | _, _ => none

/-- The end of the blanks and comments that begin at an offset; `n` bounds the number of comments. -/
def gapStopFrom (src : Source) : Nat → Nat → Nat
  | 0, p => src.runStop isSpace p
  | n + 1, p =>
    let q := src.runStop isSpace p
    match commentStop? src q with
    | some r => gapStopFrom src n r
    | none => q

/-- The end of the blanks and comments that begin at an offset. -/
def gapStop (src : Source) (p : Nat) : Nat := gapStopFrom src (src.chars.size - p) p

/-- The comments in a gap between tokens. -/
def extras (src : Source) (start stop : Nat) : List Node := go (stop - start) start
where
  /-- Those from an offset on. -/
  go : Nat → Nat → List Node
    | 0, _ => []
    | n + 1, p =>
      let q := src.runStop isSpace p
      match if q < stop then commentStop? src q else none with
      | some r => .leaf "comment" q r :: go n r
      | none => []

/-! ## Tokens -/

/-- What a token is. -/
inductive TokenKind where
  | word
  /-- A name with a number sign before it. -/
  | privateName
  | number
  | string
  /-- The opening mark of a template. -/
  | template
  | sign
  /-- The end of what can be read here. -/
  | stop
deriving DecidableEq

/-- A token. -/
structure Token where
  kind : TokenKind
  text : String
  start : Nat
  stop : Nat

def Token.isSign (t : Token) (s : String) : Bool := t.kind = .sign && t.text = s

def Token.isWord (t : Token) (s : String) : Bool := t.kind = .word && t.text = s

/-- The signs, longer ones first. -/
def signs : List (List Char) :=
  ([">>>=", "...", "===", "!==", "**=", "<<=", ">>=", ">>>", "&&=", "||=", "??=", "=>", "==", "!=", "<=", ">=",
    "&&", "||", "??", "?.", "++", "--", "+=", "-=", "*=", "/=", "%=", "&=", "|=", "^=", "<<", ">>",
    "**"].map String.toList)
    ++ "\x7b\x7d()[];,<>+-*/%&|^!~?:=.@".toList.map fun c => [c]

def templateMark : Char := Char.ofNat 0x60

/-- Characters that no name holds. -/
def nonNameChars : List Char := templateMark :: ":;\"'@#.,|^&<=>+-*/%?!~()[]\x7b\x7d".toList

def isNamePart (c : Char) : Bool := 0x20 < c.toNat && !isSpace c && !nonNameChars.contains c

def startsName (c : Char) : Bool := isNamePart c && !c.isDigit

/-- Where the string that begins at an offset ends. -/
def stringStop? (src : Source) (mark : Char) : Nat → Nat → Option Nat
  | 0, _ => none
  | n + 1, p =>
    match src.chars[p]? with
    | none => none
    | some '\\' => stringStop? src mark n (p + 2)
    | some c =>
      if c = mark then some (p + 1)
      else if c = '\n' ∨ c = '\r' then none
      else stringStop? src mark n (p + 1)

/-- Is the character a digit, or an underscore between digits? -/
def isDigitPart (c : Char) : Bool := c.isDigit || c = '_'

/-- Where the number that begins at an offset ends. -/
def numberStop (src : Source) (p : Nat) : Nat :=
  let base := (src.chars[p + 1]?).any fun c => c ∈ ['x', 'X', 'o', 'O', 'b', 'B']
  if src.chars[p]? = some '0' ∧ base then src.runStop (fun c => c.isAlphanum || c = '_') (p + 2)
  else
    let whole := src.runStop isDigitPart p
    let fraction := if src.chars[whole]? = some '.' then src.runStop isDigitPart (whole + 1) else whole
    let hasExponent := src.chars[fraction]? = some 'e' ∨ src.chars[fraction]? = some 'E'
    let signed := src.chars[fraction + 1]? = some '+' ∨ src.chars[fraction + 1]? = some '-'
    let digits := if signed then fraction + 2 else fraction + 1
    let stop := if hasExponent then src.runStop isDigitPart digits else fraction
    if src.chars[stop]? = some 'n' then stop + 1 else stop

/-- The sign at an offset. A question mark and a point before a digit are two signs. -/
def signAt? (src : Source) (p : Nat) : Option (List Char) :=
  let next := (src.chars.extract p (p + 4)).toList
  let found := signs.find? fun s => s.isPrefixOf next
  if found = some ['?', '.'] ∧ (src.chars[p + 2]?).any Char.isDigit then some ['?'] else found

/-- The token that begins at an offset. -/
def tokenFrom (src : Source) (p : Nat) : Token :=
  let make (kind : TokenKind) (q : Nat) : Token := ⟨kind, src.slice p q, p, q⟩
  match src.chars[p]? with
  | none => make .stop p
  | some c =>
    if startsName c then make .word (src.runStop isNamePart p)
    else if c.isDigit ∨ (c = '.' ∧ (src.chars[p + 1]?).any Char.isDigit) then make .number (numberStop src p)
    else if c = '"' ∨ c = '\'' then
      match stringStop? src c (src.chars.size - p) (p + 1) with
      | some q => make .string q
      | none => make .stop p
    else if c = templateMark then make .template (p + 1)
    else if c = '#' ∧ (src.chars[p + 1]?).any startsName then
      make .privateName (src.runStop isNamePart (p + 1))
    else match signAt? src p with
      | some s => make .sign (p + s.length)
      | none => make .stop p

/-- The next token from an offset on. -/
def tokenAt (src : Source) (p : Nat) : Token := tokenFrom src (gapStop src p)

/-! ## Supplied semicolons -/

/-- Where one may or may not be supplied. -/
inductive Ending where
  /-- Nowhere: between brackets. -/
  | never
  /-- Behind an expression. -/
  | expression
  /-- Where no operator could follow, as behind a type. -/
  | other
deriving DecidableEq

/-- Does a line that begins at an offset go on with the statement of the line before it? -/
def goesOn (d : Dialect) (ending : Ending) (src : Source) (p : Nat) : Bool :=
  let at' (q : Nat) : Option Char := src.chars[q]?
  let isLetterAt (q : Nat) : Bool := (at' q).any Char.isAlpha
  match at' p with
  | none => false
  | some c =>
    if c ∈ (templateMark :: ",:;*%><=?^|&/".toList) then true
    else if c = '.' then d.typed || !(at' (p + 1)).any Char.isDigit
    else if c = '(' ∨ c = '[' then !d.typed || ending = .expression
    else if c = '+' then at' (p + 1) ≠ some '+'
    else if c = '-' then at' (p + 1) ≠ some '-'
    else if c = '!' then at' (p + 1) = some '='
    else if c = 'i' ∧ at' (p + 1) = some 'n' then
      !isLetterAt (p + 2) || ("instanceof".toList.isPrefixOf (src.chars.extract p (p + 10)).toList
        && !isLetterAt (p + 10))
    else false

/-- Blanks and comments from an offset on; none if they end at a slash that begins no comment. -/
def lineGapStop? (src : Source) (p : Nat) : Option Nat :=
  let q := gapStop src p
  if src.chars[q]? = some '/' then none else some q

/-- Is a semicolon supplied right at an offset? -/
def isSupplied (d : Dialect) (ending : Ending) (src : Source) (p : Nat) : Bool :=
  let q := src.runStop (fun c => isSpace c && c ≠ '\n' && c ≠ '\u2028' && c ≠ '\u2029') p
  match src.chars[q]? with
  | none => true
  | some '\x7d' =>
    if d.typed ∧ src.chars[src.runStop isSpace (q + 1)]? = some ':' then ending = .expression else true
  | some '/' =>
    if d.typed then false
    else match lineGapStop? src q with
      | none => false
      | some r =>
        let next := src.chars[r]?
        (ending = .other && next ≠ some ',' && next ≠ some '=') || next = some '\x7d'
  | some c =>
    if c = '\n' ∨ c = '\u2028' ∨ c = '\u2029' then
      match lineGapStop? src (q + 1) with
      | some r => !goesOn d ending src r
      | none => false
    else false

/-- Where a semicolon is supplied behind an offset: there, or behind a comment that follows. -/
def suppliedFrom (d : Dialect) (ending : Ending) (src : Source) : Nat → Nat → Option Nat
  | 0, _ => none
  | n + 1, p =>
    if isSupplied d ending src p then some p
    else (commentStop? src (src.runStop isSpace p)).bind (suppliedFrom d ending src n)

/-- Where a semicolon is supplied behind an offset, if it is. -/
def supplied? (d : Dialect) (ending : Ending) (src : Source) (p : Nat) : Option Nat :=
  if ending = .never then none else suppliedFrom d ending src (src.chars.size + 1 - p) p

end CodeAtlas.Syntax.Script
