import CodeAtlas.Text.Units
import CodeAtlas.Unicode.NamedCharacter

set_option autoImplicit false

/-! # Cells of a Markdown text

Markdown counts columns, and a tab reaches to the next tab stop. A line is therefore a list of cells: a
character, a tab, or one of the columns that a tab fills. Line ends are cells of texts that span lines. -/

namespace CodeAtlas.Markdown

/-- One column of a text, or the end of a line. -/
inductive Cell where
  | char (c : Char)
  | tab
  | fill
  | lineEnd (s : String)
deriving DecidableEq

namespace Cell

/-- A blank column. -/
def isSpace : Cell → Bool
  | char c => c = ' '
  | tab => true
  | fill => true
  | lineEnd _ => false

/-- The end of a line. -/
def isEnd : Cell → Bool
  | lineEnd _ => true
  | _ => false

/-- A blank column or the end of a line. -/
def isGap (c : Cell) : Bool := c.isSpace || c.isEnd

/-- Is the cell that character? -/
def is (c : Cell) (x : Char) : Bool := c = char x

/-- The character of a cell that holds one. -/
def char? : Cell → Option Char
  | char c => some c
  | _ => none

/-- Does the cell hold a character that satisfies `p`? -/
def has (p : Char → Bool) (c : Cell) : Bool := c.char?.any p

end Cell

/-- The characters of cells; what a tab fills belongs to the tab, unless the tab itself was cut off. -/
def charsOf (afterTab : Bool) : List Cell → List Char
  | [] => []
  | .char c :: rest => c :: charsOf false rest
  | .tab :: rest => '\t' :: charsOf true rest
  | .fill :: rest => if afterTab then charsOf true rest else ' ' :: charsOf false rest
  | .lineEnd s :: rest => s.toList ++ charsOf false rest

def textOf (cells : List Cell) : String := String.ofList (charsOf false cells)

/-! ## Lines -/

/-- A line: its cells, and the text that ends it. -/
structure Line where
  cells : List Cell
  ending : Option String

def tabSize : Nat := 4

/-- The cells of a line from a column on; columns count from zero. -/
def cellsFrom (column : Nat) : List Char → List Cell
  | [] => []
  | '\t' :: rest =>
    let width := tabSize - column % tabSize
    .tab :: List.replicate (width - 1) .fill ++ cellsFrom (column + width) rest
  | c :: rest => .char (if c.toNat = 0 then '\ufffd' else c) :: cellsFrom (column + Text.width c) rest

/-- The lines of a text; `done` is what was read of the current one, reversed. A line feed, a carriage
    return or both end a line. -/
def linesFrom (done : List Char) : List Char → List Line
  | [] => if done.isEmpty then [] else [⟨cellsFrom 0 done.reverse, none⟩]
  | '\r' :: '\n' :: rest => ⟨cellsFrom 0 done.reverse, some "\r\n"⟩ :: linesFrom [] rest
  | '\r' :: rest => ⟨cellsFrom 0 done.reverse, some "\r"⟩ :: linesFrom [] rest
  | '\n' :: rest => ⟨cellsFrom 0 done.reverse, some "\n"⟩ :: linesFrom [] rest
  | c :: rest => linesFrom (c :: done) rest

/-- The lines of a text, a byte-order mark at its start left out. -/
def linesOf (s : String) : List Line :=
  match s.toList with
  | '\ufeff' :: rest => linesFrom [] rest
  | cs => linesFrom [] cs

/-! ## Small readings -/

/-- How many blank columns a list of cells starts with. -/
def indentOf (cells : List Cell) : Nat := (cells.takeWhile Cell.isSpace).length

/-- The cells without the blank columns at the start. -/
def dropSpaces (cells : List Cell) : List Cell := cells.dropWhile Cell.isSpace

/-- The cells without at most `n` blank columns at the start. -/
def dropIndent (n : Nat) (cells : List Cell) : List Cell := cells.drop (min n (indentOf cells))

/-- Are there only blank columns? -/
def isBlankLine (cells : List Cell) : Bool := cells.all Cell.isSpace

/-- The number of cells at the start that hold the character. -/
def runLength (x : Char) (cells : List Cell) : Nat := (cells.takeWhile (·.is x)).length

theorem runLength_le (x : Char) (cells : List Cell) : runLength x cells ≤ cells.length :=
  (List.takeWhile_prefix (fun c : Cell => c.is x)).length_le

/-- Is the character ASCII punctuation? -/
def isAsciiPunctuation (c : Char) : Bool :=
  let n := c.toNat
  (33 ≤ n && n ≤ 47) || (58 ≤ n && n ≤ 64) || (91 ≤ n && n ≤ 96) || (123 ≤ n && n ≤ 126)

/-- Is the cell a control character of ASCII, or a line end or tab? -/
def isControl : Cell → Bool
  | .char c => c.toNat < 32 || c.toNat = 127
  | _ => true

/-! ## Character references -/

/-- The character of a number; what may not be written becomes the replacement character. -/
def numbered (n : Nat) : Char :=
  let refused := n < 9 || n = 11 || (13 < n && n < 32) || (126 < n && n < 160)
    || (0xd7ff < n && n < 0xe000) || (0xfdcf < n && n < 0xfdf0)
    || n % 0x10000 = 0xffff || n % 0x10000 = 0xfffe || 0x10ffff < n
  if refused then '\ufffd' else Char.ofNat n

/-- The characters at the start that satisfy `p`, at most `limit`. -/
def leading (p : Char → Bool) : Nat → List Cell → List Char
  | 0, _ => []
  | _, [] => []
  | limit + 1, c :: rest =>
    match c with
    | .char x => if p x then x :: leading p limit rest else []
    | _ => []

def isHexDigit (c : Char) : Bool := c.isDigit || ('a' ≤ c && c ≤ 'f') || ('A' ≤ c && c ≤ 'F')

/-- The number that digits spell. -/
def digitsValue (base : Nat) (ds : List Char) : Nat :=
  ds.foldl (fun n c =>
    base * n + (if c.isDigit then c.toNat - 48 else c.toLower.toNat - 87)) 0

/-- The rest after a body of `n` cells and a semicolon; an empty body does not count. -/
def afterSemicolon? (n : Nat) (cells : List Cell) : Option (List Cell) :=
  if n = 0 then none
  else match cells.drop n with
    | .char ';' :: rest => some rest
    | _ => none

/-- The characters of a reference after its ampersand, and what follows it. -/
def reference? (cells : List Cell) : Option (String × List Cell) :=
  let numeric (base : Nat) (p : Char → Bool) (limit : Nat) (body : List Cell) :=
    let ds := leading p limit body
    (afterSemicolon? ds.length body).map fun rest => ((numbered (digitsValue base ds)).toString, rest)
  match cells with
  | .char '#' :: .char 'x' :: body => numeric 16 isHexDigit 6 body
  | .char '#' :: .char 'X' :: body => numeric 16 isHexDigit 6 body
  | .char '#' :: body => numeric 10 Char.isDigit 7 body
  | body =>
    let name := leading Char.isAlphanum 31 body
    match afterSemicolon? name.length body, Unicode.namedCharacter? (String.ofList name) with
    | some rest, some s => some (s, rest)
    | _, _ => none

/-- A text with its escapes and character references resolved. -/
def resolved : Nat → List Cell → String
  | 0, cells => textOf cells
  | fuel + 1, cells =>
    let plain := cells.takeWhile fun c => !c.is '\\' && !c.is '&'
    textOf plain ++
      match cells.drop plain.length with
      | [] => ""
      | .char '&' :: rest =>
        match reference? rest with
        | some (s, rest) => s ++ resolved fuel rest
        | none => "&" ++ resolved fuel rest
      | .char '\\' :: .char c :: rest =>
        if isAsciiPunctuation c then c.toString ++ resolved fuel rest
        else "\\" ++ resolved fuel (.char c :: rest)
      | c :: rest => textOf [c] ++ resolved fuel rest

/-- A text with its escapes and character references resolved. -/
def stringOf (cells : List Cell) : String := resolved cells.length cells

end CodeAtlas.Markdown
