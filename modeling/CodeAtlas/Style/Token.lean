import CodeAtlas.Text.Blank

set_option autoImplicit false

/-! # Tokens of a style sheet

A style sheet is cut into white space, words, at-words, strings, comments, bracketed texts without
nested brackets or quotes, and the signs that give it structure. A string, comment or URL that is not
closed ends the tokens with a defect. -/

namespace CodeAtlas.Style

/-- What is wrong with a style sheet, and at which character. -/
structure Defect where
  reason : String
  offset : Option Nat
deriving DecidableEq

/-- The kinds of token. -/
inductive TokenKind where
  | space
  | word
  | atWord
  | text
  | comment
  /-- A pair of parentheses with what is between them. -/
  | brackets
  | sign
deriving DecidableEq

/-- A token, with the offset of its first character. -/
structure Token where
  kind : TokenKind
  chars : List Char
  start : Nat

namespace Token

def text (t : Token) : String := String.ofList t.chars

def last (t : Token) : Nat := t.start + t.chars.length - 1

/-- The offset after the token. -/
def stop (t : Token) : Nat := t.start + t.chars.length

def isSign (t : Token) (c : Char) : Bool := t.kind = .sign && t.chars = [c]

/-- Is the token white space or a comment? -/
def isFiller (t : Token) : Bool := t.kind = .space || t.kind = .comment

end Token

/-- White space between tokens. -/
def isSpace (c : Char) : Bool := c ∈ ['\n', ' ', '\r', '\t', '\x0c']

/-- The characters that are tokens by themselves; an opening parenthesis may start more. -/
def isSign (c : Char) : Bool := c ∈ ['[', ']', '\x7b', '\x7d', ':', ';', ')']

def endsAtWord (c : Char) : Bool :=
  isSpace c || c ∈ ['"', '#', '\'', '(', ')', '/', ';', '[', '\\', ']', '\x7b', '\x7d']

def endsWord (c : Char) : Bool :=
  isSpace c || c ∈ ['!', '"', '#', '\'', '(', ')', ':', ';', '@', '[', '\\', ']', '\x7b', '\x7d']

/-- The beginning of a list before the first character that satisfies `p`, or before a comment. -/
def wordRest : List Char → List Char
  | [] => []
  | '/' :: rest => if rest.head? = some '*' then [] else '/' :: wordRest rest
  | c :: rest => if endsWord c then [] else c :: wordRest rest

/-- The text up to and including the first mark that no odd run of backslashes precedes. -/
def throughMark (mark : Char) : Bool → List Char → Option (List Char)
  | _, [] => none
  | escaped, c :: rest =>
    if c = mark ∧ ¬ escaped then some [c]
    else (throughMark mark (c = '\\' && !escaped) rest).map (c :: ·)

/-- The text up to and including the end of a comment. -/
def throughCommentEnd : List Char → Option (List Char)
  | '*' :: '/' :: _ => some ['*', '/']
  | [] => none
  | c :: rest => (throughCommentEnd rest).map (c :: ·)

def isLineEnd (c : Char) : Bool := c ∈ ['\n', '\r', '\u2028', '\u2029']

/-- Does a bracketed text hold a line end, a quote, a parenthesis or a slash, other than as the first
    character of a line? -/
def isBadBracket : List Char → Bool
  | a :: b :: rest =>
    (!isLineEnd a && b ∈ ['\r', '\n', '"', '\'', '(', '/', '\\']) || isBadBracket (b :: rest)
  | _ => false

def isHexDigit (c : Char) : Bool := c.isDigit || ('a' ≤ c && c ≤ 'f') || ('A' ≤ c && c ≤ 'F')

/-- What an escape covers after its backslashes. -/
def escapedChars (cs : List Char) : List Char :=
  match cs with
  | [] => []
  | c :: rest =>
    if isHexDigit c then
      let digits := rest.takeWhile isHexDigit
      c :: digits ++ (rest.drop digits.length).takeWhile (· = ' ') |>.take (digits.length + 2)
    else [c]

/-- A word that begins with backslashes. -/
def backslashWord (cs : List Char) : List Char :=
  let slashes := cs.takeWhile (· = '\\')
  let rest := cs.drop slashes.length
  let escapes := slashes.length % 2 = 1 && rest.head?.all fun c => c ≠ '/' && !isSpace c
  slashes ++ if escapes then escapedChars rest else []

/-- A token of a kind, or a defect at its start. -/
abbrev Item := Except Defect Token

/-- The token that begins at an opening parenthesis. -/
def parenthesis (lastWord : Option (List Char)) (start : Nat) (rest : List Char) : Item :=
  let opensUrl := lastWord = some ['u', 'r', 'l']
    && !rest.head?.any fun c => c = '\'' || c = '"' || isSpace c
  if opensUrl then
    match throughMark ')' false rest with
    | some body => .ok ⟨.brackets, '(' :: body, start⟩
    | none => .error ⟨"Unclosed bracket", some start⟩
  else
    let body := '(' :: rest.takeWhile (· ≠ ')') ++ [')']
    if ')' ∉ rest ∨ isBadBracket body then .ok ⟨.sign, ['('], start⟩
    else .ok ⟨.brackets, body, start⟩

/-- The first token of a text that is not empty. -/
def firstToken (lastWord : Option (List Char)) (start : Nat) (c : Char) (rest : List Char) : Item :=
  if isSpace c then .ok ⟨.space, c :: rest.takeWhile isSpace, start⟩
  else if isSign c then .ok ⟨.sign, [c], start⟩
  else if c = '(' then parenthesis lastWord start rest
  else if c = '"' ∨ c = '\'' then
    match throughMark c false rest with
    | some body => .ok ⟨.text, c :: body, start⟩
    | none => .error ⟨"Unclosed string", some start⟩
  else if c = '@' then .ok ⟨.atWord, c :: rest.takeWhile (!endsAtWord ·), start⟩
  else if c = '\\' then .ok ⟨.word, backslashWord (c :: rest), start⟩
  else if c = '/' ∧ rest.head? = some '*' then
    match throughCommentEnd (rest.drop 1) with
    | some body => .ok ⟨.comment, '/' :: '*' :: body, start⟩
    | none => .error ⟨"Unclosed comment", some start⟩
  else .ok ⟨.word, c :: wordRest rest, start⟩

/-- The words that precede the next parenthesis, after a token: an opening parenthesis uses up the last
    one. -/
def wordsAfter (words : List (List Char)) (opened : Char) (t : Token) : List (List Char) :=
  if opened = '(' then words.drop 1
  else if t.kind = .word ∧ opened ≠ '\\' then t.chars :: words
  else words

/-- The tokens of a text, the last one perhaps a defect. -/
def tokensFrom : Nat → Nat → List (List Char) → List Char → List Item
  | _, _, _, [] => []
  | 0, _, _, _ => []
  | fuel + 1, start, words, c :: rest =>
    match firstToken words.head? start c rest with
    | .error d => [.error d]
    | .ok t =>
      .ok t :: tokensFrom fuel t.stop (wordsAfter words c t) ((c :: rest).drop t.chars.length)

def tokens (sheet : List Char) : List Item := tokensFrom sheet.length 0 [] sheet

end CodeAtlas.Style
