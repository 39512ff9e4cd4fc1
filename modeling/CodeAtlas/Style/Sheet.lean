import CodeAtlas.Style.Token
import CodeAtlas.Unicode.LowerCase

set_option autoImplicit false

/-! # Style sheets

A style sheet is a list of rules, at-rules, declarations and comments; rules and at-rules may hold such a
list again. Every node knows the stretch of text it spans. -/

namespace CodeAtlas.Style

/-- A node of a style sheet. Offsets count characters; `stop` is the offset after the node. -/
inductive SheetNode where
  | comment
  | declaration (property value : String) (start stop : Nat)
  /-- An at-rule; it may lack a block, and an end of its own. -/
  | atRule (name parameters : String) (start : Nat) (stop : Option Nat) (children : List SheetNode)
  /-- A rule; `ended` says that a semicolon after it belongs to it. -/
  | rule (selector : String) (start stop : Nat) (ended : Bool) (children : List SheetNode)
deriving Inhabited

/-! ## Texts of tokens -/

def dropFillerEnd (ts : List Token) : List Token := (ts.reverse.dropWhile Token.isFiller).reverse

def dropFillerStart (ts : List Token) : List Token := ts.dropWhile Token.isFiller

/-- Is there nothing, or white space, on that side of a comment? -/
def isLoose (t : Option Token) : Bool := t.all fun t => t.kind = .space

/-- The text of tokens, comments left out. A comment stays if it touches other tokens on both sides and
    no comma precedes it; white space at the very end stays only with `keepEnd`. -/
def cleanText (keepEnd : Bool) (before : Option Token) (out : List Char) : List Token → List Char
  | [] => out
  | t :: rest =>
    let next :=
      if t.kind = .space ∧ rest = [] ∧ !keepEnd then out
      else if t.kind = .comment then
        if !isLoose before && !isLoose rest.head? && out.getLast? ≠ some ',' then out ++ t.chars else out
      else out ++ t.chars
    cleanText keepEnd (some t) next rest

/-- The text of tokens without comments. -/
def clean (keepEnd : Bool) (ts : List Token) : String := String.ofList (cleanText keepEnd none [] ts)

/-! ## Declarations -/

/-- The defect of a token that is out of place. -/
def unknownWord (t : Token) : Defect :=
  ⟨"Unknown word " ++ t.text, if t.kind = .space then none else some t.start⟩

/-- Tokens up to the first word. A list without words is at fault. -/
def dropToWord : List Token → Except Defect (List Token)
  | [] => .ok []
  | t :: rest =>
    if t.kind = .word then .ok (t :: rest)
    else if rest = [] then .error (unknownWord t)
    else dropToWord rest

/-- Does the token end a property name? -/
def endsProperty (t : Token) : Bool := t.isSign ':' || t.isFiller

/-- Does the text hold a Latin letter, a digit or an underscore? -/
def hasWordChar (cs : List Char) : Bool := cs.any fun c => c.isAlphanum || c = '_'

/-- The tokens after the colon of a declaration; between name and colon no word may stand. -/
def afterColon : List Token → Except Defect (List Token)
  | [] => .ok []
  | t :: rest =>
    if t.isSign ':' then .ok rest
    else if t.kind = .word ∧ hasWordChar t.chars then .error (unknownWord t)
    else afterColon rest

/-- Does a text begin with an exclamation mark, blanks aside? -/
def beginsWithMark (cs : List Char) : Bool := (cs.dropWhile Text.isBlank).head? = some '!'

/-- Take tokens off the end, counting places down from `i`, until the text taken begins with an
    exclamation mark; the text and what is left. `kinds` are the tokens by place. -/
def takeImportance (kinds : List Token) : Nat → List Char → List Token → List Char × List Token
  | 0, text, left => (text, left)
  | i + 1, text, left =>
    if beginsWithMark text ∧ (kinds[i + 1]?).all (·.kind ≠ .space) then (text, left)
    else
      match left.getLast? with
      | none => (text, left)
      | some t => takeImportance kinds i (t.chars ++ text) left.dropLast

/-- The value without a mark of importance at its end. `i` counts the tokens still to look at. -/
def dropImportance (ts : List Token) : Nat → List Token
  | 0 => ts
  | i + 1 =>
    match ts[i]? with
    | none => ts
    | some t =>
      let word := Unicode.lower t.text
      if word = "!important" then
        ((ts.take i).reverse.dropWhile (·.kind = .space)).reverse
      else
        let ts := if word = "important" then
            let (text, left) := takeImportance ts i [] ts
            if beginsWithMark text then left else ts
          else ts
        if t.isFiller then dropImportance ts i else ts

/-- The index of a colon outside parentheses; one at the very start is at fault. -/
def colonIndex (depth : Int) (i : Nat) (before : Option Token) : List Token → Except Defect (Option Nat)
  | [] => .ok none
  | t :: rest =>
    let depth := if t.isSign '(' then depth + 1 else if t.isSign ')' then depth - 1 else depth
    if depth = 0 ∧ t.isSign ':' then
      match before with
      | none => .error ⟨"Double colon", some t.start⟩
      | some p =>
        if p.kind = .word ∧ p.text = "progid" then colonIndex depth (i + 1) before rest
        else .ok (some i)
    else colonIndex depth (i + 1) (some t) rest

/-- The place where a semicolon is missing before a colon: after the word that precedes the last name. -/
def missedSemicolon (ts : List Token) (colon : Nat) : Defect :=
  let before := (ts.take colon).reverse
  let solid := before.filter (·.kind ≠ .space)
  let t := match solid with
    | _ :: t :: _ => some t
    | _ => ts.head?
  ⟨"Missed semicolon", t.map fun t => if t.kind = .word then t.stop else t.start⟩

/-- Refuse a value in which a second declaration begins. -/
def checkColons (value : String) (ts : List Token) : Except Defect Unit :=
  if ':' ∈ value.toList then do
    match ← colonIndex 0 0 none ts with
    | some i => .error (missedSemicolon ts i)
    | none => .ok ()
  else .ok ()

/-- The offset after the last token that is not white space. -/
def declarationStop (ts : List Token) : Nat :=
  match ts.reverse.find? (·.kind ≠ .space) with
  | some t => t.stop
  | none => 0

/-- The declaration that tokens spell, a closing semicolon included. -/
def declaration (custom : Bool) (all : List Token) : Except Defect SheetNode := do
  let ts := match all.getLast? with
    | some t => if t.isSign ';' then all.dropLast else all
    | none => all
  let ts ← dropToWord ts
  let start := (ts.head?.map Token.start).getD 0
  let property := (ts.takeWhile (!endsProperty ·)).flatMap Token.chars
  let property := match property with
    | '_' :: rest => rest
    | '*' :: rest => rest
    | cs => cs
  let afterName ← afterColon (ts.dropWhile (!endsProperty ·))
  let value := dropFillerStart afterName
  let filler := afterName.take (afterName.length - value.length)
  let value := dropImportance value value.length
  let shown := if value.any (!·.isFiller) then value else filler ++ value
  let text := clean custom shown
  if !custom then checkColons text value
  return .declaration (String.ofList property) text start (declarationStop all)

/-! ## Rules and declarations -/

/-- How the tokens of a rule or a declaration end. -/
inductive Ending where
  /-- With an opening brace, which is left out. -/
  | brace
  | semicolon
  /-- Before a closing brace. -/
  | closing
  | endOfText

/-- The tokens of a rule or a declaration, and what follows. -/
structure Head where
  tokens : List Token
  colon : Bool
  ending : Ending
  rest : List Item

/-- The brackets that are open: what closes them, and the first of them. -/
structure Brackets where
  closers : List Char := []
  first : Option Token := none

def Brackets.push (b : Brackets) (closer : Char) (t : Token) : Brackets :=
  ⟨closer :: b.closers, b.first.or (some t)⟩

/-- One bracket less. -/
def Brackets.pop (b : Brackets) : Brackets :=
  match b.closers.drop 1 with
  | [] => {}
  | cs => { b with closers := cs }

/-- What closes the bracket that a token opens, if it opens one. -/
def closer? (braces : Bool) (t : Token) : Option Char :=
  if t.isSign '(' then some ')'
  else if t.isSign '[' then some ']'
  else if braces ∧ t.isSign '\x7b' then some '\x7d'
  else none

/-- Collect the tokens of a rule or a declaration. In a custom property braces nest in the value. -/
def collectHead (custom : Bool) (done : List Token) (colon : Bool) (b : Brackets) :
    List Item → Except Defect Head
  | [] =>
    match b.first with
    | some t => .error ⟨"Unclosed bracket", some t.start⟩
    | none => .ok ⟨done.reverse, colon, .endOfText, []⟩
  | .error d :: _ => .error d
  | .ok t :: rest =>
    match closer? (custom && colon) t with
    | some c => collectHead custom (t :: done) colon (b.push c t) rest
    | none =>
      if b.closers = [] then
        if t.isSign ';' then .ok ⟨(t :: done).reverse, colon, .semicolon, rest⟩
        else if t.isSign '\x7b' then .ok ⟨done.reverse, colon, .brace, rest⟩
        else if t.isSign '\x7d' then .ok ⟨done.reverse, colon, .closing, .ok t :: rest⟩
        else collectHead custom (t :: done) (colon || t.isSign ':') b rest
      else if b.closers.head?.any t.isSign then collectHead custom (t :: done) colon b.pop rest
      else collectHead custom (t :: done) colon b rest

/-! ## At-rules -/

/-- The tokens between the name of an at-rule and its end. -/
def collectParameters (done : List Token) (closers : List Char) : List Item → Except Defect Head
  | [] => .ok ⟨done.reverse, false, .endOfText, []⟩
  | .error d :: _ => .error d
  | .ok t :: rest =>
    let closers := match closer? (closers ≠ []) t with
      | some c => c :: closers
      | none => if closers.head?.any t.isSign then closers.drop 1 else closers
    if closers = [] then
      if t.isSign ';' then .ok ⟨(t :: done).reverse, false, .semicolon, rest⟩
      else if t.isSign '\x7b' then .ok ⟨done.reverse, false, .brace, rest⟩
      else if t.isSign '\x7d' then .ok ⟨done.reverse, false, .closing, .ok t :: rest⟩
      else collectParameters (t :: done) closers rest
    else collectParameters (t :: done) closers rest

/-- The last token that is not white space. -/
def lastSolid (ts : List Token) : Option Token := ts.reverse.find? (·.kind ≠ .space)

/-- The parameters of an at-rule, and where it ends if it has no block. -/
def Head.parameters (h : Head) : String × Option Nat :=
  match h.ending with
  | .semicolon => (text h.tokens.dropLast, (h.tokens.getLast?).map Token.stop)
  | .closing => (text h.tokens, (lastSolid h.tokens).map Token.stop)
  | .endOfText => (text h.tokens, ((dropFillerEnd h.tokens).getLast?).map Token.stop)
  | .brace => (text h.tokens, none)
where
  /-- The text of the tokens without filler at either end. -/
  text (ts : List Token) : String := clean false (dropFillerStart (dropFillerEnd ts))

/-! ## Blocks -/

/-- A rule before a semicolon takes the semicolon in. -/
def takeSemicolon (t : Token) : List SheetNode → List SheetNode
  | .rule selector start _ false children :: rest => .rule selector start t.stop true children :: rest
  | done => done

/-- A finished block: its nodes, the offset of its closing brace, and what follows. -/
structure Block where
  nodes : List SheetNode
  close : Nat
  rest : List Item

/-- The nodes of a block that was opened by the node starting at `opened`, or of the whole sheet. -/
def block : Nat → Option Nat → List SheetNode → List Item → Except Defect Block
  | 0, _, done, rest => .ok ⟨done.reverse, 0, rest⟩
  | _ + 1, opened, done, [] =>
    match opened with
    | some start => .error ⟨"Unclosed block", some start⟩
    | none => .ok ⟨done.reverse, 0, []⟩
  | _ + 1, _, _, .error d :: _ => .error d
  | fuel + 1, opened, done, .ok t :: rest =>
    if t.kind = .space then block fuel opened done rest
    else if t.kind = .comment then block fuel opened (.comment :: done) rest
    else if t.isSign ';' then block fuel opened (takeSemicolon t done) rest
    else if t.isSign '\x7d' then
      match opened with
      | some _ => .ok ⟨done.reverse, t.start, rest⟩
      | none => .error ⟨"Unexpected \x7d", some t.start⟩
    else if t.isSign '\x7b' then do
      let b ← block fuel (some t.start) [] rest
      block fuel opened (.rule "" t.start (b.close + 1) false b.nodes :: done) b.rest
    else if t.kind = .atWord then
      if t.chars = ['@'] then .error ⟨"At-rule without name", some t.start⟩
      else do
        let h ← collectParameters [] [] rest
        let name := String.ofList (t.chars.drop 1)
        let (parameters, stop) := h.parameters
        match h.ending with
        | .brace =>
          let b ← block fuel (some t.start) [] h.rest
          block fuel opened (.atRule name parameters t.start (some (b.close + 1)) b.nodes :: done) b.rest
        | _ => block fuel opened (.atRule name parameters t.start stop [] :: done) h.rest
    else do
      let custom := ['-', '-'].isPrefixOf t.chars
      let h ← collectHead custom [] false {} (.ok t :: rest)
      match h.ending with
      | .brace =>
        let b ← block fuel (some t.start) [] h.rest
        let selector := clean false (dropFillerEnd h.tokens)
        block fuel opened (.rule selector t.start (b.close + 1) false b.nodes :: done) b.rest
      | .semicolon =>
        if h.colon then
          block fuel opened ((← declaration custom h.tokens) :: done) h.rest
        else .error (unknownWord t)
      | _ =>
        if h.colon then
          let kept := if custom then h.tokens else dropFillerEnd h.tokens
          let comments := (h.tokens.drop kept.length).filter (·.kind = .comment)
          let done := (← declaration custom kept) :: done
          block fuel opened (comments.map (fun _ => SheetNode.comment) ++ done) h.rest
        else .error (unknownWord t)

def sheet (source : List Char) : Except Defect (List SheetNode) :=
  (block (source.length + 1) none [] (tokens source)).map (·.nodes)

/-! ## Selectors -/

/-- The state of cutting a selector list: parentheses open, the quote that is open, and whether a
    backslash precedes. -/
structure SelectorScan where
  depth : Nat := 0
  quote : Option Char := none
  escaped : Bool := false

/-- One character further. -/
def SelectorScan.step (s : SelectorScan) (c : Char) : SelectorScan :=
  if s.escaped then { s with escaped := false }
  else if c = '\\' then { s with escaped := true }
  else
    match s.quote with
    | some q => if c = q then { s with quote := none } else s
    | none =>
      if c = '"' ∨ c = '\'' then { s with quote := some c }
      else if c = '(' then { s with depth := s.depth + 1 }
      else if c = ')' then { s with depth := s.depth - 1 }
      else s

def SelectorScan.separates (s : SelectorScan) (c : Char) : Bool :=
  c = ',' && !s.escaped && s.quote.isNone && s.depth = 0

/-- The selectors of a list, blanks around them removed; empty ones before a comma are left out. -/
def selectorsFrom (s : SelectorScan) (current : List Char) : List Char → List String
  | [] => [Text.trim (String.ofList current.reverse)]
  | c :: rest =>
    if s.separates c then
      let others := selectorsFrom (s.step c) [] rest
      if current.isEmpty then others else Text.trim (String.ofList current.reverse) :: others
    else selectorsFrom (s.step c) (c :: current) rest

def selectors (selector : String) : List String := selectorsFrom {} [] selector.toList

end CodeAtlas.Style
