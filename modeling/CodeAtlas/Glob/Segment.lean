import CodeAtlas.Fault
import CodeAtlas.Text.Blank
import CodeAtlas.Text.Units
import CodeAtlas.Unicode.Category

set_option autoImplicit false

/-! # Patterns for one path segment

A segment pattern is a sequence of pieces: characters, `?`, `*`, character classes and groups of
alternatives such as `+(a|b)`. Patterns and names are compared in UTF-16 units, unless a named class asks
for whole characters.

Each pattern is also a regular expression, and one that asks for whole characters is strict about escapes: a
pattern with such a class and, say, a hyphen outside brackets cannot be compiled. -/

namespace CodeAtlas.Glob

/-- A member of a character class: a range, or a named class. -/
inductive ClassMember where
  | range (first last : Char)
  | named (name : String)

/-- Characters between brackets. -/
structure Bracket where
  negated : Bool
  members : List ClassMember

/-- How often a group may match. -/
inductive GroupKind where
  | exactlyOne
  | atMostOne
  | oneOrMore
  | anyNumber
  | noneOf
deriving DecidableEq

/-- A piece of a segment pattern. -/
inductive Piece where
  | char (c : Char)
  | anyChar
  | anyRun
  /-- A character of one of the brackets. -/
  | oneOf (brackets : List Bracket)
  | never
  | group (kind : GroupKind) (alternatives : List (List Piece))

/-! ## Units and characters -/

/-- The number of a unit or a character. -/
def scalar (c : Char) : Nat :=
  if Text.isCarrier c then c.toNat - Text.carrierBase + 0xd800 else c.toNat

/-- The character that two units make together. -/
def pair? (a b : Char) : Option Char :=
  if 0xd800 ≤ scalar a ∧ scalar a < 0xdc00 ∧ 0xdc00 ≤ scalar b ∧ scalar b < 0xe000 then
    some (Char.ofNat (0x10000 + (scalar a - 0xd800) * 0x400 + (scalar b - 0xdc00)))
  else none

/-- The first unit of a name, or its first character, and what follows. -/
def next? (whole : Bool) : List Char → Option (Char × List Char)
  | [] => none
  | [c] => some (c, [])
  | c :: d :: rest =>
    match if whole then pair? c d else none with
    | some e => some (e, rest)
    | none => some (c, d :: rest)

/-! ## Character classes -/

/-- The named classes, in the order they are tried. -/
def namedClasses : List String :=
  ["alnum", "alpha", "ascii", "blank", "cntrl", "digit", "graph", "lower", "print", "punct", "space",
    "upper", "word", "xdigit"]

/-- What a named class stands for in a regular expression. -/
def classSource (name : String) : String :=
  match name with
  | "alnum" => "\\p\x7bL\x7d\\p\x7bNl\x7d\\p\x7bNd\x7d"
  | "alpha" => "\\p\x7bL\x7d\\p\x7bNl\x7d"
  | "ascii" => "\\x00-\\x7f"
  | "blank" => "\\p\x7bZs\x7d\\t"
  | "cntrl" => "\\p\x7bCc\x7d"
  | "digit" => "\\p\x7bNd\x7d"
  | "graph" => "\\p\x7bZ\x7d\\p\x7bC\x7d"
  | "lower" => "\\p\x7bLl\x7d"
  | "print" => "\\p\x7bC\x7d"
  | "punct" => "\\p\x7bP\x7d"
  | "space" => "\\p\x7bZ\x7d\\t\\r\\n\\v\\f"
  | "upper" => "\\p\x7bLu\x7d"
  | "word" => "\\p\x7bL\x7d\\p\x7bNl\x7d\\p\x7bNd\x7d\\p\x7bPc\x7d"
  | _ => "A-Fa-f0-9"

def isLetter (k : Unicode.Category) : Bool :=
  k = .upperLetter || k = .lowerLetter || k = .otherLetter || k = .letterNumber

def isSeparator (k : Unicode.Category) : Bool := k = .space || k = .separator

def isUnseen (k : Unicode.Category) : Bool := k = .control || k = .unseen

/-- Membership in a named class, by the general category. The class of visible characters is listed by what
    it leaves out. -/
def inNamedClass (name : String) (c : Char) : Bool :=
  let k := Unicode.category c
  match name with
  | "alnum" => isLetter k || k = .digit
  | "alpha" => isLetter k
  | "ascii" => c.toNat < 0x80
  | "blank" => k = .space || c = '\t'
  | "cntrl" => k = .control
  | "digit" => k = .digit
  | "graph" => isSeparator k || isUnseen k
  | "lower" => k = .lowerLetter
  | "print" => isUnseen k
  | "punct" => k = .connector || k = .punctuation
  | "space" => isSeparator k || (0x9 ≤ c.toNat && c.toNat ≤ 0xd)
  | "upper" => k = .upperLetter
  | "word" => isLetter k || k = .digit || k = .connector
  | "xdigit" => c.isDigit || ('a' ≤ c && c ≤ 'f') || ('A' ≤ c && c ≤ 'F')
  | _ => false

/-- Is the named class listed by what it leaves out? -/
def isExclusion (name : String) : Bool := name = "graph"

/-- Does the named class ask for whole characters? -/
def isWhole (name : String) : Bool := name ≠ "ascii" && name ≠ "xdigit"

/-- Membership in one member of a class. -/
def ClassMember.has (c : Char) : ClassMember → Bool
  | range a b => scalar a ≤ scalar c && scalar c ≤ scalar b
  | named n => inNamedClass n c

/-- Units that stand side by side become characters. -/
def joinMembers : List ClassMember → List ClassMember
  | .range a b :: .range c d :: rest =>
    match pair? b c with
    | some e =>
      .range (if a = b then e else a) (if c = d then e else d) :: joinMembers rest
    | none => .range a b :: joinMembers (.range c d :: rest)
  | m :: rest => m :: joinMembers rest
  | [] => []

/-- Membership in a bracket. -/
def Bracket.has (whole : Bool) (c : Char) (b : Bracket) : Bool :=
  (if whole then joinMembers b.members else b.members).any (·.has c) != b.negated

/-! ## Regular expressions -/

/-- A pattern as it was read: its pieces, and the regular expression they stand for. -/
structure Reading where
  pieces : List Piece
  source : String
  /-- Is any piece more than a character? -/
  magic : Bool
  /-- Are whole characters asked for? -/
  whole : Bool
  /-- Is anything escaped that a strict regular expression does not let be escaped? -/
  loose : Bool

namespace Reading

def empty : Reading := ⟨[], "", false, false, false⟩

def append (a b : Reading) : Reading :=
  ⟨a.pieces ++ b.pieces, a.source ++ b.source, a.magic || b.magic, a.whole || b.whole, a.loose || b.loose⟩

end Reading

def isEscaped (c : Char) : Bool :=
  c ∈ ['-', '[', ']', '\x7b', '\x7d', '(', ')', '*', '+', '?', '.', ',', '\\', '^', '$', '|', '#'] || Text.isBlank c

/-- Characters that a strict regular expression lets be escaped. -/
def isStrictlyEscaped (c : Char) : Bool :=
  c ∈ ['[', ']', '\x7b', '\x7d', '(', ')', '*', '+', '?', '.', '\\', '^', '$', '|']

def plainChar (c : Char) : Reading :=
  { Reading.empty with
    pieces := [.char c]
    source := if isEscaped c then "\\" ++ c.toString else c.toString
    loose := isEscaped c && !isStrictlyEscaped c }

/-- A character after a backslash. -/
def keptChar (c : Char) : Reading :=
  let escaped := (isStrictlyEscaped c && c ≠ '|') || c = '!'
  { Reading.empty with
    pieces := [.char c]
    source := if escaped then "\\" ++ c.toString else c.toString
    loose := c = '!' }

def bracketChar (c : Char) : String :=
  if c ∈ ['[', ']', '\\', '-'] then "\\" ++ c.toString else c.toString

def memberSource : ClassMember → String
  | .range a b => if a = b then bracketChar a else bracketChar a ++ "-" ++ bracketChar b
  | .named n => classSource n

/-- A bracket with its regular expression. A circumflex that comes to stand first negates. -/
def bracketOf (negated : Bool) (members : List ClassMember) : Bracket × String :=
  let source := "[" ++ (if negated then "^" else "") ++ String.join (members.map memberSource) ++ "]"
  let bracket : Bracket := match negated, members with
    | false, .range '^' b :: rest =>
      ⟨true, if b = '^' then rest else .range '-' '-' :: .range b b :: rest⟩
    | _, _ => ⟨negated, members⟩
  (bracket, source)

/-! ## Reading classes -/

/-- What a class in brackets was read as, with the text after it. -/
inductive ClassResult where
  | closed (reading : Reading) (rest : List Char)
  | unclosed

/-- A class that matches nothing, and leaves nothing to read. -/
def ClassResult.hopeless : ClassResult :=
  closed { Reading.empty with pieces := [.never], source := "$.", magic := true } []

/-- The named class that a text starts with, and what follows it. -/
def namedClassAt (cs : List Char) : Option (String × List Char) :=
  namedClasses.findSome? fun n =>
    let mark := ("[:" ++ n ++ ":]").toList
    if mark.isPrefixOf cs then some (n, cs.drop mark.length) else none

/-- Is a class one plain character, which then stands for itself? -/
def singleMember? : List ClassMember → Option Char
  | [.range a b] => if a = b then some a else none
  | _ => none

/-- A closed class. Without members it matches nothing. -/
def closeClass (negated whole : Bool) (members excluded : List ClassMember) (rest : List Char) : ClassResult :=
  match members, excluded with
  | [], [] => .hopeless
  | _, _ =>
    match if negated ∨ excluded.length > 0 then none else singleMember? members with
    | some a => .closed (plainChar a) rest
    | none =>
      let inside := bracketOf negated members
      let outside := bracketOf (!negated) excluded
      let (brackets, source) := match members, excluded with
        | _, [] => ([inside.1], inside.2)
        | [], _ => ([outside.1], outside.2)
        | _, _ => ([inside.1, outside.1], "(" ++ inside.2 ++ "|" ++ outside.2 ++ ")")
      .closed { Reading.empty with pieces := [.oneOf brackets], source, magic := true, whole } rest

/-- Where the reading of a class stands. -/
structure ClassState where
  negated : Bool
  /-- Until a member was seen, a closing bracket is a member. -/
  first : Bool := true
  /-- After a backslash. -/
  escaping : Bool := false
  /-- The start of an open range. -/
  from? : Option Char := none
  whole : Bool := false
  /-- The members so far, the last one first. -/
  members : List ClassMember := []
  excluded : List ClassMember := []

/-- Add a named class. -/
def ClassState.addNamed (s : ClassState) (name : String) : ClassState :=
  { s with
    first := false
    whole := s.whole || isWhole name
    members := if isExclusion name then s.members else .named name :: s.members
    excluded := if isExclusion name then .named name :: s.excluded else s.excluded }

/-- Add a range that is not empty. -/
def ClassState.addRange (s : ClassState) (a b : Char) : ClassState :=
  { s with
    first := false
    escaping := false
    from? := none
    members := if scalar a ≤ scalar b then .range a b :: s.members else s.members }

/-- Read the members of a class. -/
def readClass : Nat → ClassState → List Char → ClassResult
  | 0, _, _ => .unclosed
  | _ + 1, _, [] => .unclosed
  | fuel + 1, s, c :: rest =>
    if c = ']' ∧ ¬ s.first ∧ ¬ s.escaping then
      closeClass s.negated s.whole s.members.reverse s.excluded.reverse rest
    else if c = '\\' ∧ ¬ s.escaping then readClass fuel { s with first := false, escaping := true } rest
    else
      match if c = '[' ∧ ¬ s.escaping then namedClassAt (c :: rest) else none with
      | some (name, after) =>
        if s.from?.isSome then .hopeless else readClass fuel (s.addNamed name) after
      | none =>
        match s.from? with
        | some a => readClass fuel (s.addRange a c) rest
        | none =>
          match rest with
          | '-' :: ']' :: _ => readClass fuel ((s.addRange c c).addRange '-' '-') (rest.drop 1)
          | '-' :: after => readClass fuel { s with first := false, escaping := false, from? := some c } after
          | _ => readClass fuel (s.addRange c c) rest

/-- Read a class after its opening bracket. -/
def classAfterBracket (cs : List Char) : ClassResult :=
  match cs with
  | c :: rest =>
    if c = '!' ∨ c = '^' then readClass (cs.length + 1) { negated := true } rest
    else readClass (cs.length + 1) { negated := false } cs
  | [] => .unclosed

/-! ## Text between groups -/

/-- Read a text without groups. -/
def textReading : Nat → List Char → Reading
  | 0, _ => .empty
  | _ + 1, [] => .empty
  | _ + 1, ['\\'] => plainChar '\\'
  | fuel + 1, '\\' :: d :: rest => (keptChar d).append (textReading fuel rest)
  | fuel + 1, '[' :: rest =>
    match classAfterBracket rest with
    | .closed r after => r.append (textReading fuel after)
    | .unclosed => (plainChar '[').append (textReading fuel rest)
  | fuel + 1, '?' :: rest =>
    Reading.append { Reading.empty with pieces := [.anyChar], source := "[^/]", magic := true } (textReading fuel rest)
  | fuel + 1, '*' :: rest =>
    Reading.append { Reading.empty with pieces := [.anyRun], source := "[^/]*?", magic := true }
      (textReading fuel (rest.dropWhile (· == '*')))
  | fuel + 1, c :: rest => (plainChar c).append (textReading fuel rest)

/-! ## Groups -/

/-- A part of a segment pattern: a text, or a group with its alternatives. -/
inductive Part where
  | text (cs : List Char)
  | group (mark : Char) (alternatives : List (List Part))

/-- Does the character start a group when a parenthesis follows? -/
def isGroupMark (c : Char) : Bool := c = '!' || c = '?' || c = '+' || c = '*' || c = '@'

/-- Where a scan stands: after a backslash, or so far inside brackets. -/
structure ScanState where
  escaping : Bool := false
  inBrackets : Option (Nat × Bool) := none

/-- Step over a character that cannot start or end a group, if it is one. -/
def ScanState.skip? (s : ScanState) (c : Char) : Option ScanState :=
  if s.escaping ∨ c = '\\' then some { s with escaping := !s.escaping }
  else match s.inBrackets with
    | some (n, negated) =>
      if n = 0 then some { s with inBrackets := some (1, negated || c = '^' || c = '!') }
      else if c = ']' ∧ ¬ (n = 1 ∧ negated) then some { s with inBrackets := none }
      else some { s with inBrackets := some (n + 1, negated) }
    | none => if c = '[' then some { s with inBrackets := some (0, false) } else none

/-- A text as a part, unless it is empty; the text stands last first. -/
def textPart (acc : List Char) : List Part :=
  if acc.isEmpty then [] else [.text acc.reverse]

/-- The alternatives of a group up to its closing parenthesis; `none` if it is never closed. -/
def groupParts : Nat → ScanState → List Char → List Part → List (List Part) → List Char →
    Option (List (List Part) × List Char)
  | 0, _, _, _, _, _ => none
  | _ + 1, _, _, _, _, [] => none
  | fuel + 1, s, acc, part, alts, c :: rest =>
    match s.skip? c with
    | some s => groupParts fuel s (c :: acc) part alts rest
    | none =>
      if isGroupMark c ∧ rest.head? = some '(' then
        match groupParts fuel {} [] [] [] (rest.drop 1) with
        | some (inner, after) => groupParts fuel s [] (part ++ textPart acc ++ [.group c inner]) alts after
        | none => none
      else if c = '|' then groupParts fuel s [] [] (alts ++ [part ++ textPart acc]) rest
      else if c = ')' then some (alts ++ [part ++ textPart acc], rest)
      else groupParts fuel s (c :: acc) part alts rest

/-- The parts of a segment pattern. A group that is never closed is text. -/
def segmentParts : Nat → ScanState → List Char → List Char → List Part
  | 0, _, acc, cs => textPart (cs.reverse ++ acc)
  | _ + 1, _, acc, [] => textPart acc
  | fuel + 1, s, acc, c :: rest =>
    match s.skip? c with
    | some s => segmentParts fuel s (c :: acc) rest
    | none =>
      if isGroupMark c ∧ rest.head? = some '(' then
        match groupParts (rest.length + 1) {} [] [] [] (rest.drop 1) with
        | some (alts, after) => textPart acc ++ .group c alts :: segmentParts fuel s [] after
        | none => textPart acc ++ [.text (c :: rest)]
      else segmentParts fuel s (c :: acc) rest

/-- The kind of a group. -/
def groupKind (mark : Char) : GroupKind :=
  if mark = '!' then .noneOf
  else if mark = '?' then .atMostOne
  else if mark = '+' then .oneOrMore
  else if mark = '*' then .anyNumber
  else .exactlyOne

/-- What a regular expression starts with that could match the name of a folder itself or of the one above. -/
def guarded (source : String) : String :=
  let free (cs : List Char) : Bool := cs.head? = some '[' || cs.head? = some '.'
  let cs := source.toList
  let point := ['\\', '.']
  if free cs || (point.isPrefixOf cs && free (cs.drop 2))
      || ((point ++ point).isPrefixOf cs && free (cs.drop 4)) then
    "(?!(?:^|/)\\.\\.?(?:$|/))" ++ source
  else source

/-- A group with the readings of its alternatives. -/
def groupReading (mark : Char) (alternatives : List Reading) : Reading where
  pieces := [.group (groupKind mark) (alternatives.map (·.pieces))]
  source :=
    let body := "|".intercalate (alternatives.map (·.source))
    if mark = '!' then "(?:(?!(?:" ++ body ++ "))[^/]*?)"
    else "(?:" ++ body ++ ")" ++ (if mark = '@' then "" else mark.toString)
  magic := true
  whole := alternatives.any (·.whole)
  loose := alternatives.any (·.loose)

mutual

/-- Read a part. -/
def partReading : Part → Reading
  | .text cs => textReading (cs.length + 1) cs
  | .group mark alts => groupReading mark (alternativeReadings alts)

/-- Read each alternative. -/
def alternativeReadings : List (List Part) → List Reading
  | [] => []
  | ps :: rest => sequenceReading ps :: alternativeReadings rest

/-- Read several parts. -/
def sequenceReading : List Part → Reading
  | [] => .empty
  | p :: rest => (partReading p).append (sequenceReading rest)

end

/-! ## Segment patterns -/

/-- A pattern for one segment. -/
inductive Segment where
  /-- Any number of segments. -/
  | anyDepth
  /-- Exactly this name. -/
  | literal (name : List Char)
  /-- Any name that ends in this text. -/
  | suffix (ending : List Char)
  /-- A name of that length that ends in this text. -/
  | sized (length : Nat) (ending : List Char)
  /-- A name with a point in it. -/
  | withPoint
  /-- A name that starts with a point. -/
  | pointed
  | pieces (l : List Piece) (whole : Bool)

/-- May the character stand in the plain ending of a shortcut pattern? -/
def isPlainEnding (c : Char) : Bool := c ∉ ['+', '@', '!', '?', '*', '[', '(']

/-- The pattern that was read, unless its regular expression is refused. -/
def Reading.segment (r : Reading) (guard : Bool) : Except Fault Segment :=
  if r.whole ∧ r.loose then .error (.badExpression (if guard then guarded r.source else r.source))
  else if r.magic then .ok (.pieces r.pieces r.whole)
  else .ok (.literal (r.pieces.filterMap fun p => match p with | .char c => some c | _ => none))

/-- Read a part that stands in no group. Stars between groups take at least one character. -/
def outerReading : Part → Reading
  | .text cs =>
    if cs.all (· == '*') then { Reading.empty with pieces := [.anyChar, .anyRun], source := "[^/]+?", magic := true }
    else textReading (cs.length + 1) cs
  | p => partReading p

/-- The pattern of a segment with groups, classes or runs. -/
def generalSegment (cs : List Char) : Except Fault Segment :=
  let parts := segmentParts (cs.length + 1) {} [] cs
  let r := (parts.map outerReading).foldr Reading.append Reading.empty
  match parts with
  | [.group _ alts] =>
    if (alternativeReadings alts).all (·.pieces.isEmpty) ∧ ¬ cs.head? = some '!' then .ok (.literal cs)
    else r.segment false
  | .text _ :: _ => r.segment true
  | _ => r.segment false

/-- Read a segment pattern. Frequent simple forms are told apart first. -/
def Segment.ofChars (cs : List Char) : Except Fault Segment :=
  let afterStars := cs.dropWhile (· == '*')
  let afterMarks := cs.dropWhile (· == '?')
  if cs = ['*', '*'] then .ok .anyDepth
  else if cs.head? = some '*' ∧ afterStars.all isPlainEnding then .ok (.suffix afterStars)
  else if cs.head? = some '?' ∧ afterMarks.all isPlainEnding then .ok (.sized cs.length afterMarks)
  else if cs.head? = some '*' ∧ afterStars.head? = some '.' ∧ afterStars.length > 1
      ∧ (afterStars.drop 1).all (· == '*') then .ok .withPoint
  else if cs.head? = some '.' ∧ cs.length > 1 ∧ (cs.drop 1).all (· == '*') then .ok .pointed
  else generalSegment cs

/-! ## Matching -/

/-- Match pieces at the start of a name and then `k` on what is left. -/
def matchPieces (whole : Bool) : Nat → List Piece → List Char → (List Char → Bool) → Bool
  | 0, _, _, _ => false
  | _ + 1, [], s, k => k s
  | fuel + 1, p :: ps, s, k =>
    match p with
    | .char c =>
      match s with
      | d :: rest => c = d && matchPieces whole fuel ps rest k
      | [] => false
    | .anyChar =>
      match next? whole s with
      | some (_, rest) => matchPieces whole fuel ps rest k
      | none => false
    | .oneOf brackets =>
      match next? whole s with
      | some (d, rest) => brackets.any (·.has whole d) && matchPieces whole fuel ps rest k
      | none => false
    | .never => false
    | .anyRun =>
      matchPieces whole fuel ps s k ||
        match next? whole s with
        | some (_, rest) => matchPieces whole fuel (p :: ps) rest k
        | none => false
    | .group kind alts =>
      let once (after : List Char → Bool) : Bool := alts.any fun a => matchPieces whole fuel a s after
      let follow (t : List Char) : Bool := matchPieces whole fuel ps t k
      let again (t : List Char) : Bool :=
        t.length < s.length && matchPieces whole fuel (.group .anyNumber alts :: ps) t k
      match kind with
      | .exactlyOne => once follow
      | .atMostOne => once follow || follow s
      | .oneOrMore => once fun t => follow t || again t
      | .anyNumber => follow s || once again
      | .noneOf => !once follow && matchPieces whole fuel (.anyRun :: ps) s k

mutual

/-- A measure of a piece. -/
def Piece.weight : Piece → Nat
  | .group _ alts => 2 + alternativesWeight alts
  | _ => 1

/-- A measure of several alternatives. -/
def alternativesWeight : List (List Piece) → Nat
  | [] => 0
  | ps :: rest => sequenceWeight ps + alternativesWeight rest

/-- A measure of a sequence of pieces. -/
def sequenceWeight : List Piece → Nat
  | [] => 1
  | p :: rest => p.weight + sequenceWeight rest

end

/-- Does a segment pattern match a name? -/
def Segment.test (s : Segment) (name : List Char) : Bool :=
  match s with
  | anyDepth => true
  | literal l => l = name
  | suffix e => e.isSuffixOf name
  | sized n e => name.length = n && e.isSuffixOf name
  | withPoint => name.contains '.'
  | pointed => name.head? = some '.'
  | pieces ps whole => matchPieces whole ((sequenceWeight ps + 2) * (name.length + 2)) ps name (·.isEmpty)

end CodeAtlas.Glob
