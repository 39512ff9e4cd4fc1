import CodeAtlas.Html.CharacterReference
import CodeAtlas.Syntax.Tree

set_option autoImplicit false

/-! # Tokens of HTML

A document is cut into tags, comments, document types and text. How text is read depends on the element
that it stands in: markup counts in most of them, only the end tag of the element in others. -/

namespace CodeAtlas.Html

open Syntax (Source)

/-- A tag, with the offsets of its first character and behind its last. -/
structure Tag where
  name : String
  attributes : List (String × String)
  selfClosing : Bool
  start : Nat
  stop : Nat

def attributeOf? (attributes : List (String × String)) (name : String) : Option String :=
  attributes.lookup name

/-- What a document is made of. -/
inductive Token where
  | startTag (t : Tag)
  | endTag (t : Tag)
  | text (cs : List Char)
  | comment
  /-- A document type, which may ask for the rules of old browsers. -/
  | doctype (legacy : Bool)
  /-- Something that is dropped. -/
  | nothing
  /-- The end of the document. -/
  | stop

/-- How text is read. -/
inductive TextMode where
  | markup
  /-- Text with character references, up to the end tag of the name. -/
  | resolved (name : String)
  /-- Text as it stands, up to the end tag of the name. -/
  | raw (name : String)
  | script
  /-- All the rest is text. -/
  | plain

/-! ## Parts of the text -/

/-- White space between the parts of a tag. -/
def isSpace (c : Char) : Bool := c = ' ' || c = '\t' || c = '\n' || c = '\x0c'

/-- The first offset from `p` on that passes a test, or the end of the text. -/
def seek (src : Source) (test : Nat → Bool) (p : Nat) : Nat :=
  if p < src.chars.size then if test p then p else seek src test (p + 1) else src.chars.size
termination_by src.chars.size - p

/-- The characters between two offsets. -/
def charsOf (src : Source) (start stop : Nat) : List Char := (src.chars.extract start stop).toList

/-- The characters with a capital letter made small. -/
def lowered (cs : List Char) : List Char := cs.map Char.toLower

/-- Does the text stand at the offset, in capital or small letters? -/
def standsAt (src : Source) (text : String) (p : Nat) : Bool :=
  lowered (charsOf src p (p + text.length)) = lowered text.toList

/-- The offset of a character from `p` on. -/
def seekChar (src : Source) (c : Char) (p : Nat) : Nat := src.runStop (· ≠ c) p

/-- The offset after the white space at `p`. -/
def skipSpace (src : Source) (p : Nat) : Nat := src.runStop isSpace p

/-- Null characters become replacement characters. -/
def withoutNull (cs : List Char) : List Char := cs.map fun c => if c = '\x00' then replacement else c

/-! ## Tags -/

/-- The value of an attribute that begins at an offset, and where it stops. -/
def attributeValue? (src : Source) (p : Nat) : Option (String × Nat) :=
  let value (start stop : Nat) : String :=
    String.ofList (resolve true (withoutNull (charsOf src start stop)))
  match src.chars[p]? with
  | none => none
  | some c =>
    if c = '"' ∨ c = '\'' then
      let q := seekChar src c (p + 1)
      if q < src.chars.size then some (value (p + 1) q, q + 1) else none
    else
      let q := src.runStop (fun c => !isSpace c && c ≠ '>') p
      some (value p q, q)

/-- Put an attribute behind others unless one of them has its name. -/
def addAttribute (attributes : List (String × String)) (name value : String) : List (String × String) :=
  if (attributeOf? attributes name).isSome then attributes else attributes ++ [(name, value)]

/-- The rest of a tag behind its name: attributes, whether it closes itself, and where it stops. There is
    none if the text ends before. -/
def tagRest? (src : Source) :
    Nat → Nat → List (String × String) → Option (List (String × String) × Bool × Nat)
  | 0, _, _ => none
  | n + 1, p, attributes =>
    let p := skipSpace src p
    match src.chars[p]? with
    | none => none
    | some '>' => some (attributes, false, p + 1)
    | some '/' =>
      if src.chars[p + 1]? = some '>' then some (attributes, true, p + 2) else tagRest? src n (p + 1) attributes
    | some _ =>
      let q := src.runStop (fun c => !isSpace c && c ≠ '/' && c ≠ '>' && c ≠ '=') (p + 1)
      let name := String.ofList (lowered (withoutNull (charsOf src p q)))
      let r := skipSpace src q
      if src.chars[r]? = some '=' then
        match attributeValue? src (skipSpace src (r + 1)) with
        | none => none
        | some (value, s) => tagRest? src n s (addAttribute attributes name value)
      else tagRest? src n r (addAttribute attributes name "")

/-- The tag that starts at an offset, with its name at another one. -/
def tag? (src : Source) (start nameStart : Nat) : Option Tag :=
  let q := src.runStop (fun c => !isSpace c && c ≠ '/' && c ≠ '>') nameStart
  let name := String.ofList (lowered (withoutNull (charsOf src nameStart q)))
  (tagRest? src (src.chars.size + 1 - q) q []).map fun (attributes, selfClosing, stop) =>
    { name, attributes, selfClosing, start, stop }

/-! ## Comments and document types -/

/-- Where the comment stops whose text begins at an offset. -/
def commentStop (src : Source) (p : Nat) : Nat :=
  if standsAt src ">" p then p + 1
  else if standsAt src "->" p then p + 2
  else
    let q := seek src (fun i => standsAt src "-->" i || standsAt src "--!>" i) p
    min src.chars.size (if standsAt src "-->" q then q + 3 else q + 4)

/-- Where something stops that a closing bracket ends. -/
def bracketStop (src : Source) (p : Nat) : Nat := min src.chars.size (seekChar src '>' p + 1)

/-- Beginnings of public identifiers that ask for the rules of old browsers. -/
def legacyBeginnings : List String :=
  ["-//ietf//dtd html", "-//w3c//dtd html 3", "-//w3c//dtd html 4.0 frameset//",
    "-//w3c//dtd html 4.0 transitional//", "-//w3c//dtd html experimental", "-//w3c//dtd w3 html",
    "-//w3o//dtd w3 html"]

/-- Those that do so without a system identifier. -/
def bareLegacyBeginnings : List String :=
  ["-//w3c//dtd html 4.01 frameset//", "-//w3c//dtd html 4.01 transitional//"]

/-- A quoted identifier at the start of a text, and the rest; none if it is not closed. -/
def quoted? : List Char → Option (String × List Char)
  | [] => none
  | c :: rest =>
    let inside := rest.takeWhile (· ≠ c)
    if (c = '"' ∨ c = '\'') ∧ inside.length < rest.length then
      some (String.ofList inside, rest.drop (inside.length + 1))
    else none

/-- Do the identifiers of a document type ask for the rules of old browsers? -/
def identifiersAskLegacy (publicId systemId : Option String) : Bool :=
  let begins (l : List String) (s : String) : Bool := l.any fun b => s.startsWith b
  match publicId with
  | none => false
  | some s =>
    s = "html" || s = "-/w3c/dtd html 4.0 transitional/en" || begins legacyBeginnings s
      || (systemId.isNone && begins bareLegacyBeginnings s)

/-- Does a document type, given what stands behind its word, ask for the rules of old browsers? -/
def doctypeAsksLegacy (cs : List Char) : Bool :=
  let cs := (lowered cs).dropWhile isSpace
  let name := cs.takeWhile fun c => !isSpace c
  let rest := (cs.drop name.length).dropWhile isSpace
  let word := rest.take 6
  let ids := (rest.drop 6).dropWhile isSpace
  if name ≠ "html".toList then true
  else if rest.isEmpty then false
  else if word = "public".toList then
    match quoted? ids with
    | none => true
    | some (publicId, more) =>
      let more := more.dropWhile isSpace
      if more.isEmpty then identifiersAskLegacy (some publicId) none
      else match quoted? more with
        | none => true
        | some (systemId, _) => identifiersAskLegacy (some publicId) (some systemId)
  else if word = "system".toList then (quoted? ids).isNone
  else true

/-! ## Markup -/

/-- The token that begins with a bracket and an exclamation mark. -/
def declaration (src : Source) (inForeign : Bool) (p : Nat) : Token × Nat :=
  if standsAt src "<!--" p then (.comment, commentStop src (p + 4))
  else if standsAt src "<!doctype" p then
    let q := seekChar src '>' (p + 9)
    let closed := q < src.chars.size
    (.doctype (!closed || doctypeAsksLegacy (charsOf src (p + 9) q)), min src.chars.size (q + 1))
  else if inForeign ∧ charsOf src p (p + 9) = "<![CDATA[".toList then
    let q := seek src (fun i => standsAt src "]]>" i) (p + 9)
    if p + 9 < q then (.text (charsOf src (p + 9) q), min src.chars.size (q + 3))
    else (.nothing, min src.chars.size (q + 3))
  else (.comment, bracketStop src (p + 2))

/-- A tag as a token; one that the text ends in is dropped. -/
def tagToken (src : Source) (make : Tag → Token) (start nameStart : Nat) : Token × Nat :=
  match tag? src start nameStart with
  | some t => (make t, t.stop)
  | none => (.stop, src.chars.size)

/-- The token that begins with a bracket. -/
def markupToken (src : Source) (inForeign : Bool) (p : Nat) : Token × Nat :=
  match src.chars[p + 1]? with
  | some '!' => declaration src inForeign p
  | some '?' => (.comment, bracketStop src (p + 1))
  | some '/' =>
    match src.chars[p + 2]? with
    | none => (.text ['<', '/'], p + 2)
    | some '>' => (.nothing, p + 3)
    | some c =>
      if c.isAlpha then tagToken src .endTag p (p + 2) else (.comment, bracketStop src (p + 2))
  | some c => if c.isAlpha then tagToken src .startTag p (p + 1) else (.text ['<'], p + 1)
  | none => (.text ['<'], p + 1)

/-! ## Text without markup -/

/-- Does the end tag of a name begin at an offset? -/
def endTagAt (src : Source) (name : String) (p : Nat) : Bool :=
  standsAt src ("</" ++ name) p
    && (src.chars[p + 2 + name.length]?).any fun c => isSpace c || c = '/' || c = '>'

/-- Does the start tag of a script begin at an offset? -/
def scriptTagAt (src : Source) (p : Nat) : Bool :=
  standsAt src "<script" p && (src.chars[p + 7]?).any fun c => isSpace c || c = '/' || c = '>'

/-- Where in a script its text is: in a comment, or in a script tag in a comment. The number counts the
    dashes just before, up to two. -/
inductive ScriptPart where
  | code
  | comment (dashes : Nat)
  | inner (dashes : Nat)

/-- Where the text of a script stops that goes on at an offset. -/
def scriptStop (src : Source) : Nat → ScriptPart → Nat → Nat
  | 0, _, p => p
  | n + 1, part, p =>
    match src.chars[p]? with
    | none => src.chars.size
    | some c =>
      match part with
      | .code =>
        if endTagAt src "script" p then p
        else if standsAt src "<!--" p then scriptStop src n (.comment 2) (p + 4)
        else scriptStop src n .code (p + 1)
      | .comment dashes =>
        if c = '-' then scriptStop src n (.comment (min 2 (dashes + 1))) (p + 1)
        else if c = '>' ∧ dashes = 2 then scriptStop src n .code (p + 1)
        else if endTagAt src "script" p then p
        else if scriptTagAt src p then scriptStop src n (.inner 0) (p + 8)
        else scriptStop src n (.comment 0) (p + 1)
      | .inner dashes =>
        if c = '-' then scriptStop src n (.inner (min 2 (dashes + 1))) (p + 1)
        else if c = '>' ∧ dashes = 2 then scriptStop src n .code (p + 1)
        else if endTagAt src "script" p then scriptStop src n (.comment 0) (p + 9)
        else scriptStop src n (.inner 0) (p + 1)

/-! ## The next token -/

/-- Text up to an offset, or the tag there. -/
def textUpTo (src : Source) (mode : TextMode) (read : List Char → List Char) (p q : Nat) :
    Token × TextMode × Nat :=
  if p < q then (.text (read (charsOf src p q)), mode, q)
  else if src.chars.size ≤ p then (.stop, .markup, p)
  else
    let (t, r) := markupToken src false p
    (t, .markup, r)

/-- The token that begins at an offset, the mode behind it, and where it stops. -/
def nextToken (src : Source) (mode : TextMode) (inForeign : Bool) (p : Nat) : Token × TextMode × Nat :=
  match mode with
  | .markup =>
    if src.chars[p]? = some '<' then
      let (t, q) := markupToken src inForeign p
      (t, .markup, q)
    else textUpTo src mode (resolve false) p (seekChar src '<' p)
  | .resolved name =>
    textUpTo src mode (fun cs => resolve false (withoutNull cs)) p (seek src (endTagAt src name) p)
  | .raw name => textUpTo src mode withoutNull p (seek src (endTagAt src name) p)
  | .script => textUpTo src mode withoutNull p (scriptStop src (src.chars.size + 1 - p) .code p)
  | .plain => textUpTo src mode withoutNull p src.chars.size

end CodeAtlas.Html
