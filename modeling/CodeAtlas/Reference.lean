import CodeAtlas.Text.Blank

set_option autoImplicit false

/-! # References in documents

A document refers to other files by URLs and import rules. The target of a reference is the path it
names, with query, fragment and percent signs resolved; what points outside the repository has none. -/

namespace CodeAtlas.Reference

def isLetter (c : Char) : Bool := c.isAlpha

/-- May the character stand in the scheme of a URL? -/
def isSchemePart (c : Char) : Bool := c.isAlphanum || c = '+' || c = '.' || c = '-'

/-- Does the text begin with a scheme and a colon? -/
def hasScheme (cs : List Char) : Bool :=
  cs.head?.any isLetter && (cs.dropWhile isSchemePart).head? = some ':'

/-- Does a URL leave the document's own site, or stay within the document itself? -/
def isExternal (url : String) : Bool :=
  let cs := url.toList
  hasScheme cs || ['/', '/'].isPrefixOf cs || cs.head? = some '#'

/-- The value of a hexadecimal digit. -/
def digitValue? (c : Char) : Option Nat :=
  if c.isDigit then some (c.toNat - 48)
  else if 'a' ≤ c ∧ c ≤ 'f' then some (c.toNat - 87)
  else if 'A' ≤ c ∧ c ≤ 'F' then some (c.toNat - 55)
  else none

/-- The bytes of a text in which every percent sign starts a byte; `none` if one does not. -/
def percentBytes? : List Char → Option (List UInt8)
  | [] => some []
  | ['%'] => none
  | ['%', _] => none
  | '%' :: a :: b :: rest => do
    let high ← digitValue? a
    let low ← digitValue? b
    let bytes ← percentBytes? rest
    return (16 * high + low).toUInt8 :: bytes
  | c :: rest => (percentBytes? rest).map (c.toString.toUTF8.toList ++ ·)

/-- A text with its percent signs resolved; it stays as it is if they do not spell characters. -/
def percentDecode (s : String) : String :=
  match percentBytes? s.toList with
  | none => s
  | some bytes => (String.fromUTF8? bytes.toByteArray).getD s

/-- The path that a URL names, if it names one in the repository. -/
def target? (url : String) : Option String :=
  if isExternal url then none
  else
    let bare := String.ofList (url.toList.takeWhile fun c => c ≠ '?' && c ≠ '#')
    if bare = "" then none else some (percentDecode bare)

/-! ## Import rules -/

def isQuote (c : Char) : Bool := c = '"' || c = '\''

/-- The text up to a quotation mark, a closing parenthesis or a blank, after a quotation mark at the
    start. -/
def quotedTarget (cs : List Char) : List Char :=
  let cs := if cs.head?.any isQuote then cs.drop 1 else cs
  cs.takeWhile fun c => !isQuote c && c ≠ ')' && !Text.isBlank c

/-- The URL in the parameters of an import rule, bare or in the form of a function call. -/
def importUrl (params : String) : String :=
  let cs := params.toList.dropWhile Text.isBlank
  let call := ['u', 'r', 'l', '(']
  let inside :=
    if call.isPrefixOf cs then quotedTarget ((cs.drop call.length).dropWhile Text.isBlank) else []
  String.ofList (if inside.isEmpty then quotedTarget cs else inside)

/-- The path that an import rule names. -/
def importTarget? (params : String) : Option String :=
  let url := importUrl params
  if url = "" then none else target? url

end CodeAtlas.Reference
