import CodeAtlas.Html.Document

set_option autoImplicit false

/-! # Open elements and formatting

While a document is built, the elements that are not closed yet form a stack. Elements that format text
are also kept in a list, so that they can be opened again where misnested markup closed them. -/

namespace CodeAtlas.Html

/-! ## Kinds of elements -/

/-- An element on the stack. -/
structure Opened where
  id : Nat
  space : Space
  name : String

def Opened.isHtml (o : Opened) (name : String) : Bool := o.space = .html && o.name = name

/-- Elements of HTML that end what misnested markup may reach. -/
def specialNames : List String :=
  ["address", "applet", "area", "article", "aside", "base", "basefont", "bgsound", "blockquote", "body", "br",
    "button", "caption", "center", "col", "colgroup", "dd", "details", "dir", "div", "dl", "dt", "embed",
    "fieldset", "figcaption", "figure", "footer", "form", "frame", "frameset", "h1", "h2", "h3", "h4", "h5",
    "h6", "head", "header", "hgroup", "hr", "html", "iframe", "img", "input", "li", "link", "listing", "main",
    "marquee", "menu", "meta", "nav", "noembed", "noframes", "noscript", "object", "ol", "p", "param",
    "plaintext", "pre", "script", "search", "section", "select", "source", "style", "summary", "table",
    "tbody", "td", "template", "textarea", "tfoot", "th", "thead", "title", "tr", "track", "ul", "wbr", "xmp"]

/-- Elements of formulas that hold text. -/
def mathTextNames : List String := ["mi", "mo", "mn", "ms", "mtext"]

/-- Elements of formulas that bound scopes. -/
def mathScopeNames : List String := "annotation-xml" :: mathTextNames

/-- Elements of drawings that hold HTML. -/
def svgTextNames : List String := ["foreignObject", "desc", "title"]

/-- Does the element end what misnested markup may reach? -/
def Opened.isSpecial (o : Opened) : Bool :=
  match o.space with
  | .html => specialNames.contains o.name
  | .svg => svgTextNames.contains o.name
  | .math => mathScopeNames.contains o.name

/-- Elements that end without an end tag. -/
def impliedEndNames : List String := ["dd", "dt", "li", "optgroup", "option", "p", "rb", "rp", "rt", "rtc"]

/-- The parts of tables that also end without an end tag. -/
def impliedEndNamesInTables : List String :=
  impliedEndNames ++ ["caption", "colgroup", "tbody", "td", "tfoot", "th", "thead", "tr"]

def headingNames : List String := ["h1", "h2", "h3", "h4", "h5", "h6"]

/-- Elements of tables in which other content has no place. -/
def tableStructureNames : List String := ["table", "tbody", "tfoot", "thead", "tr"]

/-! ## Scopes -/

/-- Elements of HTML that bound the usual scope. -/
def scopeNames : List String :=
  ["applet", "caption", "html", "table", "td", "th", "marquee", "object", "template"]

/-- Elements of HTML that bound the scope of list items. -/
def listScopeNames : List String := scopeNames ++ ["ol", "ul"]

/-- Elements of HTML that bound the scope of paragraphs. -/
def buttonScopeNames : List String := scopeNames ++ ["button"]

/-- Is one of the names open, before an element that bounds the scope? -/
def inScopeOf (bounds names : List String) : List Opened → Bool
  | [] => true
  | o :: rest =>
    match o.space with
    | .html =>
      if names.contains o.name then true
      else if bounds.contains o.name then false
      else inScopeOf bounds names rest
    | .svg => if svgTextNames.contains o.name then false else inScopeOf bounds names rest
    | .math => if mathScopeNames.contains o.name then false else inScopeOf bounds names rest

def inScope (name : String) : List Opened → Bool := inScopeOf scopeNames [name]

def paragraphInScope : List Opened → Bool := inScopeOf buttonScopeNames ["p"]

/-- Is one of the names open in the current table? -/
def inTableScope (names : List String) : List Opened → Bool
  | [] => true
  | o :: rest =>
    if o.space ≠ .html then inTableScope names rest
    else if names.contains o.name then true
    else if ["table", "template", "html"].contains o.name then false
    else inTableScope names rest

/-- Is a choice open that only options stand in? -/
def selectInScope : List Opened → Bool
  | [] => true
  | o :: rest =>
    if o.space ≠ .html then selectInScope rest
    else if o.name = "select" then true
    else if o.name = "option" ∨ o.name = "optgroup" then selectInScope rest
    else false

/-! ## Formatting -/

/-- An entry of the list of formatting elements. A marker separates those of a cell or an object. -/
inductive Formatting where
  | marker
  | element (id : Nat) (tag : Tag)

namespace Formatting

/-- Is the entry that element? -/
def isElement (id : Nat) : Formatting → Bool
  | marker => false
  | element i _ => i = id

/-- The newest entries, up to the newest marker. -/
def recent (l : List Formatting) : List Formatting :=
  l.takeWhile fun
    | marker => false
    | element _ _ => true

/-- The list without the newest marker and what is newer. -/
def dropRecent (l : List Formatting) : List Formatting := l.drop ((recent l).length + 1)

/-- The newest entry of a name that no marker hides. -/
def find? (l : List Formatting) (name : String) : Option (Nat × Tag) :=
  (recent l).findSome? fun
    | marker => none
    | element id tag => if tag.name = name then some (id, tag) else none

/-- The list without an element. -/
def remove (l : List Formatting) (id : Nat) : List Formatting := l.filter (!·.isElement id)

/-- Have the tags the same name and the same attributes in any order? -/
def sameTag (a b : Tag) : Bool :=
  a.name = b.name && a.attributes.length = b.attributes.length
    && a.attributes.all fun (name, value) => attributeOf? b.attributes name = some value

/-- As many equal entries are kept at most. -/
def equalLimit : Nat := 3

/-- The list with a new entry. The oldest of too many equal ones is given up. -/
def push (l : List Formatting) (id : Nat) (tag : Tag) : List Formatting :=
  let equal := (recent l).filterMap fun
    | marker => none
    | element i t => if sameTag t tag then some i else none
  let l := match equal[equalLimit - 1]? with
    | some oldest => remove l oldest
    | none => l
  element id tag :: l

/-- Put another element in the place of one. -/
def replace (l : List Formatting) (old new : Nat) : List Formatting :=
  l.map fun
    | marker => marker
    | element i t => element (if i = old then new else i) t

/-- Put a new entry just before that of an element, which is older. -/
def insertBefore (l : List Formatting) (older new : Nat) (tag : Tag) : List Formatting :=
  let newer := l.takeWhile (!·.isElement older)
  newer ++ element new tag :: l.drop newer.length

end Formatting

end CodeAtlas.Html
