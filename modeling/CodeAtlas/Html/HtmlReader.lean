import CodeAtlas.Dict
import CodeAtlas.Html.Rules
import CodeAtlas.Reader
import CodeAtlas.Reference
import CodeAtlas.Unicode.LowerCase

set_option autoImplicit false

/-! # Reading HTML documents

Elements with an id, and those that matter without one, become entities; linked style sheets and scripts
become references of the file, and its first title with a text is its title. -/

namespace CodeAtlas.Html

open Syntax (Source)

/-! ## Elements -/

/-- Elements that become entities even without an id. -/
def significantNames : List String := ["title", "script", "link", "style", "form", "template"]

/-- The value of an attribute, unless it is empty. -/
def Element.filled? (e : Element) (name : String) : Option String := nonEmpty? (e.attribute? name)

/-- The name of an element's entity. -/
def elementEntityName (e : Element) (content : String) : String :=
  match e.filled? "id" with
  | some id => e.name ++ "#" ++ id
  | none =>
    if e.name = "title" then (nonEmpty? (some (Text.trim content))).getD "title"
    else match nonEmpty? ((e.attribute? "src").or (e.attribute? "href")) with
      | some source => e.name ++ " " ++ source
      | none => e.name

/-- The number of characters of an element's text that its entity keeps. -/
def contentLimit : Nat := 200

/-- What is recorded about an element. -/
def elementMetadata (e : Element) : Metadata :=
  let optional (key : String) (value : Option MetaValue) : Metadata := value.toList.map fun v => (key, v)
  [("tag", .text e.name)]
    ++ optional "classes" ((e.filled? "class").map fun s => .list (Text.words s))
    ++ optional "href" ((e.filled? "href").map .text)
    ++ optional "src" ((e.filled? "src").map .text)

def lineOf (src : Source) (offset : Nat) : Rat := src.row offset + 1

/-- The entity of an element, if it has one. -/
def elementEntity? (path : String) (src : Source) (e : Element) (content : String) : Option Entity :=
  match e.span with
  | none => none
  | some span =>
    if (e.filled? "id").isSome ∨ significantNames.contains e.name then
      some <| Entity.create {
        kind := .element, path, name := elementEntityName e content
        startLine := lineOf src span.start, endLine := lineOf src span.stop
        content := some (Text.takeUnits contentLimit (Text.trim content))
        metadata := elementMetadata e }
    else none

/-! ## References -/

/-- The style sheet that an element links to. -/
def styleSheet? (e : Element) : Option String :=
  match e.filled? "href" with
  | none => none
  | some href =>
    let relations := Text.words (Unicode.lower ((e.attribute? "rel").getD ""))
    let isSheet := relations.contains "stylesheet"
      || ".css".toList.isSuffixOf (lowered href.toList)
    if e.name = "link" ∧ isSheet then Reference.target? href else none

def script? (e : Element) : Option String :=
  if e.name = "script" then (e.filled? "src").bind Reference.target? else none

def titleText? (e : Element) (content : String) : Option String :=
  if e.name = "title" then nonEmpty? (some (Text.trim content)) else none

/-! ## The reader -/

/-- The text with single line feeds as line breaks. -/
def withLineFeeds : List Char → List Char
  | [] => []
  | '\r' :: '\n' :: rest => '\n' :: withLineFeeds rest
  | '\r' :: rest => '\n' :: withLineFeeds rest
  | c :: rest => c :: withLineFeeds rest

/-- Is the element a template outside of the vocabulary of HTML? Such a template has no content. -/
def isHollowTemplate (e : Element) : Bool := e.name = "template" && e.space ≠ .html

/-- What a document says. -/
def extract (file : SourceFile) : Except String Extraction :=
  let src : Source := ⟨(withLineFeeds file.source.toList).toArray⟩
  let all := Node.elementsOfAll (document src)
  if all.any fun p => isHollowTemplate p.1 then
    .error "Cannot read properties of undefined (reading 'childNodes')"
  else
    let title := all.findSome? fun p => titleText? p.1 p.2
    .ok {
      entities := all.filterMap fun p => elementEntity? file.path src p.1 p.2
      relationships := []
      fileMetadata :=
        [("stylesheets", .list (distinct (all.filterMap fun p => styleSheet? p.1))),
          ("scripts", .list (distinct (all.filterMap fun p => script? p.1))),
          ("title", (title.map MetaValue.text).getD .absent)] }

/-- The reader of HTML documents. -/
def reader : Reader where
  language := "html"
  extensions := [".html", ".htm"]
  kinds := [.element]
  extract := extract

end CodeAtlas.Html
