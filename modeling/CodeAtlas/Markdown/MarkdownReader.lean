import CodeAtlas.Markdown.Inline
import CodeAtlas.Reader
import CodeAtlas.Reference

set_option autoImplicit false

/-! # Reading Markdown documents

Headings, code blocks and links become entities. Code that looks like the path of a file, and the
targets of links, become references of the document; its first top heading is its title. -/

namespace CodeAtlas.Markdown

/-! ## Findings -/

/-- What a document holds, in order. -/
inductive Finding where
  | entity (e : Entity)
  | reference (path : String)

/-- The entity of a finding. -/
def Finding.entity? : Finding → Option Entity
  | entity e => some e
  | reference _ => none

/-- The path of a finding. -/
def Finding.reference? : Finding → Option String
  | entity _ => none
  | reference p => some p

/-- Is the character a Latin letter, a digit or an underscore? -/
def isWordChar (c : Char) : Bool := c.isAlphanum || c = '_'

/-- The longest file extension. -/
def extensionLimit : Nat := 8

/-- Does the text look like the path of a file with an extension? -/
def looksLikePath (s : String) : Bool :=
  let cs := s.toList.reverse
  let extension := cs.takeWhile (· ≠ '.')
  let stem := cs.drop (extension.length + 1)
  extension.length < cs.length && extension.length ≤ extensionLimit
    && extension.all Char.isAlphanum && extension.getLast?.any Char.isAlpha
    && stem.head?.any (fun c => isWordChar c || c = '-')
    && stem.all fun c => isWordChar c || c = '@' || c = '~' || c = '.' || c = '/' || c = '-'

/-- What a piece of text brings. -/
def Inline.findings (path : String) : Inline → List Finding
  | text _ => []
  | code value =>
    let value := Text.trim value
    if looksLikePath value then [.reference value] else []
  | link url name startLine endLine =>
    let target := Reference.target? url
    let name := Text.trim name
    (target.filter (· ≠ "")).toList.map Finding.reference ++
      [.entity (Entity.create {
        kind := .link, path, name := if name = "" then url else name
        startLine := startLine, endLine := endLine
        metadata := [("url", .text url), ("external", .flag target.isNone)] })]

/-- The number of characters of a code block that its entity keeps. -/
def codePreview : Nat := 400

/-- What a block brings. -/
def Block.findings (path : String) (labels : List String) : Block → List Finding
  | heading depth startLine endLine textLine text =>
    let items := inlines labels textLine text
    let name := Text.trim (plainText items)
    let found := Entity.create {
      kind := .heading, path, name
      startLine := startLine, endLine := endLine, metadata := [("depth", .number depth)] }
    (if name = "" then [] else [.entity found]) ++ items.flatMap (Inline.findings path)
  | code language value startLine endLine =>
    [.entity (Entity.create {
      kind := .codeBlock, path
      name := if language = "" then "code block" else language ++ " code block"
      startLine := startLine, endLine := endLine
      content := some (Text.takeUnits codePreview value)
      metadata := [("language", .text language)] })]
  | paragraph startLine text => (inlines labels startLine text).flatMap (Inline.findings path)

/-! ## The reader -/

def isTopHeading (e : Entity) : Bool :=
  e.kind = .heading && e.metadata.lookup "depth" = some (.number 1)

/-- What a document says. -/
def extract (file : SourceFile) : Extraction :=
  let (blocks, labels) := blocksOf file.source
  let found := blocks.flatMap (Block.findings file.path labels)
  let entities := found.filterMap Finding.entity?
  let title := (entities.find? isTopHeading).map fun e => MetaValue.text e.name
  { entities
    relationships := []
    fileMetadata := [("docReferences", .list (distinct (found.filterMap Finding.reference?))),
      ("title", title.getD .absent)] }

/-- The reader of Markdown documents. -/
def reader : Reader where
  language := "markdown"
  extensions := [".md", ".markdown", ".mdx"]
  kinds := [.heading, .codeBlock, .link]
  extract file := .ok (extract file)

end CodeAtlas.Markdown
