import CodeAtlas.Entity
import CodeAtlas.FileTree

set_option autoImplicit false

/-! # Documents

One text per entity for the lexical index: its name, doc and signature, and for a file the beginning of
its contents. -/

namespace CodeAtlas.Search

/-- A text to be searched, under the id of its entity. -/
structure Document where
  id : String
  text : String
deriving DecidableEq

/-- What a comment line starts with. -/
def commentMarks : List String := ["#", "//", "/*", "*", "<!--"]

/-- The first `n` items; a negative `n` leaves out that many at the end. -/
def firstOf {α : Type} (n : Int) (l : List α) : List α :=
  if n < 0 then l.take (l.length - n.natAbs) else l.take n.toNat

/-- The first lines of a file, blank and comment lines removed, joined by blanks. -/
def fileExcerpt (source : String) (maxLines : Int) : String :=
  " ".intercalate <|
    ((firstOf maxLines (Text.linesOfEither source)).map Text.trim).filter fun line =>
      line ≠ "" && !commentMarks.any (line.startsWith ·)

/-- The text of an entity, with an excerpt if there is one. -/
def documentText (e : Entity) (excerpt : Option String) : String :=
  " ".intercalate <|
    [e.name] ++ (nonEmpty? e.docstring).toList ++ e.metadata.stringList "parameters"
      ++ (nonEmpty? (e.metadata.stringValue? "returns")).toList ++ (nonEmpty? excerpt).toList

/-- The document of an entity. A file that cannot be read is represented by its recorded content. -/
def document (disk : FileTree) (root : String) (maxLines : Int) (e : Entity) : Document :=
  if e.kind = .file then
    let source := match disk.read (Path.join root e.path) with
      | .ok bytes => Text.decodeLossy bytes
      | .error _ => e.content.getD ""
    ⟨e.id, documentText e (some (fileExcerpt source maxLines))⟩
  else ⟨e.id, documentText e none⟩

/-- One document per entity, in entity order; a text that `reuse` knows is kept. -/
def buildDocuments (disk : FileTree) (root : String) (maxLines : Int) (reuse : Entity → Option String)
    (entities : List Entity) : List Document :=
  entities.map fun e =>
    match reuse e with
    | some text => ⟨e.id, text⟩
    | none => document disk root maxLines e

end CodeAtlas.Search
