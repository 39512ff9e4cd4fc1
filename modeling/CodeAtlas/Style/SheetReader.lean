import CodeAtlas.Dict
import CodeAtlas.Reader
import CodeAtlas.Reference
import CodeAtlas.Style.Sheet
import CodeAtlas.Syntax.Tree

set_option autoImplicit false

/-! # Reading style sheets

Rules, at-rules with blocks and custom properties become entities; imported sheets become references of
the file. -/

namespace CodeAtlas.Style

open Syntax (Source)

/-! ## All nodes -/

mutual

/-- A node and everything inside it, parents first. -/
def SheetNode.flatten : SheetNode → List SheetNode
  | .comment => [.comment]
  | .declaration p v a b => [.declaration p v a b]
  | .atRule n p a b children => .atRule n p a b children :: flattenAll children
  | .rule s a b e children => .rule s a b e children :: flattenAll children

/-- The nodes of a list and everything inside them, parents first. -/
def flattenAll : List SheetNode → List SheetNode
  | [] => []
  | n :: rest => n.flatten ++ flattenAll rest

end

/-! ## Entities -/

/-- At-rules that become entities. -/
def blockAtRules : List String :=
  ["media", "supports", "keyframes", "font-face", "layer", "container", "page"]

/-- The path that an import names, if the node is an import. -/
def SheetNode.importTarget? : SheetNode → Option String
  | .atRule "import" parameters _ _ _ => Reference.importTarget? parameters
  | _ => none

def lineOf (src : Source) (offset : Nat) : Rat := src.row offset + 1

/-- The last line of a node; one without an end ends where it starts. -/
def lastLine (src : Source) (start : Nat) : Option Nat → Rat
  | some stop => lineOf src (stop - 1)
  | none => lineOf src start

/-- The entity of an at-rule. -/
def atRuleEntity? (path : String) (src : Source) : SheetNode → Option Entity
  | .atRule "import" parameters start stop _ =>
    (Reference.importTarget? parameters).map fun target =>
      Entity.create {
        kind := .importDecl, path, name := target
        startLine := lineOf src start, endLine := lastLine src start stop
        metadata := [("module", .text target)] }
  | .atRule name parameters start stop _ =>
    if Unicode.lower name ∈ blockAtRules then
      some <| Entity.create {
        kind := .styleRule, path, name := Text.trim ("@" ++ name ++ " " ++ parameters)
        startLine := lineOf src start, endLine := lastLine src start stop
        metadata := [("atRule", .text name)] }
    else none
  | _ => none

/-- The property that a node declares. -/
def SheetNode.property? : SheetNode → Option String
  | .declaration p _ _ _ => some p
  | _ => none

/-- The entity of a rule. -/
def ruleEntity? (path : String) (src : Source) : SheetNode → Option Entity
  | .rule selector start stop _ children =>
    some <| Entity.create {
      kind := .styleRule, path, name := selector
      startLine := lineOf src start, endLine := lastLine src start (some stop)
      content := some (Text.takeUnits 400 (src.slice start stop))
      metadata := [("selectors", .list (selectors selector)),
        ("properties", .list (children.filterMap SheetNode.property?))] }
  | _ => none

/-- The entity of a custom property. -/
def variableEntity? (path : String) (src : Source) : SheetNode → Option Entity
  | .declaration property value start stop =>
    if property.startsWith "--" then
      some <| Entity.create {
        kind := .variableDecl, path, name := property
        startLine := lineOf src start, endLine := lastLine src start (some stop)
        metadata := [("value", .text value)] }
    else none
  | _ => none

/-! ## The reader -/

/-- The text without a byte-order mark at its start, in either byte order. -/
def dropOrderMark (s : String) : String :=
  match s.toList with
  | c :: rest => if c = '\ufeff' ∨ c = '\ufffe' then String.ofList rest else s
  | [] => s

/-- The line and column of an offset, columns in UTF-16 units. -/
def position (src : Source) (offset : Nat) : String :=
  let line := (((src.chars.extract 0 offset).toList.reverse).takeWhile (· ≠ '\n')).reverse
  toString (src.row offset + 1) ++ ":" ++ toString (Text.unitLength (String.ofList line) + 1)

/-- A hint for sheets in a dialect that is not read here, by the name of the file. -/
def dialectHint (path : String) : String :=
  let lowered := Unicode.lower path
  let hint (name reader : String) : String :=
    "\nYou tried to parse " ++ name ++ " with the standard CSS parser; try again with the postcss-"
      ++ reader ++ " parser"
  if lowered.endsWith ".scss" then hint "SCSS" "scss"
  else if Text.includes lowered ".sass" then hint "Sass" "sass"
  else if lowered.endsWith ".less" then hint "Less" "less"
  else ""

def Defect.message (d : Defect) (path : String) (src : Source) : String :=
  path ++ ((d.offset.map fun o => ":" ++ position src o).getD "") ++ ": " ++ d.reason ++ dialectHint path

/-- What a style sheet says. -/
def extract (file : SourceFile) : Except String Extraction :=
  let src := Source.ofString (dropOrderMark file.source)
  match sheet src.chars.toList with
  | .error d => .error (d.message file.absolutePath src)
  | .ok nodes =>
    let all := flattenAll nodes
    .ok {
      entities := all.filterMap (atRuleEntity? file.path src)
        ++ all.filterMap (ruleEntity? file.path src)
        ++ all.filterMap (variableEntity? file.path src)
      relationships := []
      fileMetadata := [("imports", .list (distinct (all.filterMap SheetNode.importTarget?)))] }

/-- The reader of style sheets. -/
def reader : Reader where
  language := "css"
  extensions := [".css"]
  kinds := [.styleRule, .variableDecl, .importDecl]
  extract := extract

end CodeAtlas.Style
