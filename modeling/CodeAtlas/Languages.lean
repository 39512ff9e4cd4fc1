import CodeAtlas.Html.HtmlReader
import CodeAtlas.Markdown.MarkdownReader
import CodeAtlas.Registry
import CodeAtlas.Style.SheetReader
import CodeAtlas.Syntax.Python.Grammar
import CodeAtlas.Syntax.Python.Symbols
import CodeAtlas.Syntax.Script.Grammar
import CodeAtlas.Syntax.Script.Symbols

set_option autoImplicit false

/-! # The built-in languages -/

namespace CodeAtlas.Languages

open Syntax

/-- Python. -/
def python : Language where
  name := "python"
  extensions := [".py", ".pyi"]
  kinds := Python.kinds
  grammar _ := Python.grammar
  collect := Python.collect
  moduleDocstring cx tree := Python.bodyDocstring cx (some tree)

/-- JavaScript. -/
def javascript : Language where
  name := "javascript"
  extensions := [".js", ".jsx", ".mjs", ".cjs"]
  kinds := Script.kinds
  grammar _ := Script.grammar Script.plain
  collect := Script.collect false

/-- TypeScript. -/
def typescript : Language where
  name := "typescript"
  extensions := [".ts", ".tsx", ".mts", ".cts"]
  kinds := Script.typedKinds
  grammar path := Script.grammar (Script.typed path)
  collect := Script.collect true

/-- The languages that are read by their syntax trees. -/
def programming : List Language := [python, javascript, typescript]

def readers : List Reader := programming.map Language.toReader ++ [Markdown.reader, Html.reader, Style.reader]

/-- The registry of the built-in readers. -/
def registry : Registry :=
  readers.foldl (fun r l => r.register l.language l.toParser) .empty

end CodeAtlas.Languages
