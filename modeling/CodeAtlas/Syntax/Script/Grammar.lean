import CodeAtlas.Syntax.Script.Statement
import CodeAtlas.Path

set_option autoImplicit false

/-! # Programs in JavaScript and TypeScript

The reading of each rule, and the tree of a whole program. -/

namespace CodeAtlas.Syntax.Script

/-- The reading of each rule. -/
def rules : Rule → Read (List Node)
  | .expression e => return [← expression e]
  | .conditional e => return [← conditional e]
  | .sequence e => return [← sequence e]
  | .binary least e => return [← binary least e]
  | .unary e => return [← unary e]
  | .operand e => return [← operand e]
  | .typeOf e => return [← typeOf e]
  | .primaryType e => return [← primaryType e]
  | .pattern => return [← pattern]
  | .parameters => return [← parameters]
  | .objectType => return [← objectType]
  | .classBody => return [← classBody]
  | .block e => return [← block e]
  | .element => return [← element]
  | .decorator => return [← decorator]
  | .statement => return [← statement]

/-- The statements of a program from an offset on. Where the text ends too early, the statement that is
    not finished does not fit. -/
def statementsFrom (d : Dialect) (src : Source) : Nat → Nat → Except Nat (List Node)
  | 0, p => .error p
  | n + 1, p =>
    let q := gapStop src p
    if src.chars.size ≤ q then .ok []
    else match readRule rules src d (depthFor src) .statement p with
      | .error e => .error (if src.chars.size ≤ e then q else e)
      | .ok (statements, r) => (statementsFrom d src n r).map (statements ++ ·)

/-- The line at the start of a program that names its interpreter. -/
def interpreterLine (src : Source) : List Node :=
  if src.chars[0]? = some '#' ∧ src.chars[1]? = some '!' then
    [.leaf "hash_bang_line" 0 (src.runStop (!endsLine ·) 0)]
  else []

/-- The tree of a program. -/
def grammar (d : Dialect) (src : Source) : Node :=
  let first := interpreterLine src
  match statementsFrom d src (src.chars.size + 1) (Node.stopOf first) with
  | .error p => .refused "program" src p
  | .ok statements =>
    let root := Node.mk { kind := "program", start := 0, stop := src.chars.size } (first ++ statements)
    root.withExtras (extras src) src

/-- JavaScript, which may hold markup. -/
def plain : Dialect := ⟨false, true⟩

/-- TypeScript. Only files with an extension of their own hold markup. -/
def typed (path : String) : Dialect := ⟨true, path.endsWith ".tsx"⟩

end CodeAtlas.Syntax.Script
