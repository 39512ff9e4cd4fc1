import CodeAtlas.Html.Table

set_option autoImplicit false

/-! # Documents from texts

Every token is taken by the rules of the current mode, which may change the mode and take the token once
more. Elements of drawings and formulas have rules of their own. -/

namespace CodeAtlas.Html

namespace Building

/-! ## Before the body -/

/-- The first mode of a document without a type. -/
def startUntyped : Building Bool := do
  modify fun b => { b with legacy := true, mode := .beforeHtml }
  return true

/-- Imply the root of the document. -/
def implyRoot : Building Bool := do
  let _ ← insertImplied "html"
  goTo .beforeHead
  return true

/-- Imply the head. -/
def implyHead : Building Bool := do
  let id ← insertImplied "head"
  modify fun b => { b with head := some id, mode := .inHead }
  return true

/-- Leave the head. -/
def leaveHead : Building Bool := do
  pop
  goTo .afterHead
  return true

/-- Imply the body. -/
def implyBody : Building Bool := do
  let _ ← insertImplied "body"
  goTo .inBody
  return true

/-- Take the token by the rules of a body. -/
def backToBody : Building Bool := do
  goTo .inBody
  return true

/-- A start tag in a head. -/
def startInHead (t : Tag) : Building Bool := do
  if t.name = "html" then startInBody t
  else if t.name = "noscript" then startRaw t
  else if t.name = "head" then return false
  else if !(← startInHead? t) then return (← leaveHead)
  return false

/-- A start tag behind the head. -/
def startAfterHead (t : Tag) : Building Bool := do
  match t.name with
  | "html" => startInBody t
  | "body" =>
    insert_ t
    forbidFrames
    goTo .inBody
  | "frameset" =>
    insert_ t
    goTo .inFrameset
  | "head" => return false
  | _ =>
    let b ← get
    match b.head with
    | some head =>
      set { b with opened := ⟨head, .html, "head"⟩ :: b.opened }
      let isHead ← startInHead? t
      if isHead then closeElement head
      else
        modify fun b => { b with opened := b.opened.drop 1 }
        return (← implyBody)
    | none => return (← implyBody)
  return false

/-! ## Frames -/

/-- A start tag in a set of frames. -/
def startInFrames (t : Tag) : Building Unit := do
  match t.name with
  | "html" => startInBody t
  | "frameset" => insert_ t
  | "frame" => insertEmpty t .html
  | "noframes" => startRaw t
  | _ => return

/-- An end tag in a set of frames. -/
def endInFrames (t : Tag) : Building Unit := do
  if t.name = "frameset" ∧ 1 < (← get).opened.length then
    pop
    if !(← currentIs "frameset") then goTo .afterFrameset

/-- A start tag behind a set of frames. -/
def startAfterFrames (t : Tag) : Building Unit := do
  match t.name with
  | "html" => startInBody t
  | "noframes" => startRaw t
  | _ => return

/-! ## Tags by mode -/

/-- A start tag by the rules of the mode. -/
def startByMode (t : Tag) : Building Bool := do
  match (← get).mode with
  | .initial => startUntyped
  | .beforeHtml =>
    if t.name = "html" then
      insert_ t
      goTo .beforeHead
      return false
    else implyRoot
  | .beforeHead =>
    if t.name = "html" then
      startInBody t
      return false
    else if t.name = "head" then
      let id ← insert t
      modify fun b => { b with head := some id, mode := .inHead }
      return false
    else implyHead
  | .inHead => startInHead t
  | .afterHead => startAfterHead t
  | .inBody =>
    startInBody t
    return false
  | .text => return false
  | .inTable => startInTable t
  | .inTableText => return false
  | .inCaption => startInCaption t
  | .inColumnGroup => startInColumns t
  | .inTableBody => startInTableBody t
  | .inRow => startInRow t
  | .inCell => startInCell t
  | .inSelect => startInSelect t
  | .inSelectInTable => startInSelectInTable t
  | .inTemplate => startInTemplate t
  | .inFrameset =>
    startInFrames t
    return false
  | .afterFrameset =>
    startAfterFrames t
    return false
  | .afterAfterFrameset =>
    startAfterFrames t
    return false
  | .afterBody =>
    if t.name = "html" then
      startInBody t
      return false
    else backToBody
  | .afterAfterBody =>
    if t.name = "html" then
      startInBody t
      return false
    else backToBody

/-- Names of end tags that imply what was left out before the body. -/
def implyingEndNames : List String := ["body", "br", "head", "html"]

/-- An end tag by the rules of the mode. -/
def endByMode (t : Tag) : Building Bool := do
  let implies := implyingEndNames.contains t.name
  match (← get).mode with
  | .initial => startUntyped
  | .beforeHtml => if implies then implyRoot else return false
  | .beforeHead => if implies then implyHead else return false
  | .inHead =>
    if t.name = "head" then
      pop
      goTo .afterHead
      return false
    else if t.name = "template" then
      endTemplate
      return false
    else if implies then leaveHead
    else return false
  | .afterHead =>
    if t.name = "template" then
      endTemplate
      return false
    else if implies ∧ t.name ≠ "head" then implyBody
    else return false
  | .inBody =>
    endInBody t
    return false
  | .text =>
    pop
    goTo (← get).returnMode
    return false
  | .inTable => endInTable t
  | .inTableText => return false
  | .inCaption => endInCaption t
  | .inColumnGroup => endInColumns t
  | .inTableBody => endInTableBody t
  | .inRow => endInRow t
  | .inCell => endInCell t
  | .inSelect => endInSelect t
  | .inSelectInTable => endInSelectInTable t
  | .inTemplate =>
    if t.name = "template" then endTemplate
    return false
  | .inFrameset =>
    endInFrames t
    return false
  | .afterFrameset =>
    if t.name = "html" then goTo .afterAfterFrameset
    return false
  | .afterAfterFrameset => return false
  | .afterBody =>
    if t.name = "html" then
      endHtml ⟨t, true⟩
      return false
    else backToBody
  | .afterAfterBody => backToBody

/-! ## Text -/

/-- Text in a table, if other content has no place there. -/
def textInTable (cs : List Char) : Building Bool := do
  if ← currentIn tableStructureNames then
    let null := cs.head? = some '\x00'
    modify fun b => { b with
      pending := if null then [] else [cs], returnMode := b.mode, mode := .inTableText }
  else fostered (textInBody cs)
  return false

/-- Place the text of a table that waits: in it if all of it is white space, before it otherwise. -/
def placePending : Building Unit := do
  let b ← get
  let texts := b.pending.reverse
  set { b with pending := [], mode := b.returnMode }
  if texts.all (·.all isSpace) then texts.forM insertText
  else texts.forM fun cs => fostered (textInBody cs)

/-- Text by the rules of the mode: white space, null characters, or neither. -/
def textByMode (cs : List Char) : Building Bool := do
  let space := cs.all isSpace
  let null := cs.head? = some '\x00'
  let keep : Building Bool := do
    insertText cs
    return false
  let inBody : Building Bool := do
    textInBody cs
    return false
  match (← get).mode with
  | .initial => if space then return false else startUntyped
  | .beforeHtml => if space then return false else implyRoot
  | .beforeHead => if space then return false else implyHead
  | .inHead => if space then keep else leaveHead
  | .afterHead => if space then keep else implyBody
  | .inBody => inBody
  | .text => keep
  | .inTable => textInTable cs
  | .inTableBody => textInTable cs
  | .inRow => textInTable cs
  | .inTableText =>
    if !null then modify fun b => { b with pending := cs :: b.pending }
    return false
  | .inCaption => inBody
  | .inCell => inBody
  | .inTemplate => inBody
  | .inColumnGroup => if space then keep else leaveColumns
  | .inSelect => if null then return false else keep
  | .inSelectInTable => if null then return false else keep
  | .inFrameset => if space then keep else return false
  | .afterFrameset => if space then keep else return false
  | .afterAfterFrameset => if space then inBody else return false
  | .afterBody => if space then inBody else backToBody
  | .afterAfterBody => if space then inBody else backToBody

/-! ## The end -/

/-- Let everything that is open end where the document does. The body does so only if the document has a
    tag for its root. -/
def finish (stop : Nat) : Building Unit := do
  let c : Closing := ⟨⟨"", [], false, stop, stop⟩, false⟩
  let opened := (← get).opened.reverse
  (opened.drop 2).forM fun o => endAt o.id c
  match opened with
  | [] => return
  | root :: rest =>
    let written := (((← get).store.element? root.id).bind (·.span)).isSome
    if written && !(← isClosed root.id) then
      endAt root.id c
      match rest with
      | [] => return
      | second :: _ => if !(← isClosed second.id) then endAt second.id c

/-- The end of the document by the rules of the mode. -/
def endOfDocument (stop : Nat) : Building Bool := do
  let b ← get
  match b.mode with
  | .initial => startUntyped
  | .beforeHtml => implyRoot
  | .beforeHead => implyHead
  | .inHead => leaveHead
  | .afterHead => implyBody
  | .text =>
    pop
    goTo b.returnMode
    return true
  | _ =>
    let frames : List Mode := [.afterBody, .afterAfterBody, .inFrameset, .afterFrameset, .afterAfterFrameset]
    if !frames.contains b.mode ∧ !b.templateModes.isEmpty ∧ (← inTemplate) then
      leaveTemplate
      return true
    else
      finish stop
      return false

/-! ## Foreign elements -/

/-- Does the element hold HTML though it is foreign? -/
def holdsHtml (s : Store) (o : Opened) : Bool :=
  match o.space with
  | .html => false
  | .svg => svgTextNames.contains o.name
  | .math =>
    o.name = "annotation-xml" && (((s.element? o.id).bind (·.attribute? "encoding")).any fun v =>
      let v := String.ofList (lowered v.toList)
      v = "text/html" || v = "application/xhtml+xml")

/-- Does the element hold the text of a formula? -/
def holdsMathText (o : Opened) : Bool := o.space = .math && mathTextNames.contains o.name

/-- Is the innermost element foreign, and what it holds too? -/
def inForeign : Building Bool := do
  let b ← get
  return (b.opened.head?).any fun o => o.space ≠ .html && !holdsHtml b.store o && !holdsMathText o

/-- Is the start tag one of a foreign element? -/
def startsForeign (t : Tag) : Building Bool := do
  let b ← get
  match b.opened with
  | [] => return false
  | o :: _ =>
    if o.space = .html then return false
    else if t.name = "svg" ∧ o.space = .math ∧ o.name = "annotation-xml" then return false
    else return (← inForeign) || ((t.name = "mglyph" || t.name = "malignmark") && !holdsHtml b.store o)

/-- Names of drawings that are written with capital letters inside. -/
def drawingNames : List String :=
  ["altGlyph", "altGlyphDef", "altGlyphItem", "animateColor", "animateMotion", "animateTransform", "clipPath",
    "feBlend", "feColorMatrix", "feComponentTransfer", "feComposite", "feConvolveMatrix", "feDiffuseLighting",
    "feDisplacementMap", "feDistantLight", "feFlood", "feFuncA", "feFuncB", "feFuncG", "feFuncR",
    "feGaussianBlur", "feImage", "feMerge", "feMergeNode", "feMorphology", "feOffset", "fePointLight",
    "feSpecularLighting", "feSpotLight", "feTile", "feTurbulence", "foreignObject", "glyphRef",
    "linearGradient", "radialGradient", "textPath"]

/-- The name of an element of a drawing, given without capital letters. -/
def drawingName (name : String) : String :=
  (drawingNames.find? fun n => lowered n.toList = name.toList).getD name

/-- Tags that lead out of drawings and formulas. -/
def leavingNames : List String :=
  ["b", "big", "blockquote", "body", "br", "center", "code", "dd", "div", "dl", "dt", "em", "embed", "h1", "h2",
    "h3", "h4", "h5", "h6", "head", "hr", "i", "img", "li", "listing", "menu", "meta", "nobr", "ol", "p", "pre",
    "ruby", "s", "small", "span", "strong", "strike", "sub", "sup", "table", "tt", "u", "ul", "var"]

/-- Does the start tag lead out of drawings and formulas? -/
def leavesForeign (t : Tag) : Bool :=
  leavingNames.contains t.name
    || (t.name = "font" && t.attributes.any fun a => ["color", "size", "face"].contains a.1)

/-- Close foreign elements down to what may hold HTML. -/
def leaveForeign : Building Unit := do
  let s := (← get).store
  popUntil fun o => o.space = .html || holdsHtml s o || holdsMathText o

/-- The start tag of a foreign element. -/
def startForeign (t : Tag) : Building Bool := do
  if leavesForeign t then
    leaveForeign
    startByMode t
  else
    match ← current? with
    | some o =>
      let t := if o.space = .svg then { t with name := drawingName t.name } else t
      insertForeign t o.space
    | none => return false
    return false

/-- An end tag where the innermost element is foreign. -/
def endForeign (t : Tag) : Building Bool := do
  if t.name = "p" ∨ t.name = "br" then
    leaveForeign
    endByMode t
  else
    let opened := (← get).opened
    let matching (o : Opened) : Bool := lowered o.name.toList = t.name.toList
    let above := opened.takeWhile fun o => o.space ≠ .html && !matching o
    match opened.drop above.length with
    | o :: rest =>
      if rest.isEmpty then return false
      else if o.space = .html then endByMode t
      else
        modify fun b => { b with closing := some ⟨{ t with name := o.name }, true⟩ }
        popThrough (·.id = o.id)
        return false
    | [] => return false

/-! ## Tokens -/

/-- Pieces of a text: each is white space, null characters, or neither. -/
def runs (cs : List Char) : List (List Char) :=
  cs.splitBy fun a b => isSpace a == isSpace b && (a == '\x00') == (b == '\x00')

/-- Take a token as often as the rules ask for, at most `n` times. -/
def repeatUpTo (step : Building Bool) : Nat → Building Unit
  | 0 => return
  | n + 1 => do
    if ← step then repeatUpTo step n

/-- Take a token as often as the rules ask for. Each time an element is closed or the mode goes on. -/
def settle (step : Building Bool) : Building Unit := do
  repeatUpTo step (4 * (← get).opened.length + 32)

/-- Take the text of a table that waits, if there is any, before another token. -/
def settlePending : Building Unit := do
  if (← get).mode = .inTableText then placePending

/-- A piece of text. -/
def takeRun (cs : List Char) : Building Unit := do
  let b ← get
  set { b with dropsBreak := false }
  let cs := if b.dropsBreak ∧ cs.head? = some '\n' then cs.drop 1 else cs
  if cs.isEmpty then return
  else if ← inForeign then
    if cs.head? = some '\x00' then insertText (cs.map fun _ => replacement)
    else
      insertText cs
      if !cs.all isSpace then forbidFrames
  else settle (textByMode cs)

/-- A token that ends at an offset. -/
def take (token : Token) (stop : Nat) : Building Unit := do
  match token with
  | .nothing => return
  | .text cs => (runs cs).forM takeRun
  | _ =>
    settlePending
    modify fun b => { b with dropsBreak := false }
    match token with
    | .startTag t =>
      modify fun b => { b with closing := some ⟨t, false⟩ }
      settle do if ← startsForeign t then startForeign t else startByMode t
    | .endTag t =>
      modify fun b => { b with closing := some ⟨t, true⟩ }
      settle do
        if (← current?).any (·.space ≠ .html) then endForeign t else endByMode t
    | .doctype legacy =>
      if (← get).mode = .initial then modify fun b => { b with legacy, mode := .beforeHtml }
    | .stop => settle (endOfDocument stop)
    | _ => return

end Building

/-- Take the tokens of a text from an offset on, at most `n` of them. -/
def buildFrom (src : Syntax.Source) : Nat → Nat → Builder → Builder
  | 0, _, b => b
  | n + 1, p, b =>
    let foreign := ((Building.inForeign).run b).1
    let (token, mode, q) := nextToken src b.textMode foreign p
    let b := ((Building.take token q).run { b with textMode := mode }).2
    match token with
    | .stop => b
    | _ => buildFrom src n q b

/-- The document that a text describes. Line breaks are single line feeds. -/
def document (src : Syntax.Source) : List Node :=
  (buildFrom src (src.chars.size + 2) 0 .start).store.document

end CodeAtlas.Html
