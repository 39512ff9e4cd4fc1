import CodeAtlas.Html.Building

set_option autoImplicit false

/-! # Rules for heads and bodies

What the tags and texts of the head and the body of a document do. The rules for tables and for the other
parts of a document fall back on these. -/

namespace CodeAtlas.Html.Building

/-! ## Heads -/

/-- The start of a template. -/
def startTemplate (t : Tag) : Building Unit := do
  let _ ← insert t
  insertMarker
  modify fun b => { b with
    framesAllowed := false, mode := .inTemplate, templateModes := .inTemplate :: b.templateModes }

/-- Elements of a head that hold nothing. -/
def emptyHeadNames : List String := ["base", "basefont", "bgsound", "link", "meta"]

/-- The start of an element that belongs to a head, if it is one. -/
def startInHead? (t : Tag) : Building Bool := do
  match t.name with
  | "title" => insertTextElement t (.resolved t.name)
  | "noframes" => insertTextElement t (.raw t.name)
  | "style" => insertTextElement t (.raw t.name)
  | "script" => insertTextElement t .script
  | "template" => startTemplate t
  | _ =>
    if emptyHeadNames.contains t.name then insertEmpty t .html
    else return false
  return true

/-- The mode for what is open now. -/
def modeFor (hasHead : Bool) (templateModes : List Mode) : List Opened → Mode
  | [] => .inBody
  | o :: rest =>
    match o.name with
    | "tr" => .inRow
    | "tbody" => .inTableBody
    | "thead" => .inTableBody
    | "tfoot" => .inTableBody
    | "caption" => .inCaption
    | "colgroup" => .inColumnGroup
    | "table" => .inTable
    | "body" => .inBody
    | "frameset" => .inFrameset
    | "select" =>
      let around := rest.takeWhile fun o => o.name ≠ "template"
      if around.any fun o => o.name = "table" then .inSelectInTable else .inSelect
    | "template" => (templateModes.head?).getD .inBody
    | "html" => if hasHead then .afterHead else .beforeHead
    | "td" => if rest.isEmpty then modeFor hasHead templateModes rest else .inCell
    | "th" => if rest.isEmpty then modeFor hasHead templateModes rest else .inCell
    | "head" => if rest.isEmpty then modeFor hasHead templateModes rest else .inHead
    | _ => modeFor hasHead templateModes rest

/-- Go on by the rules for what is open now. -/
def resetMode : Building Unit :=
  modify fun b => { b with mode := modeFor b.head.isSome b.templateModes b.opened }

/-- Leave the innermost template. -/
def leaveTemplate : Building Unit := do
  popThroughName "template"
  dropFormatting
  modify fun b => { b with templateModes := b.templateModes.drop 1 }
  resetMode

/-- The end tag of a template. -/
def endTemplate : Building Unit := do
  if ← inTemplate then
    popImpliedInTables
    leaveTemplate

/-! ## Bodies: start tags -/

/-- Frames may no longer take the place of the body. -/
def forbidFrames : Building Unit := modify fun b => { b with framesAllowed := false }

/-- Place an element and open it. -/
def insert_ (t : Tag) : Building Unit := do
  let _ ← insert t

/-- The body, if it is open where it belongs. -/
def openBody? : Building (Option Nat) := do
  match (← get).opened.reverse with
  | _ :: o :: _ => return if o.name = "body" then some o.id else none
  | _ => return none

def formattingNames : List String :=
  ["b", "big", "code", "em", "font", "i", "s", "small", "strike", "strong", "tt", "u"]

/-- Blocks, which end a paragraph. -/
def blockNames : List String :=
  ["address", "article", "aside", "blockquote", "center", "details", "dialog", "dir", "div", "dl", "fieldset",
    "figcaption", "figure", "footer", "header", "hgroup", "main", "menu", "nav", "ol", "search", "section",
    "summary", "ul"]

/-- Elements in text that hold nothing. -/
def emptyTextNames : List String := ["area", "br", "embed", "img", "keygen", "wbr"]

/-- Elements around foreign content. -/
def objectNames : List String := ["applet", "marquee", "object"]

/-- Tags that stand for nothing in a body. -/
def strayNames : List String :=
  ["caption", "col", "colgroup", "frame", "head", "tbody", "td", "tfoot", "th", "thead", "tr"]

/-- Attributes of foreign elements whose names are shortened. -/
def foreignAttributeNames : List (String × String) :=
  [("xlink:actuate", "actuate"), ("xlink:arcrole", "arcrole"), ("xlink:href", "href"), ("xlink:role", "role"),
    ("xlink:show", "show"), ("xlink:title", "title"), ("xlink:type", "type"), ("xml:lang", "lang"),
    ("xml:space", "space")]

/-- The tag as one of a foreign element. -/
def foreignTag (t : Tag) : Tag :=
  { t with attributes := t.attributes.map fun (name, value) =>
      ((foreignAttributeNames.lookup name).getD name, value) }

/-- Place the element of a tag of a foreign vocabulary. -/
def insertForeign (t : Tag) (space : Space) : Building Unit := do
  let t := foreignTag t
  if t.selfClosing then insertEmpty t space
  else
    let _ ← insertElement (elementOf space t)

/-- Close the items of a list or the terms of a glossary before a new one. -/
def closeItems (names : List String) : List Opened → Building Unit
  | [] => return
  | o :: rest => do
    if names.contains o.name then
      popImpliedBut o.name
      popThroughName o.name
    else if o.isSpecial ∧ o.name ≠ "address" ∧ o.name ≠ "div" ∧ o.name ≠ "p" then return
    else closeItems names rest

/-- The start of an item. -/
def startItem (t : Tag) (names : List String) : Building Unit := do
  forbidFrames
  closeItems names (← get).opened
  closeParagraphInScope
  insert_ t

/-- The start of a form. -/
def startForm (t : Tag) : Building Unit := do
  let templated ← inTemplate
  if (← get).form.isNone ∨ templated then
    closeParagraphInScope
    let id ← insert t
    if !templated then modify fun b => { b with form := some id }

/-- The start of a hyperlink. -/
def startAnchor (t : Tag) : Building Unit := do
  match Formatting.find? (← get).formatting "a" with
  | some (id, _) =>
    endFormatting "a" splitLimit
    closeElement id
    removeFormatting id
  | none => pure ()
  reopenFormatting
  insertFormatting t

/-- The start of a choice. -/
def startSelect (t : Tag) : Building Unit := do
  reopenFormatting
  insert_ t
  forbidFrames
  let tableModes : List Mode := [.inTable, .inCaption, .inTableBody, .inRow, .inCell]
  modify fun b => { b with mode := if tableModes.contains b.mode then .inSelectInTable else .inSelect }

/-- The start of a set of frames. -/
def startFrames (t : Tag) : Building Unit := do
  match ← openBody? with
  | some body =>
    if (← get).framesAllowed then
      onStore fun s => s.detach body
      popSeveral ((← get).opened.length - 1)
      insert_ t
      goTo .inFrameset
  | none => return

/-- Is the tag an input that is not shown? -/
def isHidden (t : Tag) : Bool :=
  (attributeOf? t.attributes "type").any fun v => lowered v.toList = "hidden".toList

/-- The start of an element around text that is no markup. -/
def startRaw (t : Tag) : Building Unit := insertTextElement t (.raw t.name)

/-- The start tag of any other element. -/
def startOther (t : Tag) : Building Unit := do
  reopenFormatting
  insert_ t

/-- A start tag in a body that has rules of its own. -/
def startByName (t : Tag) : Building Unit := do
  match t.name with
  | "html" =>
    if !(← inTemplate) then
      match (← get).opened.getLast? with
      | some o => adoptAttributes o.id t
      | none => return
  | "body" =>
    match ← openBody? with
    | some id =>
      if !(← inTemplate) then
        forbidFrames
        adoptAttributes id t
    | none => return
  | "frameset" => startFrames t
  | "pre" =>
    closeParagraphInScope
    insert_ t
    modify fun b => { b with dropsBreak := true, framesAllowed := false }
  | "listing" =>
    closeParagraphInScope
    insert_ t
    modify fun b => { b with dropsBreak := true, framesAllowed := false }
  | "form" => startForm t
  | "li" => startItem t ["li"]
  | "dd" => startItem t ["dd", "dt"]
  | "dt" => startItem t ["dd", "dt"]
  | "plaintext" =>
    closeParagraphInScope
    insert_ t
    modify fun b => { b with textMode := .plain }
  | "button" =>
    if ← opens (inScope "button") then
      popImplied
      popThroughName "button"
    reopenFormatting
    insert_ t
    forbidFrames
  | "a" => startAnchor t
  | "nobr" =>
    reopenFormatting
    if ← opens (inScope "nobr") then
      endFormatting "nobr" splitLimit
      reopenFormatting
    insertFormatting t
  | "table" =>
    if !(← get).legacy then closeParagraphInScope
    insert_ t
    forbidFrames
    goTo .inTable
  | "input" =>
    reopenFormatting
    insertEmpty t .html
    if !isHidden t then forbidFrames
  | "hr" =>
    closeParagraphInScope
    insertEmpty t .html
    forbidFrames
  | "image" =>
    reopenFormatting
    insertEmpty { t with name := "img" } .html
    forbidFrames
  | "textarea" =>
    insertTextElement t (.resolved t.name)
    modify fun b => { b with dropsBreak := true, framesAllowed := false }
  | "xmp" =>
    closeParagraphInScope
    reopenFormatting
    forbidFrames
    startRaw t
  | "iframe" =>
    forbidFrames
    startRaw t
  | "noembed" => startRaw t
  | "noscript" => startRaw t
  | "select" => startSelect t
  | "math" =>
    reopenFormatting
    insertForeign t .math
  | "svg" =>
    reopenFormatting
    insertForeign t .svg
  | _ => startOther t

/-- A start tag in a body. -/
def startInBody (t : Tag) : Building Unit := do
  if ← startInHead? t then return
  else if formattingNames.contains t.name then
    reopenFormatting
    insertFormatting t
  else if blockNames.contains t.name ∨ t.name = "p" then
    closeParagraphInScope
    insert_ t
  else if headingNames.contains t.name then
    closeParagraphInScope
    if ← currentIn headingNames then pop
    insert_ t
  else if emptyTextNames.contains t.name then
    reopenFormatting
    insertEmpty t .html
    forbidFrames
  else if objectNames.contains t.name then
    reopenFormatting
    insert_ t
    insertMarker
    forbidFrames
  else if ["param", "source", "track"].contains t.name then insertEmpty t .html
  else if t.name = "optgroup" ∨ t.name = "option" then
    if ← currentIs "option" then pop
    reopenFormatting
    insert_ t
  else if t.name = "rb" ∨ t.name = "rtc" then
    if ← opens (inScope "ruby") then popImplied
    insert_ t
  else if t.name = "rp" ∨ t.name = "rt" then
    if ← opens (inScope "ruby") then popImpliedBut "rtc"
    insert_ t
  else if strayNames.contains t.name then return
  else startByName t

/-! ## Bodies: end tags -/

/-- End an element of that name and what is open in it, if it is in scope. -/
def endInScope (name : String) : Building Unit := do
  if ← opens (inScope name) then
    popImplied
    popThroughName name

/-- The end tag of a form. -/
def endForm : Building Unit := do
  let templated ← inTemplate
  let form := (← get).form
  if !templated then modify fun b => { b with form := none }
  if (form.isSome ∨ templated) ∧ (← opens (inScope "form")) then
    popImplied
    if templated then popThroughName "form"
    else match form with
      | some id => closeElement id
      | none => return

/-- Does an element reach to its own end tag? -/
def isClosed (id : Nat) : Building Bool := do
  return (((← get).store.element? id).bind (·.span)).any (·.closed)

/-- The end tag of the whole document. -/
def endHtml (c : Closing) : Building Unit := do
  goTo .afterAfterBody
  match (← get).opened.reverse with
  | [] => return
  | root :: rest =>
    endAt root.id c
    match rest with
    | [] => return
    | second :: _ => if !(← isClosed second.id) then endAt second.id c

/-- The end tag of the body. -/
def endBody (c : Closing) : Building Unit := do
  if ← opens (inScope "body") then
    goTo .afterBody
    match ← openBody? with
    | some id => endAt id c
    | none => return

/-- An end tag in a body. -/
def endInBody (t : Tag) : Building Unit := do
  let formats := formattingNames.contains t.name || t.name = "a" || t.name = "nobr"
  let isBlock := blockNames.contains t.name || ["button", "listing", "pre"].contains t.name
  if formats then endFormatting t.name splitLimit
  else if isBlock then endInScope t.name
  else if headingNames.contains t.name then
    if ← opens (inScopeOf scopeNames headingNames) then
      popImplied
      popThrough fun o => o.space = .html && headingNames.contains o.name
  else if objectNames.contains t.name then
    if ← opens (inScope t.name) then
      popImplied
      popThroughName t.name
      dropFormatting
  else match t.name with
    | "p" =>
      if !(← opens paragraphInScope) then
        let _ ← insertImplied "p"
      closeParagraph
    | "li" =>
      if ← opens (inScopeOf listScopeNames ["li"]) then
        popImpliedBut "li"
        popThroughName "li"
    | "br" =>
      reopenFormatting
      let _ ← insertImplied "br"
      pop
      forbidFrames
    | "body" => endBody ⟨t, true⟩
    | "html" => if ← opens (inScope "body") then endHtml ⟨t, true⟩
    | "form" => endForm
    | "template" => endTemplate
    | _ =>
      if t.name = "dd" ∨ t.name = "dt" then
        if ← opens (inScope t.name) then
          popImpliedBut t.name
          popThroughName t.name
      else endOther t.name

/-! ## Bodies: text -/

/-- Text of a body: white space, null characters, or neither. -/
def textInBody (cs : List Char) : Building Unit := do
  if cs.head? = some '\x00' then return
  reopenFormatting
  insertText cs
  if !cs.all isSpace then forbidFrames

end CodeAtlas.Html.Building
