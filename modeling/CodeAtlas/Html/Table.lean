import CodeAtlas.Html.Body

set_option autoImplicit false

/-! # Rules for tables, choices and templates

A rule tells whether the token has to be taken once more, by the rules that hold then. -/

namespace CodeAtlas.Html.Building

/-! ## Places in a table -/

/-- What rows and groups of rows may stand in. -/
def tableContext : List String := ["table", "template", "html"]

/-- What rows may stand in. -/
def bodyContext : List String := ["tbody", "tfoot", "thead", "template", "html"]

/-- What cells may stand in. -/
def rowContext : List String := ["tr", "template", "html"]

def groupNames : List String := ["tbody", "tfoot", "thead"]

def cellNames : List String := ["td", "th"]

/-- The parts of a table around rows. -/
def partNames : List String := ["caption", "col", "colgroup"] ++ groupNames

/-- Take a token by the rules of a body, with its content before the table. -/
def fostered (step : Building Unit) : Building Unit := do
  let before := (← get).fostering
  modify fun b => { b with fostering := true }
  step
  modify fun b => { b with fostering := before }

/-- Is a group of rows open in the table? -/
def groupInScope : Building Bool := opens (inTableScope groupNames)

/-- Leave a group of rows. -/
def leaveGroup : Building Unit := do
  popToContext bodyContext
  pop
  goTo .inTable

/-- Leave a row. -/
def leaveRow : Building Unit := do
  popToContext rowContext
  pop
  goTo .inTableBody

/-- Leave a cell. -/
def leaveCell : Building Unit := do
  popImplied
  popThrough fun o => o.space = .html && cellNames.contains o.name
  dropFormatting
  goTo .inRow

/-- Leave a caption. -/
def leaveCaption : Building Unit := do
  popImplied
  popThroughName "caption"
  dropFormatting
  goTo .inTable

/-! ## Tables -/

/-- A start tag in a table. -/
def startInTable (t : Tag) : Building Bool := do
  match t.name with
  | "caption" =>
    popToContext tableContext
    insertMarker
    insert_ t
    goTo .inCaption
    return false
  | "colgroup" =>
    popToContext tableContext
    insert_ t
    goTo .inColumnGroup
    return false
  | "col" =>
    popToContext tableContext
    let _ ← insertImplied "colgroup"
    goTo .inColumnGroup
    return true
  | "table" =>
    if ← opens (inTableScope ["table"]) then
      popThroughName "table"
      resetMode
      return true
    else return false
  | "input" =>
    if isHidden t then insertEmpty t .html else fostered (startInBody t)
    return false
  | "form" =>
    if (← get).form.isNone ∧ !(← inTemplate) then
      let id ← insert t
      modify fun b => { b with form := some id }
      pop
    return false
  | _ =>
    if groupNames.contains t.name then
      popToContext tableContext
      insert_ t
      goTo .inTableBody
      return false
    else if cellNames.contains t.name ∨ t.name = "tr" then
      popToContext tableContext
      let _ ← insertImplied "tbody"
      goTo .inTableBody
      return true
    else if ["style", "script", "template"].contains t.name then
      let _ ← startInHead? t
      return false
    else
      fostered (startInBody t)
      return false

/-- Tags that end nothing in a table. -/
def strayEndNames : List String := ["body", "html"] ++ partNames ++ cellNames ++ ["tr"]

/-- An end tag in a table. -/
def endInTable (t : Tag) : Building Bool := do
  if t.name = "table" then
    if ← opens (inTableScope ["table"]) then
      popThroughName "table"
      resetMode
  else if t.name = "template" then endTemplate
  else if strayEndNames.contains t.name then return false
  else fostered (endInBody t)
  return false

/-- A start tag in a group of rows. -/
def startInTableBody (t : Tag) : Building Bool := do
  if t.name = "tr" then
    popToContext bodyContext
    insert_ t
    goTo .inRow
    return false
  else if cellNames.contains t.name then
    popToContext bodyContext
    let _ ← insertImplied "tr"
    goTo .inRow
    return true
  else if partNames.contains t.name then
    if ← groupInScope then
      leaveGroup
      return true
    else return false
  else startInTable t

/-- An end tag in a group of rows. -/
def endInTableBody (t : Tag) : Building Bool := do
  if groupNames.contains t.name then
    if ← opens (inTableScope [t.name]) then leaveGroup
    return false
  else if t.name = "table" then
    if ← groupInScope then
      leaveGroup
      return true
    else return false
  else if strayEndNames.contains t.name then return false
  else endInTable t

/-- A start tag in a row. -/
def startInRow (t : Tag) : Building Bool := do
  if cellNames.contains t.name then
    popToContext rowContext
    insert_ t
    goTo .inCell
    insertMarker
    return false
  else if partNames.contains t.name ∨ t.name = "tr" then
    if ← opens (inTableScope ["tr"]) then
      leaveRow
      return true
    else return false
  else startInTable t

/-- An end tag in a row. -/
def endInRow (t : Tag) : Building Bool := do
  if t.name = "tr" then
    if ← opens (inTableScope ["tr"]) then leaveRow
    return false
  else if t.name = "table" then
    if ← opens (inTableScope ["tr"]) then
      leaveRow
      return true
    else return false
  else if groupNames.contains t.name then
    if (← opens (inTableScope [t.name])) || (← opens (inTableScope ["tr"])) then
      leaveRow
      return true
    else return false
  else if strayEndNames.contains t.name then return false
  else endInTable t

/-- A start tag in a cell. -/
def startInCell (t : Tag) : Building Bool := do
  if partNames.contains t.name ∨ cellNames.contains t.name ∨ t.name = "tr" then
    if ← opens (inTableScope cellNames) then
      leaveCell
      return true
    else return false
  else
    startInBody t
    return false

/-- An end tag in a cell. -/
def endInCell (t : Tag) : Building Bool := do
  if cellNames.contains t.name then
    if ← opens (inTableScope [t.name]) then
      popImplied
      popThroughName t.name
      dropFormatting
      goTo .inRow
    return false
  else if tableStructureNames.contains t.name then
    if ← opens (inTableScope [t.name]) then
      leaveCell
      return true
    else return false
  else if strayEndNames.contains t.name then return false
  else
    endInBody t
    return false

/-- A start tag in a caption. -/
def startInCaption (t : Tag) : Building Bool := do
  if partNames.contains t.name ∨ cellNames.contains t.name ∨ t.name = "tr" then
    if ← opens (inTableScope ["caption"]) then
      leaveCaption
      return true
    else return false
  else
    startInBody t
    return false

/-- An end tag in a caption. -/
def endInCaption (t : Tag) : Building Bool := do
  if t.name = "caption" ∨ t.name = "table" then
    if ← opens (inTableScope ["caption"]) then
      leaveCaption
      return t.name = "table"
    else return false
  else if strayEndNames.contains t.name then return false
  else
    endInBody t
    return false

/-- Leave a group of columns, if one is open. -/
def leaveColumns : Building Bool := do
  if ← currentIs "colgroup" then
    pop
    goTo .inTable
    return true
  else return false

/-- A start tag in a group of columns. -/
def startInColumns (t : Tag) : Building Bool := do
  match t.name with
  | "html" =>
    startInBody t
    return false
  | "col" =>
    insertEmpty t .html
    return false
  | "template" =>
    let _ ← startInHead? t
    return false
  | _ => leaveColumns

/-- An end tag in a group of columns. -/
def endInColumns (t : Tag) : Building Bool := do
  match t.name with
  | "colgroup" =>
    let _ ← leaveColumns
    return false
  | "template" =>
    endTemplate
    return false
  | "col" => return false
  | _ => leaveColumns

/-! ## Choices -/

/-- A start tag in a choice. -/
def startInSelect (t : Tag) : Building Bool := do
  match t.name with
  | "html" => startInBody t
  | "option" =>
    if ← currentIs "option" then pop
    insert_ t
  | "optgroup" =>
    if ← currentIs "option" then pop
    if ← currentIs "optgroup" then pop
    insert_ t
  | "hr" =>
    if ← currentIs "option" then pop
    if ← currentIs "optgroup" then pop
    insertEmpty t .html
  | "script" =>
    let _ ← startInHead? t
  | "template" =>
    let _ ← startInHead? t
  | _ =>
    if ["input", "keygen", "textarea", "select"].contains t.name ∧ (← opens selectInScope) then
      popThroughName "select"
      resetMode
      return t.name ≠ "select"
  return false

/-- An end tag in a choice. -/
def endInSelect (t : Tag) : Building Bool := do
  match t.name with
  | "optgroup" =>
    match (← get).opened with
    | o :: next :: _ => if o.name = "option" ∧ next.name = "optgroup" then pop
    | _ => pure ()
    if ← currentIs "optgroup" then pop
  | "option" => if ← currentIs "option" then pop
  | "select" =>
    if ← opens selectInScope then
      popThroughName "select"
      resetMode
  | "template" => endTemplate
  | _ => pure ()
  return false

def choiceEndNames : List String := ["caption"] ++ tableStructureNames ++ cellNames

/-- A start tag in a choice in a table. -/
def startInSelectInTable (t : Tag) : Building Bool := do
  if choiceEndNames.contains t.name then
    popThroughName "select"
    resetMode
    return true
  else startInSelect t

/-- An end tag in a choice in a table. -/
def endInSelectInTable (t : Tag) : Building Bool := do
  if choiceEndNames.contains t.name then
    if ← opens (inTableScope [t.name]) then
      popThroughName "select"
      resetMode
      return true
    else return false
  else endInSelect t

/-! ## Templates -/

/-- The mode that a start tag gives the template it stands in. -/
def templateModeFor (name : String) : Mode :=
  if name = "caption" ∨ name = "colgroup" ∨ groupNames.contains name then .inTable
  else if name = "col" then .inColumnGroup
  else if name = "tr" then .inTableBody
  else if cellNames.contains name then .inRow
  else .inBody

/-- A start tag in a template. -/
def startInTemplate (t : Tag) : Building Bool := do
  if ← startInHead? t then return false
  else
    let m := templateModeFor t.name
    modify fun b => { b with mode := m, templateModes := m :: b.templateModes.drop 1 }
    return true

end CodeAtlas.Html.Building
