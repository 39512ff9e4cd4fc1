import CodeAtlas.Html.Open

set_option autoImplicit false

/-! # Building a document

What is known of a document while its tokens are read, and the steps that all rules share: opening and
closing elements, placing text, and repairing misnested formatting. -/

namespace CodeAtlas.Html

/-- The rules by which tokens are taken. -/
inductive Mode where
  | initial
  | beforeHtml
  | beforeHead
  | inHead
  | afterHead
  | inBody
  | text
  | inTable
  | inTableText
  | inCaption
  | inColumnGroup
  | inTableBody
  | inRow
  | inCell
  | inSelect
  | inSelectInTable
  | inTemplate
  | afterBody
  | inFrameset
  | afterFrameset
  | afterAfterBody
  | afterAfterFrameset
deriving DecidableEq

/-- A tag that may close elements. -/
structure Closing where
  tag : Tag
  isEnd : Bool

/-- What is known of a document while it is built. -/
structure Builder where
  store : Store
  /-- The open elements, innermost first. -/
  opened : List Opened
  /-- The formatting elements, newest first. -/
  formatting : List Formatting
  mode : Mode
  /-- The mode to go back to behind text. -/
  returnMode : Mode
  /-- The modes of the open templates, innermost first. -/
  templateModes : List Mode
  /-- How the tokenizer reads on. -/
  textMode : TextMode
  head : Option Nat
  form : Option Nat
  /-- The last tag. -/
  closing : Option Closing
  /-- May frames still take the place of the body? -/
  framesAllowed : Bool
  /-- Do the rules of old browsers hold? -/
  legacy : Bool
  /-- Is content that has no place in a table put before it? -/
  fostering : Bool
  /-- Is a line break at the start of the next text dropped? -/
  dropsBreak : Bool
  /-- Text in a table that was not placed yet. -/
  pending : List (List Char)

/-- Before the first token. -/
def Builder.start : Builder where
  store := .empty
  opened := []
  formatting := []
  mode := .initial
  returnMode := .initial
  templateModes := []
  textMode := .markup
  head := none
  form := none
  closing := none
  framesAllowed := true
  legacy := false
  fostering := false
  dropsBreak := false
  pending := []

/-- A step of building. -/
abbrev Building := StateM Builder

namespace Building

/-! ## What is open -/

/-- The innermost open element. -/
def current? : Building (Option Opened) := return (← get).opened.head?

/-- Is the innermost open element that element? -/
def currentIs (name : String) : Building Bool := return ((← get).opened.head?).any (·.name = name)

/-- Is the innermost open element one of those? -/
def currentIn (names : List String) : Building Bool :=
  return ((← get).opened.head?).any fun o => names.contains o.name

def opens (test : List Opened → Bool) : Building Bool := return test (← get).opened

def isOpen (id : Nat) : Building Bool := return (← get).opened.any (·.id = id)

def inTemplate : Building Bool := return (← get).opened.any (·.isHtml "template")

def goTo (m : Mode) : Building Unit := modify fun b => { b with mode := m }

def onStore (f : Store → Store) : Building Unit := modify fun b => { b with store := f b.store }

/-! ## Where elements end -/

/-- An element ends at a tag: behind its own end tag, before any other tag. -/
def setEnd (e : Element) (c : Closing) : Element :=
  match e.span with
  | none => e
  | some span =>
    if c.isEnd ∧ c.tag.name = e.name then { e with span := some ⟨span.start, c.tag.stop, true⟩ }
    else { e with span := some { span with stop := c.tag.start } }

/-- Let an element end at a tag. -/
def endAt (id : Nat) (c : Closing) : Building Unit :=
  onStore fun s => s.modify id fun slot => { slot with element := setEnd slot.element c }

/-- Let an element end at the last tag. -/
def endAtLast (id : Nat) : Building Unit := do
  match (← get).closing with
  | some c => endAt id c
  | none => return

/-! ## Closing -/

/-- Close the innermost element. -/
def pop : Building Unit := do
  match (← get).opened with
  | [] => return
  | o :: rest =>
    modify fun b => { b with opened := rest }
    endAtLast o.id

/-- Close the innermost elements, so many. -/
def popSeveral : Nat → Building Unit
  | 0 => return
  | n + 1 => do
    pop
    popSeveral n

/-- Close elements down to the first that passes a test, without it. All of them if none does. -/
def popUntil (test : Opened → Bool) : Building Unit := do
  popSeveral ((← get).opened.takeWhile (!test ·)).length

/-- Close elements down to the first that passes a test, and it too. All of them if none does. -/
def popThrough (test : Opened → Bool) : Building Unit := do
  popUntil test
  pop

/-- Close elements up to and with the innermost of that name. -/
def popThroughName (name : String) : Building Unit := popThrough (·.isHtml name)

/-- Close what ends without an end tag. -/
def popImplied : Building Unit := popUntil fun o => !impliedEndNames.contains o.name

/-- Close what ends without an end tag, the parts of tables too. -/
def popImpliedInTables : Building Unit := popUntil fun o => !impliedEndNamesInTables.contains o.name

/-- Close what ends without an end tag, but nothing of that name. -/
def popImpliedBut (name : String) : Building Unit :=
  popUntil fun o => o.name = name || !impliedEndNamesInTables.contains o.name

/-- Close down to one of the names, which stays open. -/
def popToContext (names : List String) : Building Unit :=
  popUntil fun o => o.space = .html && names.contains o.name

/-- Close an element wherever it stands among the open ones. -/
def closeElement (id : Nat) : Building Unit := do
  if ← isOpen id then
    modify fun b => { b with opened := b.opened.filter (·.id ≠ id) }
    endAtLast id

/-- Close the paragraph that is open. -/
def closeParagraph : Building Unit := do
  popImpliedBut "p"
  popThroughName "p"

def closeParagraphInScope : Building Unit := do
  if ← opens paragraphInScope then closeParagraph

/-! ## Placing -/

/-- A place in the document: last in an element, or before one of its children. -/
structure Place where
  parent : Nat
  next : Option Nat

/-- The place for content that has none in the table. -/
def fosterPlace (s : Store) : List Opened → Place
  | [] => ⟨Store.root, none⟩
  | o :: rest =>
    if o.isHtml "template" then ⟨o.id, none⟩
    else if o.name = "table" then
      match s.parent? o.id with
      | some p => ⟨p, some o.id⟩
      | none => ⟨(rest.head?.map (·.id)).getD Store.root, none⟩
    else match rest with
      | [] => ⟨o.id, none⟩
      | _ => fosterPlace s rest

/-- The place of the next content. -/
def place : Building Place := do
  let b ← get
  match b.opened with
  | [] => return ⟨Store.root, none⟩
  | o :: _ =>
    if b.fostering ∧ tableStructureNames.contains o.name then return fosterPlace b.store b.opened
    else return ⟨o.id, none⟩

/-- Put a child at a place. -/
def putAt (p : Place) (child : Child) : Building Unit :=
  onStore fun s =>
    match p.next with
    | some next => s.insertBefore p.parent next child
    | none => s.append p.parent child

def insertText (cs : List Char) : Building Unit := do putAt (← place) (.text (String.ofList cs))

/-- A new element that stands nowhere yet. -/
def create (e : Element) : Building Nat := do
  let b ← get
  let (store, id) := b.store.add e
  set { b with store }
  return id

def elementOf (space : Space) (t : Tag) : Element :=
  ⟨space, t.name, t.attributes, some ⟨t.start, t.stop, false⟩⟩

/-- Place an element that holds nothing. -/
def insertEmpty (t : Tag) (space : Space) : Building Unit := do
  let id ← create (elementOf space t)
  putAt (← place) (.element id)

/-- Place an element and open it. -/
def insertElement (e : Element) : Building Nat := do
  let id ← create e
  putAt (← place) (.element id)
  modify fun b => { b with opened := ⟨id, e.space, e.name⟩ :: b.opened }
  return id

/-- Place the element of a tag and open it. -/
def insert (t : Tag) : Building Nat := insertElement (elementOf .html t)

/-- Place an element that the document implies, and open it. -/
def insertImplied (name : String) : Building Nat := insertElement ⟨.html, name, [], none⟩

/-- Place an element whose text is read in its own way. -/
def insertTextElement (t : Tag) (mode : TextMode) : Building Unit := do
  let _ ← insert t
  modify fun b => { b with textMode := mode, returnMode := b.mode, mode := .text }

/-- Add the attributes of a tag that an element has not. -/
def adoptAttributes (id : Nat) (t : Tag) : Building Unit :=
  onStore fun s => s.modify id fun slot =>
    let attributes := t.attributes.foldl (fun l (name, value) => addAttribute l name value)
      slot.element.attributes
    { slot with element := { slot.element with attributes } }

/-! ## Formatting -/

/-- Separate the formatting of what follows. -/
def insertMarker : Building Unit := modify fun b => { b with formatting := .marker :: b.formatting }

/-- Give up the formatting since the last marker. -/
def dropFormatting : Building Unit :=
  modify fun b => { b with formatting := Formatting.dropRecent b.formatting }

/-- Give up the formatting of an element. -/
def removeFormatting (id : Nat) : Building Unit :=
  modify fun b => { b with formatting := Formatting.remove b.formatting id }

/-- Place a formatting element and open it. -/
def insertFormatting (t : Tag) : Building Unit := do
  let id ← insert t
  modify fun b => { b with formatting := Formatting.push b.formatting id t }

/-- The formatting elements that were closed, newest first. -/
def closedFormatting (opened : List Opened) (l : List Formatting) : List (Nat × Tag) :=
  (l.takeWhile fun
    | .marker => false
    | .element id _ => !opened.any (·.id = id)).filterMap fun
    | .marker => none
    | .element id tag => some (id, tag)

/-- Open the formatting elements again, the oldest first. -/
def reopen : List (Nat × Tag) → Building Unit
  | [] => return
  | (old, tag) :: rest => do
    let new ← insert tag
    modify fun b => { b with formatting := Formatting.replace b.formatting old new }
    reopen rest

/-- Open the formatting elements again that were closed. -/
def reopenFormatting : Building Unit := do
  let b ← get
  reopen (closedFormatting b.opened b.formatting).reverse

/-! ## Misnested formatting -/

/-- The end tag of an element that no rule knows. -/
def endOther (name : String) : Building Unit := do
  let opened := (← get).opened
  let above := opened.takeWhile fun o => o.name ≠ name && !o.isSpecial
  match opened.drop above.length with
  | o :: rest =>
    if o.name = name ∧ !rest.isEmpty then
      popImpliedBut name
      popUntil (·.id = o.id)
      if ← isOpen o.id then pop
  | [] => return

/-- An open element as a copy of a formatting element: it covers nothing. -/
def copyOf (tag : Tag) : Building Nat := create ⟨.html, tag.name, tag.attributes, none⟩

/-- The open elements between a block and the formatting element around it, from the inside on: they are
    copied if they format, and closed otherwise. The block, or the copy that holds it, is `last`. -/
def nestCopies (block : Nat) : List Opened → Nat → Nat → Option Nat → Building (Nat × Option Nat)
  | [], _, last, bookmark => return (last, bookmark)
  | o :: rest, count, last, bookmark => do
    let entry := (← get).formatting.findSome? fun
      | .marker => none
      | .element id tag => if id = o.id then some tag else none
    match entry with
    | none =>
      closeElement o.id
      nestCopies block rest (count + 1) last bookmark
    | some tag =>
      if 3 ≤ count then
        removeFormatting o.id
        closeElement o.id
        nestCopies block rest (count + 1) last bookmark
      else
        let copy ← copyOf tag
        modify fun b => { b with
          opened := b.opened.map fun x => if x.id = o.id then { x with id := copy } else x
          formatting := Formatting.replace b.formatting o.id copy }
        onStore fun s => (s.detach last).append copy (.element last)
        nestCopies block rest (count + 1) copy (if last = block then some copy else bookmark)

/-- Put a block where the formatting element around it stood. -/
def putInAncestor (ancestor : Option Opened) (id : Nat) : Building Unit := do
  onStore fun s => s.detach id
  match ancestor with
  | none => return
  | some a =>
    if tableStructureNames.contains a.name then
      let b ← get
      putAt (fosterPlace b.store b.opened) (.element id)
    else onStore fun s => s.append a.id (.element id)

/-- Open an element just inside another open one. -/
def openInside (outer : Nat) (new : Opened) : Building Unit :=
  modify fun b =>
    let inner := b.opened.takeWhile (·.id ≠ outer)
    { b with opened := inner ++ new :: b.opened.drop inner.length }

/-- The part of misnested formatting that a block takes with it: the formatting element ends before the
    block, and a copy of it goes on inside. -/
def splitFormatting (id : Nat) (tag : Tag) (block : Nat) : Building Unit := do
  let opened := (← get).opened
  let below := opened.drop ((opened.takeWhile (·.id ≠ block)).length + 1)
  let between := below.takeWhile (·.id ≠ id)
  let (last, bookmark) ← nestCopies block between 0 block none
  let opened := (← get).opened
  let outer := opened.drop ((opened.takeWhile (·.id ≠ id)).length + 1)
  putInAncestor outer.head? last
  let copy ← copyOf tag
  onStore fun s => (s.moveChildren block copy).append block (.element copy)
  modify fun b => { b with formatting := Formatting.insertBefore b.formatting (bookmark.getD id) copy tag }
  removeFormatting id
  closeElement id
  openInside block ⟨copy, .html, tag.name⟩

/-- End the formatting of a name, blocks inside it notwithstanding; `n` bounds their number. -/
def endFormatting (name : String) : Nat → Building Unit
  | 0 => return
  | n + 1 => do
    let b ← get
    match Formatting.find? b.formatting name with
    | none => endOther name
    | some (id, tag) =>
      if !(← isOpen id) then removeFormatting id
      else if !inScope name b.opened then return
      else
        let inside := b.opened.takeWhile (·.id ≠ id)
        match (inside.filter Opened.isSpecial).getLast? with
        | none =>
          popThrough (·.id = id)
          removeFormatting id
        | some block =>
          splitFormatting id tag block.id
          endFormatting name n

/-- As many blocks are taken out of one formatting element at most. -/
def splitLimit : Nat := 8

end Building

end CodeAtlas.Html
