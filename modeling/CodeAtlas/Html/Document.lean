import CodeAtlas.Html.Token

set_option autoImplicit false

/-! # Documents

A finished document is a tree. While it is built its elements are kept in a store, by number, because
misnested markup moves them about. -/

namespace CodeAtlas.Html

/-- The vocabulary of an element. -/
inductive Space where
  | html
  | svg
  | math
deriving DecidableEq

/-- The stretch of the document that an element covers. -/
structure Span where
  start : Nat
  stop : Nat
  /-- Does it reach to the element's own end tag? -/
  closed : Bool

/-- An element. One that the document only implies covers nothing. -/
structure Element where
  space : Space
  name : String
  attributes : List (String × String)
  span : Option Span

def Element.attribute? (e : Element) (name : String) : Option String := attributeOf? e.attributes name

/-! ## Finished trees -/

/-- A piece of a document. -/
inductive Node where
  | text (s : String)
  | element (e : Element) (children : List Node)

namespace Node

mutual

/-- The text in a piece. -/
def content : Node → String
  | text s => s
  | element _ cs => contentOfAll cs

/-- The text in all pieces of a list. -/
def contentOfAll : List Node → String
  | [] => ""
  | c :: rest => c.content ++ contentOfAll rest

end

mutual

/-- The elements in a piece with the text in each, parents first. -/
def elements : Node → List (Element × String)
  | text _ => []
  | element e cs => (e, contentOfAll cs) :: elementsOfAll cs

/-- The elements in all pieces of a list with the text in each. -/
def elementsOfAll : List Node → List (Element × String)
  | [] => []
  | c :: rest => c.elements ++ elementsOfAll rest

end

end Node

/-! ## The store -/

/-- A child of an element in the store. -/
inductive Child where
  | text (s : String)
  | element (id : Nat)

/-- Is the child that element? -/
def Child.is (id : Nat) : Child → Bool
  | .text _ => false
  | .element i => i = id

/-- An element in the store. -/
structure Slot where
  element : Element
  parent : Option Nat
  children : Array Child

/-- The elements of a document by number. The first one stands for the document itself. -/
structure Store where
  slots : Array Slot

namespace Store

/-- The number of the document itself. -/
def root : Nat := 0

def empty : Store := ⟨#[⟨⟨.html, "", [], none⟩, none, #[]⟩]⟩

def element? (s : Store) (id : Nat) : Option Element := s.slots[id]?.map (·.element)

def parent? (s : Store) (id : Nat) : Option Nat := s.slots[id]?.bind (·.parent)

/-- Change what is kept under a number. -/
def modify (s : Store) (id : Nat) (f : Slot → Slot) : Store := ⟨s.slots.modify id f⟩

/-- A new element without a parent, and its number. -/
def add (s : Store) (e : Element) : Store × Nat := (⟨s.slots.push ⟨e, none, #[]⟩⟩, s.slots.size)

/-- Take an element from its parent. -/
def detach (s : Store) (id : Nat) : Store :=
  match s.parent? id with
  | none => s
  | some p =>
    (s.modify p fun slot => { slot with children := slot.children.filter (!·.is id) }).modify id
      fun slot => { slot with parent := none }

/-- Put a child last in an element. -/
def append (s : Store) (parent : Nat) (child : Child) : Store :=
  let s := s.modify parent fun slot => { slot with children := slot.children.push child }
  match child with
  | .text _ => s
  | .element id => s.modify id fun slot => { slot with parent := some parent }

/-- Put a child before an element of the same parent. -/
def insertBefore (s : Store) (parent next : Nat) (child : Child) : Store :=
  let s := s.modify parent fun slot =>
    let all := slot.children.toList
    let before := all.takeWhile (!·.is next)
    { slot with children := (before ++ child :: all.drop before.length).toArray }
  match child with
  | .text _ => s
  | .element id => s.modify id fun slot => { slot with parent := some parent }

/-- Move all children of an element to the end of another one. -/
def moveChildren (s : Store) (source target : Nat) : Store :=
  let moved := (s.slots[source]?.map (·.children)).getD #[]
  let s := s.modify source fun slot => { slot with children := #[] }
  moved.foldl (fun s c => s.append target c) s

/-- The finished tree of a child; `n` bounds its height. -/
def nodeOf (s : Store) : Nat → Child → Node
  | _, .text t => .text t
  | 0, .element _ => .text ""
  | n + 1, .element id =>
    match s.slots[id]? with
    | none => .text ""
    | some slot => .element slot.element (slot.children.toList.map (nodeOf s n))

/-- The finished pieces of the document. -/
def document (s : Store) : List Node :=
  ((s.slots[root]?.map (·.children.toList)).getD []).map (s.nodeOf s.slots.size)

end Store

end CodeAtlas.Html
