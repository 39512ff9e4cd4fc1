import CodeAtlas.Json.Basic

set_option autoImplicit false

/-! # Checking JSON against a shape

A check either yields a typed value or lists every issue it found, each with the way to the offending
value. Checks of several members run all of them, so the issues come in the order of the members. -/

namespace CodeAtlas.Schema

/-- Something wrong at a place inside a JSON value. -/
structure Issue where
  path : List String
  message : String
deriving DecidableEq

/-- The place and the message, in one line. -/
def Issue.text (i : Issue) : String :=
  (if i.path = [] then "(root)" else ".".intercalate i.path) ++ ": " ++ i.message

/-- A typed value, or the issues that stand in its way. -/
inductive Checked (α : Type) where
  | valid (a : α)
  | invalid (issues : List Issue)

namespace Checked

/-- The issues of a check. -/
def issues {α : Type} : Checked α → List Issue
  | valid _ => []
  | invalid l => l

/-- Apply a function to the value. -/
def map {α β : Type} (f : α → β) : Checked α → Checked β
  | valid a => valid (f a)
  | invalid l => invalid l

/-- Combine two checks; the issues of both are kept. -/
def app {α β : Type} (f : Checked (α → β)) (x : Checked α) : Checked β :=
  match f, x with
  | valid g, valid a => valid (g a)
  | valid _, invalid l => invalid l
  | invalid l, x => invalid (l ++ x.issues)

/-- The issues of a value that stands below the member or index `step`. -/
def under {α : Type} (step : String) : Checked α → Checked α
  | valid a => valid a
  | invalid l => invalid (l.map fun i => { i with path := step :: i.path })

end Checked

instance : Functor Checked := ⟨Checked.map, fun a => Checked.map (fun _ => a)⟩

instance : Applicative Checked where
  pure := .valid
  seq f x := f.app (x ())

def issue {α : Type} (message : String) : Checked α :=
  .invalid [⟨[], message⟩]

/-- The value has another type than the expected one. -/
def wrongType {α : Type} (expected : String) (v : Json) : Checked α :=
  issue ("Expected " ++ expected ++ ", received " ++ v.typeName)

/-! ## Values -/

/-- A text. -/
def string : Json → Checked String
  | .string s => .valid s
  | v => wrongType "string" v

/-- A truth value. -/
def boolean : Json → Checked Bool
  | .bool b => .valid b
  | v => wrongType "boolean" v

/-- Null. -/
def null : Json → Checked Unit
  | .null => .valid ()
  | v => wrongType "null" v

/-- A condition on a number. -/
inductive Bound where
  | whole
  | positive
  | atLeast (n : Nat)
  | atMost (n : Nat)

/-- Does the number meet the condition? -/
def Bound.holds (r : Rat) : Bound → Bool
  | whole => r.den = 1
  | positive => 0 < r
  | atLeast n => (n : Rat) ≤ r
  | atMost n => r ≤ (n : Rat)

/-- The wording when it does not. -/
def Bound.message : Bound → String
  | whole => "Expected integer, received float"
  | positive => "Number must be greater than 0"
  | atLeast n => "Number must be greater than or equal to " ++ toString n
  | atMost n => "Number must be less than or equal to " ++ toString n

/-- A number that meets every condition; each one that fails is an issue. -/
def number (bounds : List Bound) : Json → Checked Rat
  | .number r =>
    match bounds.filter (fun b => !b.holds r) with
    | [] => .valid r
    | failed => .invalid (failed.map fun b => ⟨[], b.message⟩)
  | v => wrongType "number" v

/-- A whole number from 0 on that meets every condition. -/
def natural (bounds : List Bound) (v : Json) : Checked Nat :=
  (number (.whole :: bounds) v).map fun r => r.num.toNat

/-- One of the values that `name?` knows. -/
def oneOf {α : Type} (names : List String) (name? : String → Option α) : Json → Checked α
  | .string s =>
    match name? s with
    | some a => .valid a
    | none => issue ("Invalid enum value. Expected " ++ alternatives ++ ", received '" ++ s ++ "'")
  | v => wrongType alternatives v
where
  alternatives := " | ".intercalate (names.map fun n => "'" ++ n ++ "'")

/-- The number 1 and nothing else. -/
def one : Option Json → Checked Unit
  | some (.number r) => if r = 1 then .valid () else issue "Invalid literal value, expected 1"
  | _ => issue "Invalid literal value, expected 1"

/-- The first of two shapes that fits. -/
def either {α : Type} (a b : Json → Checked α) (v : Json) : Checked α :=
  match a v with
  | .valid x => .valid x
  | .invalid _ =>
    match b v with
    | .valid x => .valid x
    | .invalid _ => issue "Invalid input"

/-! ## Arrays and objects -/

/-- Check the items of a list, counted from `k`. -/
def checkItems {α : Type} (item : Json → Checked α) : Nat → List Json → Checked (List α)
  | _, [] => .valid []
  | k, v :: rest => (Checked.map List.cons ((item v).under (toString k))).app (checkItems item (k + 1) rest)

/-- An array of one shape. -/
def array {α : Type} (item : Json → Checked α) : Json → Checked (List α)
  | .array l => checkItems item 0 l
  | v => wrongType "array" v

/-- Check the members of a list. -/
def checkMembers {α : Type} (item : Json → Checked α) :
    List (String × Json) → Checked (List (String × α))
  | [] => .valid []
  | (n, v) :: rest =>
    (Checked.map (fun a l => (n, a) :: l) ((item v).under n)).app (checkMembers item rest)

/-- An object with members of one shape. -/
def record {α : Type} (item : Json → Checked α) : Json → Checked (List (String × α))
  | .object ms => checkMembers item ms
  | v => wrongType "object" v

/-- An object, checked by its members. -/
def object {α : Type} (shape : List (String × Json) → Checked α) : Json → Checked α
  | .object ms => shape ms
  | v => wrongType "object" v

/-- A member that must be there. -/
def required {α : Type} (name : String) (item : Json → Checked α) (ms : List (String × Json)) : Checked α :=
  (match ms.lookup name with
    | some v => item v
    | none => issue "Required").under name

/-- A member that may be missing. -/
def optional {α : Type} (name : String) (item : Json → Checked α) (ms : List (String × Json)) :
    Checked (Option α) :=
  match ms.lookup name with
  | some v => ((item v).map some).under name
  | none => .valid none

/-- A member that has a default. -/
def withDefault {α : Type} (name : String) (item : Json → Checked α) (default : α)
    (ms : List (String × Json)) : Checked α :=
  (optional name item ms).map (·.getD default)

end CodeAtlas.Schema
