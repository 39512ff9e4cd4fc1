import CodeAtlas.Number.Shortest
import CodeAtlas.Text.Units

set_option autoImplicit false

/-! # JSON values

Configuration files and snapshots are JSON. Numbers are the decimals that their doubles show; an object
keeps its members in the order its text gives them, names that are array indices first. -/

namespace CodeAtlas

/-- A JSON value. -/
inductive Json where
  | null
  | bool (b : Bool)
  | number (r : Rat)
  | string (s : String)
  | array (items : List Json)
  | object (members : List (String × Json))
deriving Inhabited

namespace Json

/-- The word a schema uses for the type of a value. -/
def typeName : Json → String
  | null => "null"
  | bool _ => "boolean"
  | number _ => "number"
  | string _ => "string"
  | array _ => "array"
  | object _ => "object"

/-- A whole number as a JSON value. -/
def nat (n : Nat) : Json := number n

/-- A member of an object. -/
def get? (name : String) : Json → Option Json
  | object members => members.lookup name
  | _ => none

/-- The members of an object; of anything else none. -/
def members : Json → List (String × Json)
  | object ms => ms
  | _ => []

/-- The items of an array; of anything else none. -/
def items : Json → List Json
  | array l => l
  | _ => []

/-- The text of a string. -/
def asText? : Json → Option String
  | string s => some s
  | _ => none

/-- The value of a number. -/
def asNumber? : Json → Option Rat
  | number r => some r
  | _ => none

/-- The value of a flag. -/
def asFlag? : Json → Option Bool
  | bool b => some b
  | _ => none

/-- Give `name` the value `v`: in the place it has, or at the end. -/
def setMember {α : Type} (name : String) (v : α) : List (String × α) → List (String × α)
  | [] => [(name, v)]
  | (n, w) :: rest => if n = name then (n, v) :: rest else (n, w) :: setMember name v rest

/-- The array index that a member name is, if it is one written in the shortest way. -/
def indexName? (name : String) : Option Nat :=
  match name.toList with
  | [] => none
  | ['0'] => some 0
  | c :: rest =>
    if c ≠ '0' ∧ (c :: rest).all Char.isDigit ∧ (c :: rest).length ≤ 10 then
      let n := (c :: rest).foldl (fun n d => 10 * n + (d.toNat - 48)) 0
      if n < 0xffffffff then some n else none
    else none

/-- An object of the given members: a later member of the same name replaces the value of the earlier
    one, and the index names come first, ascending. -/
def ofMembers (ms : List (String × Json)) : Json :=
  let merged := ms.foldl (fun acc m => setMember m.1 m.2 acc) []
  let indexed := merged.filterMap fun m => (indexName? m.1).map fun i => (i, m)
  if indexed.isEmpty then object merged
  else object ((indexed.mergeSort (fun a b => a.1 ≤ b.1)).map (·.2)
    ++ merged.filter (fun m => (indexName? m.1).isNone))

/-! ## Writing -/

/-- The hexadecimal digits of `n`, at least `width` of them. -/
def hex (width n : Nat) : String :=
  let ds := Nat.toDigits 16 n
  String.ofList (List.replicate (width - ds.length) '0' ++ ds)

/-- One character inside a JSON string. -/
def escapeChar (c : Char) : String :=
  if c = '"' then "\\\""
  else if c = '\\' then "\\\\"
  else if c = '\n' then "\\n"
  else if c = '\r' then "\\r"
  else if c = '\t' then "\\t"
  else if c.toNat = 8 then "\\b"
  else if c.toNat = 12 then "\\f"
  else if c.toNat < 0x20 then "\\u" ++ hex 4 c.toNat
  else if Text.isCarrier c then "\\u" ++ hex 4 (c.toNat - Text.carrierBase + 0xd800)
  else c.toString

def quote (s : String) : String :=
  "\"" ++ s.foldl (fun out c => out ++ escapeChar c) "" ++ "\""

mutual

/-- The text of a value, without blanks. A number beyond the doubles is written as null. -/
def render : Json → String
  | null => "null"
  | bool b => if b then "true" else "false"
  | number r => (Number.text? r).getD "null"
  | string s => quote s
  | array l => "[" ++ ",".intercalate (renderItems l) ++ "]"
  | object ms => "\x7b" ++ ",".intercalate (renderMembers ms) ++ "\x7d"

/-- The texts of the items of an array. -/
def renderItems : List Json → List String
  | [] => []
  | v :: rest => render v :: renderItems rest

/-- The texts of the members of an object. -/
def renderMembers : List (String × Json) → List String
  | [] => []
  | (n, v) :: rest => (quote n ++ ":" ++ render v) :: renderMembers rest

end

/-! ## Values as texts -/

mutual

/-- A value where a text is wanted: a string is its own text, an array the texts of its items with commas
    between them, and an object only says that it is one. -/
def plainText : Json → String
  | null => "null"
  | bool b => if b then "true" else "false"
  | number r => Number.text r
  | string s => s
  | array l => ",".intercalate (plainItems l)
  | object _ => "[object Object]"

/-- The texts of the items of an array; null is an empty one. -/
def plainItems : List Json → List String
  | [] => []
  | null :: rest => "" :: plainItems rest
  | v :: rest => plainText v :: plainItems rest

end

end Json

end CodeAtlas
