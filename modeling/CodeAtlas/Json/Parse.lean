import CodeAtlas.Json.Basic

set_option autoImplicit false

/-! # Reading JSON

A reader for the JSON grammar: `Json.parse?` is `none` on any text outside it. A number is read as the double
nearest to it. -/

namespace CodeAtlas.Json

def isSpace (c : Char) : Bool :=
  c = ' ' || c = '\n' || c = '\r' || c = '\t'

/-- The value of a hexadecimal digit. -/
def hexDigit? (c : Char) : Option Nat :=
  if c.isDigit then some (c.toNat - 48)
  else if 'a' ≤ c ∧ c ≤ 'f' then some (c.toNat - 87)
  else if 'A' ≤ c ∧ c ≤ 'F' then some (c.toNat - 55)
  else none

/-- Four hexadecimal digits. -/
def hex4? (a b c d : Char) : Option Nat := do
  let a ← hexDigit? a
  let b ← hexDigit? b
  let c ← hexDigit? c
  let d ← hexDigit? d
  return ((a * 16 + b) * 16 + c) * 16 + d

/-- The character of a one-letter escape. -/
def simpleEscape? (c : Char) : Option Char :=
  match c with
  | '"' => some '"'
  | '\\' => some '\\'
  | '/' => some '/'
  | 'b' => some (Char.ofNat 8)
  | 'f' => some (Char.ofNat 12)
  | 'n' => some '\n'
  | 'r' => some '\r'
  | 't' => some '\t'
  | _ => none

/-- The rest of a string after its opening quote; `out` is what was read, last first. -/
def stringBody : Nat → List Char → List Char → Option (String × List Char)
  | 0, _, _ => none
  | fuel + 1, out, cs =>
    match cs with
    | [] => none
    | '"' :: rest => some (String.ofList out.reverse, rest)
    | '\\' :: 'u' :: a :: b :: c :: d :: rest => do
      let u ← hex4? a b c d
      if 0xd800 ≤ u ∧ u < 0xdc00 then
        match rest with
        | '\\' :: 'u' :: a2 :: b2 :: c2 :: d2 :: rest2 => do
          let l ← hex4? a2 b2 c2 d2
          if 0xdc00 ≤ l ∧ l < 0xe000 then
            stringBody fuel (Char.ofNat (0x10000 + (u - 0xd800) * 0x400 + (l - 0xdc00)) :: out) rest2
          else stringBody fuel (Text.carrier u :: out) rest
        | _ => stringBody fuel (Text.carrier u :: out) rest
      else if 0xdc00 ≤ u ∧ u < 0xe000 then stringBody fuel (Text.carrier u :: out) rest
      else stringBody fuel (Char.ofNat u :: out) rest
    | '\\' :: c :: rest => do
      let c ← simpleEscape? c
      stringBody fuel (c :: out) rest
    | c :: rest => if c.toNat < 0x20 then none else stringBody fuel (c :: out) rest

/-- A whole number from its digits. -/
def natOfDigits (ds : List Char) : Nat :=
  ds.foldl (fun n d => 10 * n + (d.toNat - 48)) 0

/-- The number that digits and an exponent denote. Where the exponent leaves nothing to tell from zero, or puts
    the number far beyond any double, no power is worked out. -/
def scaled (ds : List Char) (e : Int) : Rat :=
  let digits := natOfDigits ds
  if digits = 0 then 0
  else if 4000 < e then (10 : Rat) ^ (4000 : Nat)
  else if ds.length + e < -4000 then 0
  else (digits : Rat) * (10 : Rat) ^ e

/-- A fraction: a point and at least one digit, or nothing. -/
def fractionDigits (cs : List Char) : Option (List Char × List Char) :=
  match cs with
  | '.' :: rest =>
    let ds := rest.takeWhile Char.isDigit
    if ds.isEmpty then none else some (ds, rest.dropWhile Char.isDigit)
  | _ => some ([], cs)

/-- An exponent: its letter, an optional sign and at least one digit, or nothing. -/
def exponentPart (cs : List Char) : Option (Int × List Char) :=
  match cs with
  | c :: rest =>
    if c = 'e' ∨ c = 'E' then
      let (negative, rest) := match rest with
        | '-' :: r => (true, r)
        | '+' :: r => (false, r)
        | r => (false, r)
      let ds := rest.takeWhile Char.isDigit
      if ds.isEmpty then none
      else
        let n : Int := natOfDigits ds
        some (if negative then -n else n, rest.dropWhile Char.isDigit)
    else some (0, cs)
  | [] => some (0, [])

/-- A number without its sign. -/
def unsigned? (cs : List Char) : Option (Rat × List Char) := do
  let ds := cs.takeWhile Char.isDigit
  if ds.isEmpty || (ds.length > 1 && ds.head? == some '0') then none
  else
    let (frac, rest) ← fractionDigits (cs.dropWhile Char.isDigit)
    let (e, rest) ← exponentPart rest
    return (scaled (ds ++ frac) (e - frac.length), rest)

/-- The nearest double to a number. -/
def number? (cs : List Char) : Option (Rat × List Char) :=
  match cs with
  | '-' :: rest => (unsigned? rest).map fun (r, rest) => (Number.shown (-r), rest)
  | _ => (unsigned? cs).map fun (r, rest) => (Number.shown r, rest)

mutual

/-- One value and what follows it. -/
def value? : Nat → List Char → Option (Json × List Char)
  | 0, _ => none
  | fuel + 1, cs =>
    match cs.dropWhile isSpace with
    | 'n' :: 'u' :: 'l' :: 'l' :: rest => some (null, rest)
    | 't' :: 'r' :: 'u' :: 'e' :: rest => some (bool true, rest)
    | 'f' :: 'a' :: 'l' :: 's' :: 'e' :: rest => some (bool false, rest)
    | '"' :: rest => (stringBody (rest.length + 1) [] rest).map fun (s, rest) => (string s, rest)
    | '[' :: rest =>
      match rest.dropWhile isSpace with
      | ']' :: rest => some (array [], rest)
      | _ => items? fuel [] rest
    | '\x7b' :: rest =>
      match rest.dropWhile isSpace with
      | '\x7d' :: rest => some (object [], rest)
      | _ => members? fuel [] rest
    | rest => (number? rest).map fun (r, rest) => (number r, rest)

/-- The items of an array up to its closing bracket; `out` holds the earlier ones, last first. -/
def items? : Nat → List Json → List Char → Option (Json × List Char)
  | 0, _, _ => none
  | fuel + 1, out, cs => do
    let (v, rest) ← value? fuel cs
    match rest.dropWhile isSpace with
    | ',' :: rest => items? fuel (v :: out) rest
    | ']' :: rest => some (array (v :: out).reverse, rest)
    | _ => none

/-- The members of an object up to its closing brace; `out` holds the earlier ones, last first. -/
def members? : Nat → List (String × Json) → List Char → Option (Json × List Char)
  | 0, _, _ => none
  | fuel + 1, out, cs => do
    match cs.dropWhile isSpace with
    | '"' :: rest =>
      let (name, rest) ← stringBody (rest.length + 1) [] rest
      match rest.dropWhile isSpace with
      | ':' :: rest =>
        let (v, rest) ← value? fuel rest
        match rest.dropWhile isSpace with
        | ',' :: rest => members? fuel ((name, v) :: out) rest
        | '\x7d' :: rest => some (ofMembers ((name, v) :: out).reverse, rest)
        | _ => none
      | _ => none
    | _ => none

end

/-- The value that a text denotes. -/
def parse? (s : String) : Option Json :=
  match value? (s.length + 1) s.toList with
  | some (v, rest) => if rest.all isSpace then some v else none
  | none => none

end CodeAtlas.Json
