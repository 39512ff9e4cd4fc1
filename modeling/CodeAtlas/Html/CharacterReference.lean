import CodeAtlas.Unicode.NamedCharacter

set_option autoImplicit false

/-! # Character references of HTML

An ampersand begins a reference to a character, by name or by number. Some names are also understood
without a semicolon, though not in the middle of a word of an attribute. -/

namespace CodeAtlas.Html

/-! ## By number -/

/-- The characters meant by the numbers 128 to 159; 0 where the number stands for itself. -/
def controlReplacements : List Nat :=
  [0x20ac, 0, 0x201a, 0x192, 0x201e, 0x2026, 0x2020, 0x2021, 0x2c6, 0x2030, 0x160, 0x2039, 0x152, 0, 0x17d, 0,
    0, 0x2018, 0x2019, 0x201c, 0x201d, 0x2022, 0x2013, 0x2014, 0x2dc, 0x2122, 0x161, 0x203a, 0x153, 0, 0x17e,
    0x178]

def replacement : Char := '\ufffd'

/-- The character of a number. -/
def numberedCharacter (n : Nat) : Char :=
  if n = 0 ∨ 0x10ffff < n ∨ (0xd800 ≤ n ∧ n ≤ 0xdfff) then replacement
  else if 0x80 ≤ n ∧ n ≤ 0x9f then
    let other := (controlReplacements[n - 0x80]?).getD 0
    Char.ofNat (if other = 0 then n else other)
  else Char.ofNat n

/-- The value of a digit in a base, if it is one. -/
def digitIn? (base : Nat) (c : Char) : Option Nat :=
  let v := if c.isDigit then c.toNat - 48 else if c.isAlpha then c.toLower.toNat - 87 else base
  if v < base then some v else none

/-- The number at the start of a text, and its length; large numbers need not be exact. -/
def number (base : Nat) (cs : List Char) : Nat × Nat :=
  let digits := (cs.takeWhile fun c => (digitIn? base c).isSome).filterMap (digitIn? base)
  (digits.foldl (fun n d => min (base * n + d) 0x110000) 0, digits.length)

/-- A reference by number, after its ampersand and number sign: the character and the length. -/
def numbered? (cs : List Char) : Option (String × Nat) :=
  let (base, start) := match cs with
    | 'x' :: _ => (16, 1)
    | 'X' :: _ => (16, 1)
    | _ => (10, 0)
  let (n, length) := number base (cs.drop start)
  if length = 0 then none
  else
    let stop := start + length
    let closed := (cs.drop stop).head? = some ';'
    some ((numberedCharacter n).toString, if closed then stop + 1 else stop)

/-! ## By name -/

/-- No name is longer. -/
def nameLimit : Nat := 32

/-- The longest beginning of a name that is understood without a semicolon, up to a length. -/
def bareLength? (name : List Char) : Nat → Option Nat
  | 0 => none
  | n + 1 => if Unicode.isBareName (String.ofList (name.take (n + 1))) then some (n + 1) else bareLength? name n

/-- A reference by name, after its ampersand: the characters and the length. -/
def named? (inAttribute : Bool) (cs : List Char) : Option (String × Nat) :=
  let name := (cs.take nameLimit).takeWhile Char.isAlphanum
  let closed := (cs.drop name.length).head? = some ';'
  match if closed then Unicode.namedCharacter? (String.ofList name) else none with
  | some s => some (s, name.length + 1)
  | none =>
    (bareLength? name name.length).bind fun n =>
      let goesOn := ((cs.drop n).head?).any fun c => c = '=' || c.isAlphanum
      if inAttribute ∧ goesOn then none
      else (Unicode.namedCharacter? (String.ofList (name.take n))).map fun s => (s, n)

/-! ## In a text -/

/-- A reference after its ampersand: the characters and the length. -/
def reference? (inAttribute : Bool) : List Char → Option (String × Nat)
  | '#' :: rest => (numbered? rest).map fun (s, n) => (s, n + 1)
  | cs => named? inAttribute cs

/-- A text with its references resolved; `n` bounds its length. -/
def resolveUpTo (inAttribute : Bool) : Nat → List Char → List Char
  | _, [] => []
  | 0, cs => cs
  | n + 1, '&' :: rest =>
    match reference? inAttribute rest with
    | some (s, k) => s.toList ++ resolveUpTo inAttribute n (rest.drop k)
    | none => '&' :: resolveUpTo inAttribute n rest
  | n + 1, c :: rest => c :: resolveUpTo inAttribute n rest

def resolve (inAttribute : Bool) (cs : List Char) : List Char := resolveUpTo inAttribute cs.length cs

end CodeAtlas.Html
