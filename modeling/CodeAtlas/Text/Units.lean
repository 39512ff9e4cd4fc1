set_option autoImplicit false

/-! # Texts in UTF-16 code units

Lengths, cuts and the order of texts are taken in UTF-16 code units. A character beyond the basic
plane is two units, and a cut may fall between them; the half that stays is carried by one of the
last 2048 scalar values, each of which stands for one surrogate and counts as that one unit. -/

namespace CodeAtlas.Text

/-- The first scalar value that carries a surrogate; it carries U+D800. -/
def carrierBase : Nat := 0x10f800

/-- The character that carries the surrogate `u`. -/
def carrier (u : Nat) : Char :=
  Char.ofNat (carrierBase + (u - 0xd800))

/-- Does the character carry a lone surrogate? -/
def isCarrier (c : Char) : Bool :=
  carrierBase ≤ c.toNat

/-- The code units of one character. -/
def unitsOf (c : Char) : List UInt16 :=
  let n := c.toNat
  if n < 0x10000 then [n.toUInt16]
  else if carrierBase ≤ n then [(n - carrierBase + 0xd800).toUInt16]
  else [(0xd800 + (n - 0x10000) / 0x400).toUInt16, (0xdc00 + (n - 0x10000) % 0x400).toUInt16]

def units (s : String) : List UInt16 :=
  s.toList.flatMap unitsOf

/-- How many code units a character has. -/
def width (c : Char) : Nat :=
  if c.toNat < 0x10000 || isCarrier c then 1 else 2

/-- The length of a text in code units. -/
def unitLength (s : String) : Nat :=
  s.toList.foldl (fun n c => n + width c) 0

/-- The first `n` code units of a character list; a character cut in two leaves its first half. -/
def takeUnitsList : Nat → List Char → List Char
  | 0, _ => []
  | _ + 1, [] => []
  | n + 1, c :: rest =>
    if width c = 1 then c :: takeUnitsList n rest
    else match n with
      | 0 => [carrier (0xd800 + (c.toNat - 0x10000) / 0x400)]
      | k + 1 => c :: takeUnitsList k rest

def takeUnits (n : Nat) (s : String) : String :=
  String.ofList (takeUnitsList n s.toList)

/-- The text with every lone surrogate replaced by U+FFFD, as any encoder writes it. -/
def wellFormed (s : String) : String :=
  if s.any isCarrier then s.map (fun c => if isCarrier c then '\ufffd' else c) else s

/-! ## The order of texts -/

/-- Strictly before, by code units; where two texts are spelled with the same units, a carrier in one and
    a whole character in the other, by characters. -/
def before (a b : String) : Bool :=
  decide (units a < units b) || (units a == units b && decide (a.toList < b.toList))

/-- Before or equal. -/
def atMost (a b : String) : Bool :=
  !before b a

/-- The texts in ascending order of code units. -/
def sort (l : List String) : List String :=
  l.mergeSort atMost

/-! ## Searching -/

/-- Does `p` occur in the list as a block of neighbours? -/
def occursIn {α : Type} [BEq α] (p : List α) : List α → Bool
  | [] => p.isEmpty
  | x :: rest => p.isPrefixOf (x :: rest) || occursIn p rest

/-- Does the text `s` contain the text `p`? -/
def includes (s p : String) : Bool :=
  occursIn (units p) (units s)

end CodeAtlas.Text
