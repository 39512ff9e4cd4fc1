set_option autoImplicit false

/-! # Bytes and texts

Source files must be well-formed UTF-8; other files are read leniently, each ill-formed piece becoming
one replacement character. -/

namespace CodeAtlas.Text

/-- Where a decoder stands inside a character: how many bytes are still to come, the bits so far, and
    the bounds on the next byte. -/
structure Pending where
  needed : Nat
  bits : Nat
  low : Nat
  high : Nat

/-- What a first byte starts: a character of its own, a longer one, or nothing. -/
inductive Lead where
  | whole (c : Char)
  | part (p : Pending)
  | bad

/-- Classify a first byte. -/
def lead (b : Nat) : Lead :=
  if b < 0x80 then .whole (Char.ofNat b)
  else if 0xc2 ≤ b ∧ b ≤ 0xdf then .part ⟨1, b - 0xc0, 0x80, 0xbf⟩
  else if b = 0xe0 then .part ⟨2, 0, 0xa0, 0xbf⟩
  else if b = 0xed then .part ⟨2, 0xd, 0x80, 0x9f⟩
  else if 0xe1 ≤ b ∧ b ≤ 0xef then .part ⟨2, b - 0xe0, 0x80, 0xbf⟩
  else if b = 0xf0 then .part ⟨3, 0, 0x90, 0xbf⟩
  else if b = 0xf4 then .part ⟨3, 4, 0x80, 0x8f⟩
  else if 0xf1 ≤ b ∧ b ≤ 0xf3 then .part ⟨3, b - 0xf0, 0x80, 0xbf⟩
  else .bad

def replacement : Char := '\ufffd'

/-- A first byte, with what is decoded already in `out`, last first. -/
def decodeLead (out : List Char) (b : Nat) : List Char × Option Pending :=
  match lead b with
  | .whole c => (c :: out, none)
  | .part p => (out, some p)
  | .bad => (replacement :: out, none)

/-- Decode leniently, from the left. -/
def decodeFrom (out : List Char) : Option Pending → List UInt8 → List Char
  | none, [] => out.reverse
  | some _, [] => (replacement :: out).reverse
  | none, b :: rest =>
    let (out, pending) := decodeLead out b.toNat
    decodeFrom out pending rest
  | some p, b :: rest =>
    let n := b.toNat
    if p.low ≤ n ∧ n ≤ p.high then
      let bits := p.bits * 64 + (n - 0x80)
      if p.needed = 1 then decodeFrom (Char.ofNat bits :: out) none rest
      else decodeFrom out (some ⟨p.needed - 1, bits, 0x80, 0xbf⟩) rest
    else
      let (out, pending) := decodeLead (replacement :: out) n
      decodeFrom out pending rest

/-- The text of bytes that may be ill-formed. -/
def decodeLossy (bytes : ByteArray) : String :=
  match String.fromUTF8? bytes with
  | some s => s
  | none => String.ofList (decodeFrom [] none bytes.toList)

/-- The text of well-formed bytes, without one byte-order mark at its start. -/
def decodeStrict? (bytes : ByteArray) : Option String :=
  (String.fromUTF8? bytes).map fun s =>
    match s.toList with
    | c :: rest => if c.toNat = 0xfeff then String.ofList rest else s
    | [] => s

end CodeAtlas.Text
