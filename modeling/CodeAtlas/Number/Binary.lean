set_option autoImplicit false

/-! # Binary floating point

A double is `m · 2^q` with a whole `m` below `2^53`. Numbers are kept as exact rationals; this module
rounds a rational to the nearest double, ties to the even `m`, and reads a double back exactly. -/

namespace CodeAtlas.Number

/-- A non-negative double `m · 2^q`. -/
structure Binary where
  m : Nat
  q : Int
deriving Repr, DecidableEq

namespace Binary

/-- The exponent of the smallest positive double. -/
def minExponent : Int := -1074

/-- `2^52`: doubles from here on have all their binary digits. -/
def fullWidth : Nat := 0x10000000000000

/-- `2^53`, which `m` stays below. -/
def limit : Nat := 0x20000000000000

def value (b : Binary) : Rat :=
  (b.m : Rat) * (2 : Rat) ^ b.q

/-- `num / den` rounded to a whole number, ties to even. -/
def roundQuotient (num den : Nat) : Nat :=
  let m := num / den
  let r := num % den
  if 2 * r < den then m
  else if den < 2 * r then m + 1
  else if m % 2 = 0 then m else m + 1

/-- `num / den` in units of `2^q`, rounded to even. -/
def inUnits (num den : Nat) (q : Int) : Nat :=
  if 0 ≤ q then roundQuotient num (den <<< q.toNat) else roundQuotient (num <<< (-q).toNat) den

/-- The exponent at which `num / den` has 53 binary digits, or one more than it needs. -/
def exponentFor (num den : Nat) : Int :=
  let guess : Int := (num.log2 : Int) - (den.log2 : Int) - 53
  let tooWide := if 0 ≤ guess then num / (den <<< guess.toNat) else (num <<< (-guess).toNat) / den
  max minExponent (if limit ≤ tooWide then guess + 1 else guess)

/-- The double nearest to the non-negative rational `num / den`. -/
def ofQuotient (num den : Nat) : Binary :=
  if num = 0 then ⟨0, minExponent⟩
  else
    let q := exponentFor num den
    let m := inUnits num den q
    if m = limit then ⟨fullWidth, q + 1⟩ else ⟨m, q⟩

/-- Is the double too large to be finite? -/
def overflows (b : Binary) : Bool :=
  971 < b.q

/-- The encoding of a non-negative double. -/
def bits (b : Binary) : UInt64 :=
  if b.overflows then 0x7ff0000000000000
  else if b.m < fullWidth then b.m.toUInt64
  else ((b.q + 1075).toNat * fullWidth + (b.m - fullWidth)).toUInt64

end Binary

/-- The double nearest to a rational. -/
def toFloat (r : Rat) : Float :=
  let f := Float.ofBits (Binary.ofQuotient r.num.natAbs r.den).bits
  if r.num < 0 then -f else f

/-- The magnitude of a finite double. -/
def binaryOfFloat? (f : Float) : Option Binary :=
  let bits := f.toBits.toNat
  let e : Nat := bits / Binary.fullWidth % 2048
  let frac := bits % Binary.fullWidth
  if e = 2047 then none
  else if e = 0 then some { m := frac, q := Binary.minExponent }
  else some { m := frac + Binary.fullWidth, q := (e : Int) - 1075 }

def signBit : Nat := 0x8000000000000000

/-- The exact value of a finite double. -/
def ofFloat? (f : Float) : Option Rat :=
  (binaryOfFloat? f).map fun b => if signBit ≤ f.toBits.toNat then -b.value else b.value

end CodeAtlas.Number
