import CodeAtlas.Number.Binary

set_option autoImplicit false

/-! # Decimal texts of numbers

A number is written with the fewest significant digits that read back to the same double, and of
those with the nearest; and, for reports, rounded to a fixed number of places. -/

namespace CodeAtlas.Number

/-- A decimal `digits · 10^exponent`. -/
structure Decimal where
  digits : Nat
  exponent : Int
deriving Repr, DecidableEq

namespace Decimal

def value (d : Decimal) : Rat :=
  (d.digits : Rat) * (10 : Rat) ^ d.exponent

/-- The same value without trailing zeros; `fuel` bounds their number. -/
def strip : Nat → Decimal → Decimal
  | 0, d => d
  | fuel + 1, d =>
    if d.digits % 10 = 0 ∧ d.digits ≠ 0 then strip fuel ⟨d.digits / 10, d.exponent + 1⟩ else d

end Decimal

/-- The rationals that round to the double, as their two ends; the ends count if the flag is set. -/
def roundingInterval (b : Binary) : Rat × Rat × Bool :=
  let unit : Rat := (2 : Rat) ^ b.q
  let below := if b.m = Binary.fullWidth ∧ b.q ≠ Binary.minExponent then unit / 4 else unit / 2
  (b.value - below, b.value + unit / 2, b.m % 2 = 0)

/-- Does the rational round to the double? -/
def roundsTo (b : Binary) (r : Rat) : Bool :=
  let (lo, hi, ends) := roundingInterval b
  if ends then lo ≤ r && r ≤ hi else lo < r && r < hi

/-- The decimal exponent of a positive number: the least `e` with `r < 10^e`, found from a guess. -/
def decimalExponent (r : Rat) : Int :=
  let guess : Int := (((r.num.natAbs.log2 : Int) - (r.den.log2 : Int)) * 30103) / 100000
  if r < (10 : Rat) ^ guess then guess
  else if r < (10 : Rat) ^ (guess + 1) then guess + 1
  else guess + 2

/-- The nearer of the value's two neighbours on the grid of `10^k` that round to the double. -/
def onGrid? (b : Binary) (k : Int) : Option Decimal :=
  let v := b.value
  let lower := (v / (10 : Rat) ^ k).floor.toNat
  let lo : Decimal := ⟨lower, k⟩
  let hi : Decimal := ⟨lower + 1, k⟩
  match roundsTo b lo.value, roundsTo b hi.value with
  | true, true => some (if hi.value - v < v - lo.value then hi else lo)
  | true, false => some lo
  | false, true => some hi
  | false, false => none

/-- The coarsest grid that holds a decimal which rounds to the double, trying finer ones in turn. -/
def shortestFrom (b : Binary) (e : Int) : Nat → Decimal
  | 0 => ⟨(b.value / (10 : Rat) ^ (e - 17)).floor.toNat, e - 17⟩
  | fuel + 1 => (onGrid? b (e - 17 + fuel)).getD (shortestFrom b e fuel)

def shortest (b : Binary) : Decimal :=
  if b.m = 0 then ⟨0, 0⟩ else Decimal.strip 20 (shortestFrom b (decimalExponent b.value) 17)

/-- Where positional notation ends: with more than `maxWhole` digits before the point, or more than
    `maxZeros` zeros after it. -/
structure Positional where
  maxWhole : Int
  maxZeros : Int

/-- Numbers below `10^21` and from `10^-6` on are written positionally. -/
def plain : Positional := ⟨21, 5⟩

/-- Write a positive decimal without trailing zeros. -/
def Positional.render (n : Positional) (d : Decimal) : String :=
  let text := toString d.digits
  let len : Int := text.length
  let point := len + d.exponent
  if d.digits = 0 then "0"
  else if len ≤ point ∧ point ≤ n.maxWhole then
    text ++ String.ofList (List.replicate (point - len).toNat '0')
  else if 0 < point ∧ point ≤ n.maxWhole then
    String.ofList (text.toList.take point.toNat) ++ "." ++ String.ofList (text.toList.drop point.toNat)
  else if point ≤ 0 ∧ -point ≤ n.maxZeros then
    "0." ++ String.ofList (List.replicate (-point).toNat '0') ++ text
  else
    let fraction := String.ofList (text.toList.drop 1)
    let e := point - 1
    String.ofList (text.toList.take 1) ++ (if fraction = "" then "" else "." ++ fraction)
      ++ "e" ++ (if e < 0 then "-" else "+") ++ toString e.natAbs

/-- The text of a number: whole numbers below `2^53` digit by digit, all others by their shortest
    decimal; `none` for a number beyond the doubles. -/
def text? (r : Rat) : Option String :=
  if r.den = 1 ∧ r.num.natAbs < Binary.limit then some (toString r.num)
  else
    let b := Binary.ofQuotient r.num.natAbs r.den
    if b.overflows then none
    else some ((if r.num < 0 then "-" else "") ++ plain.render (shortest b))

/-- The text of a number; one beyond the doubles is infinite. -/
def text (r : Rat) : String :=
  (text? r).getD (if r.num < 0 then "-Infinity" else "Infinity")

/-- What every number too large for a double stands for. It is beyond all doubles, and it is not whole. -/
def infinity : Rat := (2 : Rat) ^ (1024 : Nat) + 1 / 2

/-- The nearest double, as the decimal that its text shows. -/
def shown (r : Rat) : Rat :=
  if r.den = 1 ∧ r.num.natAbs < Binary.limit then r
  else
    let b := Binary.ofQuotient r.num.natAbs r.den
    let d := if b.overflows then infinity else (shortest b).value
    if r.num < 0 then -d else d

/-- A number with exactly `places` decimal places; a half goes away from zero. -/
def fixed (places : Nat) (r : Rat) : String :=
  let unit := Nat.pow 10 places
  let scaled := (r.abs * (unit : Rat) + (1 : Rat) / 2).floor.toNat
  let whole := scaled / unit
  let part := toString (scaled % unit)
  let sign := if r < 0 then "-" else ""
  if places = 0 then sign ++ toString whole
  else sign ++ toString whole ++ "." ++ String.ofList (List.replicate (places - part.length) '0') ++ part

/-- A double with exactly `places` decimal places. -/
def fixedFloat (places : Nat) (f : Float) : String :=
  match ofFloat? f with
  | some r => if r.abs < (10 : Rat) ^ (21 : Nat) then fixed places r else text r
  | none => if f.isNaN then "NaN" else if f < 0 then "-Infinity" else "Infinity"

end CodeAtlas.Number
