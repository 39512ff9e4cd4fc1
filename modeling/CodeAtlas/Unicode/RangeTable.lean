set_option autoImplicit false

/-! # Sets of scalar values

A property of characters is a set of ranges. The set is kept as its ascending list of boundaries: a
value belongs to it when an odd number of boundaries lie at or below the value. -/

namespace CodeAtlas.Unicode

/-- A set of scalar values, given by the ascending points where membership changes. -/
structure RangeTable where
  bounds : Array Nat

namespace RangeTable

/-- How many of the boundaries `lo ..< hi` onwards lie at or below `c`, counted from `lo`, by halving. -/
def rank (t : RangeTable) (c lo hi : Nat) : Nat :=
  if _h : lo < hi then
    let mid := (lo + hi) / 2
    match t.bounds[mid]? with
    | some b => if b ≤ c then t.rank c (mid + 1) hi else t.rank c lo mid
    | none => t.rank c lo mid
  else lo
termination_by hi - lo

/-- Membership: an odd number of boundaries at or below `c`. -/
def contains (t : RangeTable) (c : Nat) : Bool :=
  t.rank c 0 t.bounds.size % 2 == 1

end RangeTable

end CodeAtlas.Unicode
