import CodeAtlas.Score

set_option autoImplicit false

/-! # Gestalt similarity

Two texts are as similar as their longest common block and, recursively, the blocks to its left and to
its right cover them: twice the covered length divided by the total length. -/

namespace CodeAtlas.Similarity

/-- A common block: where it starts in each text, and its length. -/
structure Block where
  left : Nat
  right : Nat
  size : Nat
deriving DecidableEq, Repr

/-- A range of each of two texts. -/
structure Window where
  aLo : Nat
  aHi : Nat
  bLo : Nat
  bHi : Nat
deriving DecidableEq, Repr

/-! ## The longest block of two ranges -/

section

variable (a b : List UInt16) (aLo aHi bLo bHi : Nat)

/-- Compare unit `i` of the first text with unit `j` of the second. A row holds, for every place of the
    second range and the one after it, the length of the common block that ends before that place;
    `previous` is the row of the units before unit `i`. A later block wins only if it is longer. -/
def compareUnits (i : Nat) (previous : List Nat) (state : List Nat × Block) (j : Nat) : List Nat × Block :=
  if a[i]? = b[j]? then
    let size := previous.getD (j - bLo) 0 + 1
    (state.1.set (j - bLo + 1) size,
      if state.2.size < size then ⟨i + 1 - size, j + 1 - size, size⟩ else state.2)
  else state

/-- The row of the units before a place. -/
def emptyRow : List Nat := List.replicate (bHi - bLo + 1) 0

/-- Compare unit `i` of the first text with the second range. -/
def scanRow (state : List Nat × Block) (i : Nat) : List Nat × Block :=
  (List.range' bLo (bHi - bLo)).foldl (compareUnits a b bLo i state.1) (emptyRow bLo bHi, state.2)

/-- The earliest of the longest common blocks of two ranges. -/
def longestBlock : Block :=
  ((List.range' aLo (aHi - aLo)).foldl (scanRow a b bLo bHi) (emptyRow bLo bHi, ⟨aLo, bLo, 0⟩)).2

end

/-! ## The blocks around it -/

/-- What a window shows before a block, if both texts have something there. -/
def Window.leftOf (w : Window) (k : Block) : List Window :=
  if w.aLo < k.left ∧ w.bLo < k.right then [⟨w.aLo, k.left, w.bLo, k.right⟩] else []

/-- What a window shows after a block, if both texts have something there. -/
def Window.rightOf (w : Window) (k : Block) : List Window :=
  if k.left + k.size < w.aHi ∧ k.right + k.size < w.bHi then [⟨k.left + k.size, w.aHi, k.right + k.size, w.bHi⟩]
  else []

/-- Work through windows of two texts, the one added last first, adding up the lengths of their longest
    blocks and leaving what stands around each block as further windows. Every step shortens what is
    left. -/
def matchedFrom (a b : List UInt16) : Nat → Nat → List Window → Nat
  | 0, total, _ => total
  | _ + 1, total, [] => total
  | fuel + 1, total, w :: rest =>
    let k := longestBlock a b w.aLo w.aHi w.bLo w.bHi
    if k.size = 0 then matchedFrom a b fuel total rest
    else matchedFrom a b fuel (total + k.size) (w.rightOf k ++ w.leftOf k ++ rest)

/-- The number of units that common blocks cover. -/
def matched (a b : List UInt16) : Nat :=
  matchedFrom a b (a.length + b.length + 1) 0 [⟨0, a.length, 0, b.length⟩]

/-- The similarity of two texts, between 0 and 1; two empty ones are equal. -/
def ratio {α : Type} [Scoring α] (a b : List UInt16) : α :=
  if a.length + b.length = 0 then Scoring.ofNat 1
  else Scoring.ofNat (2 * matched a b) / Scoring.ofNat (a.length + b.length)

end CodeAtlas.Similarity
