import CodeAtlas.Number.Binary
import CodeAtlas.Text.Units

set_option autoImplicit false

/-! # Scores

Ranking is defined for any arithmetic that can add, multiply, divide and compare. The program runs it on
doubles; statements about exact scores read it over an ordered field. -/

namespace CodeAtlas

/-- The arithmetic that scores are computed in. -/
class Scoring (α : Type) extends Add α, Sub α, Mul α, Div α where
  ofRat : Rat → α
  less : α → α → Bool

/-- Arithmetic with a natural logarithm. -/
class Logarithm (α : Type) where
  log : α → α

instance : Scoring Float where
  ofRat := Number.toFloat
  less a b := a < b

instance : Logarithm Float := ⟨Float.log⟩

namespace Scoring

variable {α : Type} [Scoring α]

def ofNat (n : Nat) : α := ofRat n

/-- The larger of two scores, the first if they are equal. -/
def larger (a b : α) : α := if less a b then b else a

/-- The smaller of two scores, the first if they are equal. -/
def smaller (a b : α) : α := if less b a then b else a

end Scoring

/-- An id with a score. -/
structure Scored (α : Type) where
  id : String
  score : α

namespace Scored

variable {α : Type} [Scoring α]

/-- Does `a` rank no lower than `b`: by a higher score, and for equal scores by its id? -/
def ranksBefore (a b : Scored α) : Bool :=
  if Scoring.less b.score a.score then true
  else if Scoring.less a.score b.score then false
  else Text.atMost a.id b.id

/-- The list with the best first. -/
def rank (l : List (Scored α)) : List (Scored α) :=
  l.mergeSort ranksBefore

end Scored

/-- The first items of a list, as many as the whole part of a limit; none below 1. -/
def upTo {α : Type} (limit : Rat) (l : List α) : List α :=
  l.take limit.floor.toNat

end CodeAtlas
