import CodeAtlas.Markdown.Cell
import CodeAtlas.Text.Blank
import CodeAtlas.Unicode.Punctuation

set_option autoImplicit false

/-! # Emphasis marks

Runs of asterisks and underscores open and close emphasis. Whether a run may do so depends on what stands
beside it; which runs belong together is decided from left to right, the nearest opening run first. The
marks of a pair are no part of the text, all others are. -/

namespace CodeAtlas.Markdown

/-- What the text of a paragraph holds, in order. A link stands before what it contains. -/
inductive Inline where
  | text (s : String)
  | code (value : String)
  | link (url name : String) (startLine endLine : Nat)

/-- The text that is read: plain text and code. -/
def Inline.plainText : Inline → String
  | text s => s
  | code s => s
  | link .. => ""

/-- The text of several pieces. -/
def plainText (items : List Inline) : String := String.join (items.map Inline.plainText)

/-! ## Runs -/

/-- A run of marks. -/
structure Run where
  mark : Char
  size : Nat
  opens : Bool
  closes : Bool

/-- What stands beside a run. -/
inductive Neighbour where
  | gap
  | sign
  | other
deriving DecidableEq

/-- Is the character punctuation or a symbol of the basic plane? -/
def isSign (c : Char) : Bool := c.toNat < 0x10000 && Unicode.isPunctuation c

/-- The class of a cell, or of the end of the text, beside a run. -/
def neighbour : Option Cell → Neighbour
  | some (.char c) => if Text.isBlank c then .gap else if isSign c then .sign else .other
  | _ => .gap

def isMark (c : Char) : Bool := c = '*' || c = '_'

/-- A run between two cells. An underscore inside a word neither opens nor closes. -/
def Run.between (mark : Char) (size : Nat) (previous next : Option Cell) : Run :=
  let before := neighbour previous
  let after := neighbour next
  let opens := after = .other || (after = .sign && before ≠ .other) || next.any (·.has isMark)
  let closes := before = .other || (before = .sign && after ≠ .other) || previous.any (·.has isMark)
  if mark = '*' then ⟨mark, size, opens, closes⟩
  else ⟨mark, size, opens && (before ≠ .other || !closes), closes && (after ≠ .other || !opens)⟩

/-- Can the closing run end what the other one began? Where one of them can do both, their sizes must not
    add up to a multiple of three, unless the closing one is such a multiple itself. -/
def Run.pairsWith (closing opening : Run) : Bool :=
  opening.opens && opening.mark = closing.mark
    && !((opening.closes || closing.opens) && closing.size % 3 ≠ 0 && (opening.size + closing.size) % 3 = 0)

/-! ## Pairing -/

/-- A part of a text whose runs are not paired yet. -/
inductive Piece where
  | item (i : Inline)
  | run (r : Run)

/-- A piece as text, if it stays alone. -/
def Piece.settle : Piece → Inline
  | item i => i
  | run r => .text (String.ofList (List.replicate r.size r.mark))

/-- Is the piece a run that the closing one can end? -/
def Piece.isOpenedFor (closing : Run) : Piece → Bool
  | item _ => false
  | run r => closing.pairsWith r

/-- Add a run after the pieces, the last one first, and pair it with runs before it as often as it goes.
    Pairs of two marks are tried first. -/
def pushRun (r : Run) (done : List Piece) : List Piece :=
  if _h : r.size = 0 then done
  else
    let between := if r.closes then done.takeWhile (!·.isOpenedFor r) else done
    match done.drop between.length with
    | .run o :: earlier =>
      let used := if 1 < o.size ∧ 1 < r.size then 2 else 1
      let left := { o with size := o.size - used }
      let inside := between.map fun p => .item p.settle
      pushRun { r with size := r.size - used }
        (inside ++ (if left.size = 0 then earlier else .run left :: earlier))
    | _ => .run r :: done
termination_by r.size
decreasing_by
  split <;> omega

/-- Add a piece after others, the last one first. -/
def Piece.pushTo (done : List Piece) : Piece → List Piece
  | item i => .item i :: done
  | run r => pushRun r done

/-- Pair the runs of a text; the pieces are given the last one first. -/
def settleAll (pieces : List Piece) : List Inline :=
  ((pieces.reverse.foldl Piece.pushTo []).map Piece.settle).reverse

end CodeAtlas.Markdown
