set_option autoImplicit false

/-! # Blanks, words and lines

The blanks are the white space and line ends that trimming removes: the ASCII ones, the no-break
space, the byte-order mark, the Unicode space separators and the two line and paragraph separators. -/

namespace CodeAtlas.Text

/-- White space or a line end. -/
def isBlank (c : Char) : Bool :=
  let n := c.toNat
  (0x9 ≤ n && n ≤ 0xd) || n == 0x20 || n == 0xa0 || n == 0x1680 || (0x2000 ≤ n && n ≤ 0x200a)
    || n == 0x2028 || n == 0x2029 || n == 0x202f || n == 0x205f || n == 0x3000 || n == 0xfeff

/-- The list without its leading members that satisfy `p`, nor its trailing ones. -/
def stripList (p : Char → Bool) (l : List Char) : List Char :=
  ((l.dropWhile p).reverse.dropWhile p).reverse

/-- The text without trailing blanks. -/
def trimEnd (s : String) : String :=
  String.ofList (s.toList.reverse.dropWhile isBlank).reverse

/-- The text without blanks at either end. -/
def trim (s : String) : String :=
  String.ofList (stripList isBlank s.toList)

/-- The pieces of a list between the members that satisfy `p`; one more than there are such members. -/
def splitList {α : Type} (p : α → Bool) : List α → List (List α)
  | [] => [[]]
  | c :: rest =>
    if p c then [] :: splitList p rest
    else match splitList p rest with
      | [] => [[c]]
      | w :: ws => (c :: w) :: ws

/-- The pieces of a text between the characters that satisfy `p`. -/
def split (p : Char → Bool) (s : String) : List String :=
  (splitList p s.toList).map String.ofList

/-- The non-empty pieces between blanks. -/
def words (s : String) : List String :=
  (split isBlank s).filter (· != "")

/-- The lines of a text; a line ends with a line feed, which is not part of it. -/
def lines (s : String) : List String :=
  split (· == '\n') s

/-- A carriage return at the end of the list is dropped. -/
def dropReturn (l : List Char) : List Char :=
  match l.reverse with
  | '\r' :: rest => rest.reverse
  | _ => l

/-- The lines of a text; a line ends with a line feed, alone or after a carriage return. -/
def linesOfEither (s : String) : List String :=
  let all := splitList (· == '\n') s.toList
  (all.dropLast.map dropReturn ++ all.drop (all.length - 1)).map String.ofList

end CodeAtlas.Text
