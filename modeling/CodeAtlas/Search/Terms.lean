import CodeAtlas.Text.Blank
import CodeAtlas.Text.Units
import CodeAtlas.Unicode.LetterNumber
import CodeAtlas.Unicode.LowerCase

set_option autoImplicit false

/-! # Terms of texts and names

A text is split into lower-cased runs of letters and digits; an identifier is split further at its
camel-case humps. -/

namespace CodeAtlas.Search

/-- The runs of letters and digits of a text, possibly empty at its ends. -/
def runs (s : String) : List String :=
  Text.split (fun c => !Unicode.isLetterOrNumber c) s

/-- The lower-cased terms of a text; single characters are dropped. -/
def tokenize (text : String) : List String :=
  (runs (Unicode.lower text)).filter fun t => 1 < Text.unitLength t

/-- A blank between a small letter or digit and the capital after it. -/
def spaceHumps : List Char → List Char
  | x :: y :: rest =>
    if (x.isLower || x.isDigit) && y.isUpper then x :: ' ' :: y :: spaceHumps rest
    else x :: spaceHumps (y :: rest)
  | l => l

/-- A blank before the last capital of a run of capitals that a small letter follows; `run` holds the
    capitals just passed, last first. -/
def spaceRuns (run : List Char) : List Char → List Char
  | [] => run.reverse
  | c :: rest =>
    if c.isUpper then spaceRuns (c :: run) rest
    else if c.isLower then
      match run with
      | last :: prev :: more => (prev :: more).reverse ++ ' ' :: last :: c :: spaceRuns [] rest
      | _ => run.reverse ++ c :: spaceRuns [] rest
    else run.reverse ++ c :: spaceRuns [] rest

/-- The lower-cased segments of an identifier, split at humps and at anything that is no letter or
    digit. -/
def nameSegments (name : String) : List String :=
  let spaced := String.ofList (spaceRuns [] (spaceHumps name.toList))
  ((runs spaced).map Unicode.lower).filter (· ≠ "")

end CodeAtlas.Search
