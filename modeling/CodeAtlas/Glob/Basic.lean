import CodeAtlas.Glob.Brace
import CodeAtlas.Glob.Segment

set_option autoImplicit false

/-! # Globs

A glob is matched against the path of a file or folder. One without a slash is matched against the last
segment alone; `**` stands for any number of segments; a leading `!` inverts the whole glob and a
leading `#` makes it a comment that matches nothing. -/

namespace CodeAtlas

/-- A compiled glob: the alternatives its braces give, each a list of segment patterns. -/
structure Glob where
  alternatives : List (List Glob.Segment)
  negated : Bool

namespace Glob

/-- The UTF-16 units of a text, each as a character. -/
def unitChars (s : String) : List Char :=
  s.toList.flatMap fun c =>
    if Text.width c = 1 then [c]
    else [Text.carrier (0xd800 + (c.toNat - 0x10000) / 0x400),
      Text.carrier (0xdc00 + (c.toNat - 0x10000) % 0x400)]

/-- Split at runs of slashes. -/
def slashSplit (cs : List Char) : List (List Char) :=
  match Text.splitList (· == '/') cs with
  | [] => []
  | [one] => [one]
  | first :: rest => first :: rest.dropLast.filter (!·.isEmpty) ++ rest.drop (rest.length - 1)

/-- Merge neighbouring `**`, and let `..` take back the segment before it. -/
def tidy (parts : List (List Char)) : List (List Char) :=
  let any := ['*', '*']
  let up := ['.', '.']
  let add (done : List (List Char)) (p : List Char) : List (List Char) :=
    match done with
    | [] => [p]
    | prev :: before =>
      if p = any ∧ prev = any then done
      else if p = up ∧ prev ≠ up ∧ prev ≠ ['.'] ∧ prev ≠ any ∧ prev ≠ [] then before
      else p :: done
  match (parts.foldl add []).reverse with
  | [] => [[]]
  | l => l

/-- The number of units that a pattern may have. -/
def maxLength : Nat := 65536

/-- Compile a list of units without marks at its start. -/
def alternativesOf (cs : List Char) : Except Fault (List (List Segment)) :=
  (braceExpand cs).mapM fun alt => (tidy (slashSplit alt)).mapM Segment.ofChars

/-- Compile a glob. -/
def compile (pattern : String) : Except Fault Glob :=
  let cs := unitChars pattern
  if maxLength < cs.length then .error .longPattern
  else if cs.head? = some '#' then .ok ⟨[], false⟩
  else
    let bangs := (cs.takeWhile (· == '!')).length
    (alternativesOf (cs.drop bangs)).map fun alternatives => ⟨alternatives, bangs % 2 = 1⟩

/-- Match segment patterns against the segments of a path; every segment must be taken. -/
def matchSegments : List Segment → List (List Char) → Bool
  | [], [] => true
  | [], _ :: _ => false
  | .anyDepth :: [], names => !names.isEmpty
  | .anyDepth :: ps, names => anyTail ps names
  | _ :: _, [] => false
  | p :: ps, n :: names => p.test n && matchSegments ps names
where
  /-- Some non-empty tail of the names matches. -/
  anyTail (ps : List Segment) : List (List Char) → Bool
    | [] => false
    | n :: names => matchSegments ps (n :: names) || anyTail ps names

/-- Does the glob match a path? -/
def accepts (g : Glob) (path : String) : Bool :=
  let names := slashSplit (unitChars path)
  let hit := g.alternatives.any fun alt =>
    match alt with
    | [one] => matchSegments [one] (names.drop (names.length - 1))
    | many => matchSegments many names
  hit != g.negated

/-- The test that a pattern stands for. -/
def matcher (pattern : String) : Except Fault (String → Bool) := (compile pattern).map accepts

end Glob

end CodeAtlas
