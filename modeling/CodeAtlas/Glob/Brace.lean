import CodeAtlas.Dict

set_option autoImplicit false

/-! # Brace expansion

`a{b,c}` stands for `ab` and `ac`, and `{1..3}` for the numbers 1 to 3. Braces nest; a brace pair with
neither a comma nor a range stands for itself, and so does an escaped one. -/

namespace CodeAtlas.Glob

/-- A character of a pattern, or an escaped one that keeps its meaning to itself until the end. -/
inductive Mark where
  | plain (c : Char)
  | kept (c : Char)
deriving DecidableEq

namespace Mark

/-- The character. -/
def char : Mark → Char
  | plain c => c
  | kept c => c

/-- Escaped backslashes, braces, commas and points are set aside. -/
def ofChars : List Char → List Mark
  | '\\' :: c :: rest =>
    if c ∈ ['\\', '\x7b', '\x7d', ',', '.'] then kept c :: ofChars rest else plain '\\' :: ofChars (c :: rest)
  | c :: rest => plain c :: ofChars rest
  | [] => []

end Mark

/-- What comes before a brace pair, between the braces, and after. -/
structure Balanced where
  before : List Mark
  body : List Mark
  after : List Mark

/-- Scan for the closing brace that leaves no brace open. `stack` holds the places of open braces, and
    `best` the leftmost pair closed so far. -/
def scanBraces : Nat → List Mark → List Nat → Option (Nat × Nat) → Option (Nat × Nat)
  | _, [], _, best => best
  | i, m :: rest, stack, best =>
    if m = .plain '\x7b' then scanBraces (i + 1) rest (i :: stack) best
    else if m = .plain '\x7d' then
      match stack with
      | [] => scanBraces (i + 1) rest [] best
      | [j] => some (j, i)
      | j :: more =>
        let best := match best with
          | some (k, e) => if j < k then some (j, i) else some (k, e)
          | none => some (j, i)
        scanBraces (i + 1) rest more best
    else scanBraces (i + 1) rest stack best

/-- The first brace pair whose braces belong together. -/
def balanced? (l : List Mark) : Option Balanced :=
  (scanBraces 0 l [] none).map fun (i, j) => ⟨l.take i, (l.take j).drop (i + 1), l.drop (j + 1)⟩

/-- Split a brace body at the commas outside inner brace pairs. -/
def commaParts : Nat → List Mark → List (List Mark)
  | 0, l => [l]
  | fuel + 1, l =>
    match balanced? l with
    | none => splitAtCommas l
    | some b =>
      let parts := splitAtCommas b.before
      let last := parts.getLast?.getD [] ++ .plain '\x7b' :: b.body ++ [.plain '\x7d']
      match b.after with
      | [] => parts.dropLast ++ [last]
      | after =>
        match commaParts fuel after with
        | [] => parts.dropLast ++ [last]
        | first :: others => parts.dropLast ++ [last ++ first] ++ others
where
  /-- The pieces between commas. -/
  splitAtCommas : List Mark → List (List Mark)
    | [] => [[]]
    | m :: rest =>
      if m = .plain ',' then [] :: splitAtCommas rest
      else match splitAtCommas rest with
        | [] => [[m]]
        | w :: ws => (m :: w) :: ws

/-- A whole number, perhaps negative, as it stands in a range. -/
structure RangeEnd where
  value : Int
  length : Nat
  padded : Bool

/-- Read the end of a numeric range. -/
def numberEnd? (l : List Mark) : Option RangeEnd :=
  let cs := l.map Mark.char
  let (negative, ds) := match cs with
    | '-' :: rest => (true, rest)
    | rest => (false, rest)
  if ds.isEmpty ∨ !ds.all Char.isDigit ∨ !l.all (fun m => m = .plain m.char) then none
  else
    let n : Int := ds.foldl (fun n d => 10 * n + (d.toNat - 48)) (0 : Nat)
    some ⟨if negative then -n else n, cs.length, ds.length > 1 && ds.head? == some '0'⟩

/-- Read the end of a range of letters. -/
def letterEnd? : List Mark → Option Char
  | [.plain c] => if c.isAlpha then some c else none
  | _ => none

/-- Split a body at double points. -/
def rangeParts : List Mark → List (List Mark)
  | .plain '.' :: .plain '.' :: rest => [] :: rangeParts rest
  | m :: rest =>
    match rangeParts rest with
    | [] => [[m]]
    | w :: ws => (m :: w) :: ws
  | [] => [[]]

/-- The values from `a` to `b` in steps, in either direction. -/
def steps (a b : Int) (step : Nat) : List Int :=
  let step := max step 1
  let count := (b - a).natAbs / step + 1
  (List.range count).map fun (k : Nat) => if b < a then a - k * step else a + k * step

/-- A number of a range, with zeros in front if the ends of the range have them. -/
def padNumber (pad : Bool) (width : Nat) (n : Int) : List Mark :=
  let text := toString n
  let zeros := if pad then List.replicate (width - text.length) '0' else []
  let cs := if n < 0 then '-' :: zeros ++ text.toList.drop 1 else zeros ++ text.toList
  cs.map .plain

/-- The members of a range, if the body is one. -/
def range? (body : List Mark) : Option (List (List Mark)) :=
  let (first, last, step) := match rangeParts body with
    | [a, b] => (a, b, some 1)
    | [a, b, s] => (a, b, (numberEnd? s).map fun (e : RangeEnd) => e.value.natAbs)
    | _ => ([], [], none)
  step.bind fun step =>
    match numberEnd? first, numberEnd? last with
    | some a, some b =>
      let width := max a.length b.length
      some ((steps a.value b.value step).map (padNumber (a.padded || b.padded) width))
    | _, _ =>
      match letterEnd? first, letterEnd? last with
      | some a, some b =>
        some ((steps a.toNat b.toNat step).map fun (n : Int) =>
          if n = 92 then [] else [.plain (Char.ofNat n.toNat)])
      | _, _ => none

/-- Does a comma and a later closing brace follow, so that a pair that stands for itself may still be
    inside an outer one? -/
def closesLater : List Mark → Bool
  | [] => false
  | m :: rest =>
    (m = .plain ',' && rest.head? ≠ some (.plain ',') && rest.any (· = .plain '\x7d')) || closesLater rest

/-- Expand the brace pairs of a pattern; at the top an empty result is dropped. -/
def expand : Nat → Bool → List Mark → List (List Mark)
  | 0, _, l => [l]
  | fuel + 1, top, l =>
    match balanced? l with
    | none => [l]
    | some b =>
      let tails := if b.after = [] then [[]] else expand fuel false b.after
      if b.before.getLast? = some (.plain '$') then
        tails.map fun t => b.before ++ .plain '\x7b' :: b.body ++ .plain '\x7d' :: t
      else
        match range? b.body with
        | some members => members.flatMap fun m => tails.map fun t => b.before ++ m ++ t
        | none =>
          if !b.body.contains (.plain ',') then
            if closesLater b.after then
              expand fuel false (b.before ++ .plain '\x7b' :: b.body ++ .kept '\x7d' :: b.after)
            else [l]
          else
            match commaParts l.length b.body with
            | [single] =>
              let inner := (expand fuel false single).map fun e => .plain '\x7b' :: e ++ [.plain '\x7d']
              match inner with
              | [one] => tails.map fun t => b.before ++ one ++ t
              | many => combine top b.before (many.flatMap (expand fuel false)) tails
            | parts => combine top b.before (parts.flatMap (expand fuel false)) tails
where
  /-- Every alternative before every tail. -/
  combine (top : Bool) (before : List Mark) (alternatives tails : List (List Mark)) : List (List Mark) :=
    (alternatives.flatMap fun a => tails.map fun t => before ++ a ++ t).filter fun e => !top || !e.isEmpty

/-- Is there an opening brace with a closing one somewhere after it? -/
def hasBraces (l : List Char) : Bool :=
  (l.dropWhile (· != '\x7b')).any (· == '\x7d')

/-- The patterns that a pattern with braces stands for, each once. A pattern without a pair of braces is
    left alone, escapes included. -/
def braceExpand (pattern : List Char) : List (List Char) :=
  let marks := match Mark.ofChars pattern with
    | .plain '\x7b' :: .plain '\x7d' :: rest => .kept '\x7b' :: .kept '\x7d' :: rest
    | l => l
  if hasBraces pattern then
    distinct ((expand (2 * marks.length + 2) true marks).map fun e => e.map Mark.char)
  else [pattern]

end CodeAtlas.Glob
