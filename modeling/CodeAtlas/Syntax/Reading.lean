import CodeAtlas.Syntax.Tree

set_option autoImplicit false

/-! # Reading a source by a grammar

A reading starts at an offset of the source and stops at another, or fails at the furthest offset that it
came to. The rules of a grammar refer to each other through names: a setting tells how the rule of each
name is read, one level of nesting less deep, and which dialect of the language is meant. -/

namespace CodeAtlas.Syntax

/-- What readings of a grammar with rules `ρ` and dialects `δ` depend on. -/
structure Setting (ρ δ : Type) where
  source : Source
  dialect : δ
  read : ρ → Nat → Except Nat (List Node × Nat)

/-- A reading; it moves an offset forward, or fails at one. -/
abbrev Reading (ρ δ : Type) := ReaderT (Setting ρ δ) (StateT Nat (Except Nat))

namespace Reading

variable {ρ δ α : Type}

def offset : Reading ρ δ Nat := get

def moveTo (p : Nat) : Reading ρ δ Unit := set p

def refuseAt (p : Nat) : Reading ρ δ α := fun _ _ => .error p

def source : Reading ρ δ Source := return (← read).source

def dialect : Reading ρ δ δ := return (← read).dialect

def rule (r : ρ) : Reading ρ δ (List Node) := fun s p => s.read r p

/-- The single node of a rule. -/
def nodeOf (r : ρ) : Reading ρ δ Node := do
  match ← rule r with
  | [n] => return n
  | _ => refuseAt (← offset)

/-- The first reading, or the second if the first fails. If both fail, what came furthest counts. -/
def either (a b : Reading ρ δ α) : Reading ρ δ α := fun s p =>
  match a s p with
  | .ok r => .ok r
  | .error e =>
    match b s p with
    | .ok r => .ok r
    | .error e' => .error (max e e')

/-- The result of a reading that may fail and then reads nothing. -/
def attempt (a : Reading ρ δ α) : Reading ρ δ (Option α) := fun s p =>
  match a s p with
  | .ok (x, q) => .ok (some x, q)
  | .error _ => .ok (none, p)

/-- What a reading gives, without moving on. -/
def lookAhead (a : Reading ρ δ α) : Reading ρ δ α := fun s p => (a s p).map fun (x, _) => (x, p)

/-- Does the reading succeed here? Nothing is read. -/
def succeeds (a : Reading ρ δ α) : Reading ρ δ Bool := return (← lookAhead (attempt a)).isSome

/-- Repeat a step at most `n` times, until it gives nothing more. -/
def gatherUpTo (step : Reading ρ δ (Option (List Node))) : Nat → Reading ρ δ (List Node)
  | 0 => return []
  | n + 1 => do
    match ← step with
    | none => return []
    | some ns => return ns ++ (← gatherUpTo step n)

/-- Repeat a step that moves on, until it gives nothing more. -/
def gather (step : Reading ρ δ (Option (List Node))) : Reading ρ δ (List Node) := do
  gatherUpTo step ((← source).chars.size + 1)

/-- Let a node grow by a step at most `n` times, until the step gives nothing more. -/
def growUpTo (step : Node → Reading ρ δ (Option Node)) : Nat → Node → Reading ρ δ Node
  | 0, n => return n
  | fuel + 1, n => do
    match ← step n with
    | none => return n
    | some bigger => growUpTo step fuel bigger

/-- Let a node grow by a step that moves on, until the step gives nothing more. -/
def grow (n : Node) (step : Node → Reading ρ δ (Option Node)) : Reading ρ δ Node := do
  growUpTo step ((← source).chars.size + 1) n

end Reading

/-- Read a rule, given the readings of all rules, down to a depth of nesting. -/
def readRule {ρ δ : Type} (rules : ρ → Reading ρ δ (List Node)) (source : Source) (dialect : δ) :
    Nat → ρ → Nat → Except Nat (List Node × Nat)
  | 0, _, p => .error p
  | depth + 1, r, p => rules r ⟨source, dialect, readRule rules source dialect depth⟩ p

/-- A depth that no reading of the source exceeds: between two characters at most that many rules nest. -/
def depthFor (source : Source) : Nat := 64 * (source.chars.size + 1)

namespace Node

def token (kind : String) (start stop : Nat) : Node := .mk { kind, named := false, start, stop } []

def leaf (kind : String) (start stop : Nat) : Node := .mk { kind, start, stop } []

def startOf (ns : List Node) : Nat := (ns.head?.map (·.info.start)).getD 0

def stopOf (ns : List Node) : Nat := (ns.getLast?.map (·.info.stop)).getD 0

/-- A node that spans its children. -/
def branch (kind : String) (children : List Node) : Node :=
  .mk { kind, start := startOf children, stop := stopOf children } children

/-- A node from its first child up to an offset. -/
def branchTo (stop : Nat) (kind : String) (children : List Node) : Node :=
  .mk { kind, start := startOf children, stop } children

def withField (name : String) : Node → Node
  | .mk i cs => .mk { i with field := some name } cs

def withKind (kind : String) : Node → Node
  | .mk i cs => .mk { i with kind } cs

/-- A tree that only says where the text stops to follow the grammar. -/
def refused (kind : String) (source : Source) (p : Nat) : Node :=
  .mk { kind, start := 0, stop := source.chars.size } [.leaf "ERROR" p p]

/-! ## Text between tokens -/

/-- The leaves below a node, in order. -/
def leaves : Node → List Node
  | .mk i [] => [.mk i []]
  | .mk _ (c :: cs) => leaves c ++ leavesOfAll cs
where
  /-- The leaves below the nodes of a list. -/
  leavesOfAll : List Node → List Node
    | [] => []
    | c :: cs => leaves c ++ leavesOfAll cs

/-- The stretches of the text between leaves, from an offset to the end. -/
def gapsFrom (p stop : Nat) : List Node → List (Nat × Nat)
  | [] => [(p, stop)]
  | l :: ls => (p, l.info.start) :: gapsFrom (max p l.info.stop) stop ls

def spans (n x : Node) : Bool := n.info.start ≤ x.info.start && x.info.stop ≤ n.info.stop

mutual

/-- Put nodes that lie between leaves where they belong: into the deepest node that spans them. -/
def weave (extras : List Node) : Node → Node
  | .mk i cs => .mk i (weaveAll extras cs)

/-- Put nodes before, into and behind the nodes of a list. -/
def weaveAll (extras : List Node) : List Node → List Node
  | [] => extras
  | c :: cs =>
    let before := extras.takeWhile fun x => x.info.stop ≤ c.info.start
    let rest := extras.drop before.length
    let inside := if c.children.isEmpty then [] else rest.takeWhile c.spans
    let child := if inside.isEmpty then c else weave inside c
    before ++ child :: weaveAll (rest.drop inside.length) cs

end

/-- The tree with all that `find` finds between its leaves. -/
def withExtras (find : Nat → Nat → List Node) (source : Source) (root : Node) : Node :=
  let gaps := gapsFrom 0 source.chars.size (leavesOf root)
  weave (gaps.flatMap fun (a, b) => find a b) root
where
  /-- The leaves below the root, which may have no children. -/
  leavesOf (n : Node) : List Node := if n.children.isEmpty then [] else n.leaves

end Node

end CodeAtlas.Syntax
