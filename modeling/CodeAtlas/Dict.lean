set_option autoImplicit false

/-! # Dictionaries in insertion order

A dictionary lists its entries in the order their keys were first inserted. Giving a key a new value
leaves the key where it is; a key that was erased and inserted again comes last. -/

namespace CodeAtlas

/-- A finite map whose entries keep the order of insertion. -/
structure Dict (κ ν : Type) where
  entries : List (κ × ν)

namespace Dict

variable {κ ν : Type} [DecidableEq κ]

/-- The dictionary without entries. -/
def empty : Dict κ ν := ⟨[]⟩

def get? (d : Dict κ ν) (k : κ) : Option ν :=
  (d.entries.find? (·.1 = k)).map (·.2)

def contains (d : Dict κ ν) (k : κ) : Bool :=
  d.entries.any (·.1 = k)

def keys (d : Dict κ ν) : List κ :=
  d.entries.map (·.1)

/-- The values, in the order of their keys. -/
def values (d : Dict κ ν) : List ν :=
  d.entries.map (·.2)

def size (d : Dict κ ν) : Nat :=
  d.entries.length

/-- Give a key a value: in the place it has, or at the end. -/
def insert (d : Dict κ ν) (k : κ) (v : ν) : Dict κ ν :=
  if d.contains k then ⟨d.entries.map fun e => if e.1 = k then (k, v) else e⟩
  else ⟨d.entries ++ [(k, v)]⟩

/-- Give a key a value unless it has one. -/
def insertNew (d : Dict κ ν) (k : κ) (v : ν) : Dict κ ν :=
  if d.contains k then d else ⟨d.entries ++ [(k, v)]⟩

def erase (d : Dict κ ν) (k : κ) : Dict κ ν :=
  ⟨d.entries.filter fun e => ¬ e.1 = k⟩

/-- Change the value of a key, which starts as `start` if it has none. -/
def update (d : Dict κ ν) (k : κ) (start : ν) (f : ν → ν) : Dict κ ν :=
  d.insert k (f ((d.get? k).getD start))

/-- Insert the pairs of a list one after another. -/
def ofList (l : List (κ × ν)) : Dict κ ν :=
  l.foldl (fun d e => d.insert e.1 e.2) empty

end Dict

/-- The members of a list without repetitions, each where it first occurs. -/
def distinct {α : Type} [DecidableEq α] (l : List α) : List α :=
  (l.foldl (fun seen x => if x ∈ seen then seen else x :: seen) []).reverse

end CodeAtlas
