import CodeAtlas.Syntax.Reading
import Mathlib.Data.List.Basic

set_option autoImplicit false

/-! # Walks over syntax trees

What holds of a node as soon as it holds of its children holds of every node. In a nested tree, where no node reaches
beyond its parent, the lines of a node lie within the lines of the parent. -/

namespace CodeAtlas.Syntax

/-! ## Lines -/

namespace Source

theorem row_eq_countP (s : Source) (p : ℕ) : s.row p = (s.chars.toList.take p).countP (· = '\n') := by
  have hcount : ∀ (l : List Char) (n : ℕ),
      l.foldl (fun n c => if c = '\n' then n + 1 else n) n = n + l.countP (· = '\n') := by
    intro l
    induction l with
    | nil => exact fun n => rfl
    | cons c rest ih =>
        intro n
        rw [List.foldl_cons, ih, List.countP_cons]
        by_cases hc : c = '\n'
        · simp only [hc, if_true, decide_true]
          omega
        · simp [hc]
  rw [row, ← Array.foldl_toList, hcount, Nat.zero_add]
  simp

/-- Later offsets are on no earlier rows. -/
theorem row_mono (s : Source) {p q : ℕ} (h : p ≤ q) : s.row p ≤ s.row q := by
  rw [row_eq_countP, row_eq_countP]
  exact (List.take_sublist_take_left h).countP_le

end Source

namespace Node

/-! ## Induction -/

theorem induction {P : Node → Prop} (node : ∀ i cs, (∀ c ∈ cs, P c) → P (.mk i cs)) : ∀ n, P n
  | .mk i cs => node i cs fun c _ => induction node c

/-! ## Nested trees -/

mutual

/-- Does every node of the tree span its children? -/
def isNested : Node → Bool
  | mk i cs => cs.all (mk i cs).spans && allNested cs

/-- Are all trees of a list nested? -/
def allNested : List Node → Bool
  | [] => true
  | c :: rest => isNested c && allNested rest

end

theorem allNested_iff (cs : List Node) : allNested cs = true ↔ ∀ c ∈ cs, c.isNested = true := by
  induction cs with
  | nil => simp [allNested]
  | cons c rest ih => simp [allNested, ih]

theorem isNested_iff (n : Node) :
    n.isNested = true ↔ ∀ c ∈ n.children, n.spans c = true ∧ c.isNested = true := by
  obtain ⟨i, cs⟩ := n
  simp only [isNested, Bool.and_eq_true, List.all_eq_true, allNested_iff, children, forall₂_and]

section Child

variable {n c : Node} (hnested : n.isNested = true) (hc : c ∈ n.children)
include hnested hc

theorem isNested_of_mem_children : c.isNested = true := ((isNested_iff n).1 hnested c hc).2

/-- The lines of a child lie within those of its parent. -/
theorem lines_of_mem_children (src : Source) :
    n.startLine src ≤ c.startLine src ∧ c.endLine src ≤ n.endLine src := by
  have hspan : n.spans c = true := ((isNested_iff n).1 hnested c hc).1
  simp only [spans, Bool.and_eq_true, decide_eq_true_eq] at hspan
  exact ⟨Nat.succ_le_succ (src.row_mono hspan.1), Nat.succ_le_succ (src.row_mono hspan.2)⟩

end Child

end Node

end CodeAtlas.Syntax
