import CodeAtlas.Proofs.Syntax.Tree
import CodeAtlas.Syntax.Symbols

set_option autoImplicit false

/-! # Errors in syntax trees

The nodes of a tree stand in document order, a parent before its children and tokens among them (`Node.nodes`). A tree
has an error exactly if one of its nodes is broken (`Node.hasError_iff`). So the children that the search for an error
passes over hold no broken node, and it comes to the node that a search through all nodes comes to
(`Node.firstError?_eq_find?`): the one with which a file is refused. -/

namespace CodeAtlas.Syntax

namespace Node

mutual

/-- All nodes of a tree in document order, parents first. -/
def nodes : Node → List Node
  | mk i cs => mk i cs :: nodesOfAll cs

/-- All nodes of the trees of a list in document order. -/
def nodesOfAll : List Node → List Node
  | [] => []
  | c :: rest => nodes c ++ nodesOfAll rest

end

theorem nodesOfAll_eq (cs : List Node) : nodesOfAll cs = cs.flatMap nodes := by
  induction cs with
  | nil => rfl
  | cons c rest ih => rw [nodesOfAll, ih, List.flatMap_cons]

theorem nodes_mk (i : NodeInfo) (cs : List Node) : (mk i cs).nodes = mk i cs :: cs.flatMap nodes := by
  rw [nodes, nodesOfAll_eq]

theorem anyError_eq (cs : List Node) : anyError cs = cs.any hasError := by
  induction cs with
  | nil => rfl
  | cons c rest ih => rw [anyError, ih, List.any_cons]

/-- A tree has an error exactly if one of its nodes is broken. -/
theorem hasError_iff (n : Node) : n.hasError = true ↔ ∃ x ∈ n.nodes, x.isBroken = true := by
  induction n using Node.induction with
  | node i cs ih =>
      have hbelow : (∃ c ∈ cs, c.hasError = true) ↔ ∃ x ∈ cs.flatMap nodes, x.isBroken = true := by
        simp only [List.mem_flatMap]
        constructor
        · rintro ⟨c, hc, herror⟩
          obtain ⟨x, hx, hbroken⟩ := (ih c hc).1 herror
          exact ⟨x, ⟨c, hc, hx⟩, hbroken⟩
        · rintro ⟨x, ⟨c, hc, hx⟩, hbroken⟩
          exact ⟨c, hc, (ih c hc).2 ⟨x, hx, hbroken⟩⟩
      rw [hasError, anyError_eq, nodes_mk, Bool.or_eq_true, List.any_eq_true, hbelow, List.exists_mem_cons_iff]

/-! ## The first broken node -/

theorem firstErrorIn?_eq {cs : List Node} (h : ∀ c ∈ cs, c.firstError? = c.nodes.find? isBroken) :
    firstErrorIn? cs = (cs.flatMap nodes).find? isBroken := by
  induction cs with
  | nil => rfl
  | cons c rest ih =>
      obtain ⟨hc, hrest⟩ := List.forall_mem_cons.1 h
      rw [firstErrorIn?, List.flatMap_cons, List.find?_append, ← ih hrest]
      split
      · next hpassed =>
          -- a child that is passed over has no broken node
          rw [Bool.and_eq_true, Bool.not_eq_true', ← Bool.not_eq_true, hasError_iff] at hpassed
          have hnone : c.nodes.find? isBroken = none :=
            List.find?_eq_none.2 fun x hx hbroken => hpassed.1 ⟨x, hx, hbroken⟩
          rw [hnone, Option.none_or]
      · rw [← hc]
        cases c.firstError? <;> rfl

/-- The search that passes over children without an error comes to what a search through all nodes comes to. -/
theorem firstError?_eq_find? (n : Node) : n.firstError? = n.nodes.find? isBroken := by
  induction n using Node.induction with
  | node i cs ih =>
      rw [firstError?, nodes_mk, List.find?_cons, firstErrorIn?_eq ih]
      cases isBroken (mk i cs) <;> rfl

/-- A call that lacks its closing mark, between a comment and a line that is no statement. -/
example : (mk ⟨"module", none, true, false, 0, 9⟩ [.leaf "comment" 0 2, .branch "call" [.leaf "identifier" 3 4,
    mk ⟨")", none, false, true, 5, 5⟩ []], .leaf "ERROR" 6 9]).firstError?.map kind = some ")" := by decide

/-- A broken node of a tree, with no broken node before it. -/
def IsFirstBroken (root n : Node) : Prop :=
  n.isBroken = true ∧ ∃ earlier later, root.nodes = earlier ++ n :: later ∧ ∀ e ∈ earlier, e.isBroken = false

theorem firstError?_eq_some_iff {root n : Node} : root.firstError? = some n ↔ root.IsFirstBroken n := by
  rw [firstError?_eq_find?, List.find?_eq_some_iff_append]
  simp only [IsFirstBroken, Bool.not_eq_true']

theorem firstError?_eq_none_iff {root : Node} : root.firstError? = none ↔ root.hasError = false := by
  rw [firstError?_eq_find?, List.find?_eq_none, ← Bool.not_eq_true, hasError_iff]
  simp only [not_exists, not_and]

theorem IsFirstBroken.hasError {root n : Node} (h : root.IsFirstBroken n) : root.hasError = true := by
  obtain ⟨hbroken, earlier, later, hnodes, -⟩ := h
  exact (hasError_iff root).2 ⟨n, by simp [hnodes], hbroken⟩

end Node

/-! ## Refused files -/

namespace Language

variable {l : Language} {absolutePath path text : String} {root n : Node} {source : Source}

theorem extractTree_of_isFirstBroken (h : root.IsFirstBroken n) : l.extractTree path source root =
    .error ("Syntax error in " ++ path ++ " at line " ++ toString (n.startLine source)) := by
  rw [extractTree, if_pos h.hasError, Node.firstError?_eq_some_iff.2 h]
  simp only [String.append_assoc]

theorem readText_of_isFirstBroken (h : (l.grammar absolutePath (.ofString text)).IsFirstBroken n) :
    l.toReader.readText absolutePath path text =
      .failed ["Syntax error in " ++ path ++ " at line " ++ toString (n.startLine (.ofString text))] := by
  have hextract : l.toReader.extract ⟨absolutePath, path, text⟩ = _ := extractTree_of_isFirstBroken h
  rw [Reader.readText, hextract]

theorem errors_readText_of_hasError_eq_false (h : (l.grammar absolutePath (.ofString text)).hasError = false) :
    (l.toReader.readText absolutePath path text).errors = [] := by
  have hextract : l.toReader.extract ⟨absolutePath, path, text⟩ = .ok _ := if_neg (by simp [h])
  rw [Reader.readText, hextract]
  rfl

/-- **A file is refused at the first broken node of its tree.** The search for an error comes to a node exactly if that
    is broken and no node before it in document order is, and comes to none exactly if the tree has no error. So,
    whatever the grammar makes of a text, reading it gives errors exactly if a node of the tree is broken, and then
    nothing but the one message with the line of the first such node. -/
theorem refused_at_firstBroken :
    (∀ root n : Node, root.firstError? = some n ↔ root.IsFirstBroken n) ∧
    (∀ root : Node, root.firstError? = none ↔ root.hasError = false) ∧
    (∀ root : Node, root.hasError = true ↔ ∃ n ∈ root.nodes, n.isBroken = true) ∧
    ∀ (l : Language) (absolutePath path text : String),
      let source := Source.ofString text
      let root := l.grammar absolutePath source
      let out := l.toReader.readText absolutePath path text
      (out.errors ≠ [] ↔ ∃ n ∈ root.nodes, n.isBroken = true) ∧
      ∀ message, out = .failed [message] ↔
        ∃ n, root.IsFirstBroken n ∧
          message = "Syntax error in " ++ path ++ " at line " ++ toString (n.startLine source) := by
  refine ⟨fun _ _ => Node.firstError?_eq_some_iff, fun _ => Node.firstError?_eq_none_iff, Node.hasError_iff,
    fun l absolutePath path text => ?_⟩
  intro source root out
  rw [← Node.hasError_iff]
  cases hfirst : root.firstError? with
  | none =>
      have herror : root.hasError = false := Node.firstError?_eq_none_iff.1 hfirst
      have herrors : out.errors = [] := errors_readText_of_hasError_eq_false herror
      refine ⟨by simp [herrors, herror], fun message => iff_of_false (fun hout => ?_) ?_⟩
      · simp [hout, ParseOutput.failed] at herrors
      · rintro ⟨n, hn, -⟩
        simp [← Node.firstError?_eq_some_iff, hfirst] at hn
  | some n =>
      have hn : root.IsFirstBroken n := Node.firstError?_eq_some_iff.1 hfirst
      have hout : out = .failed ["Syntax error in " ++ path ++ " at line " ++ toString (n.startLine source)] :=
        readText_of_isFirstBroken hn
      refine ⟨by simp [hout, ParseOutput.failed, hn.hasError], fun message => ?_⟩
      rw [hout]
      constructor
      · intro hmessage
        exact ⟨n, hn, by simpa [ParseOutput.failed] using hmessage.symm⟩
      · rintro ⟨n', hn', rfl⟩
        rw [← Node.firstError?_eq_some_iff, hfirst] at hn'
        rw [Option.some.inj hn']

end Language

end CodeAtlas.Syntax
