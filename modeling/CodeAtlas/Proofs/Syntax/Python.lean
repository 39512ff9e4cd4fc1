import CodeAtlas.Proofs.Syntax.Finds
import CodeAtlas.Syntax.Python.Symbols

set_option autoImplicit false

/-! # Walks over Python modules

A walk goes through blocks and transparent statements, and into classes with the name of the class. In a nested tree it
finds only what is orderly, behind everything that holds the class it is in. -/

namespace CodeAtlas.Syntax

namespace Python

variable {cx : Context} {before : List Entity} {owner : Option String} {n c : Node}

theorem visitAll_eq (cx : Context) (cs : List Node) : visitAll cx cs = cs.map fun c => (c, visit cx c) := by
  induction cs with
  | nil => rfl
  | cons c rest ih => rw [visitAll, ih, List.map_cons]

theorem visit_eq (cx : Context) (n : Node) (goal : Goal) (owner : Option String) :
    visit cx n goal owner = visitStep cx n (n.children.map fun c => (c, visit cx c)) goal owner := by
  obtain ⟨i, cs⟩ := n
  rw [visit, visitAll_eq, Node.children]

theorem stringValue?_parentClass {m : Metadata} (h : m.lookup "parentClass" = none) (owner : Option String) :
    (m ++ parentClassMember owner).stringValue? "parentClass" = owner := by
  cases owner with
  | none => simp [Metadata.stringValue?, parentClassMember, h]
  | some name => simp [Metadata.stringValue?, parentClassMember, List.lookup_append, h]

theorem lookup_textMember {key name : String} (h : key ≠ name) (text : Option String) :
    (textMember name text).lookup key = none := by
  rw [textMember]
  cases nonEmpty? text with
  | none => rfl
  | some t => simp [List.lookup_cons, beq_false_of_ne h]

theorem orderly_importedModule (statement child : Node) : Orderly kinds before (importedModule cx statement child) := by
  simp only [importedModule]
  split
  · exact .none
  · next target htarget =>
      split
      · exact .none
      · refine (Orderly.importing _).append (.free (by decide) ?_)
        simp [List.lookup_cons, lookup_textMember]

theorem orderly_fromImport (n : Node) : Orderly kinds before (fromImport cx n) := by
  simp only [fromImport]
  split
  · exact .none
  · next m hm =>
      refine .append ?_ (.free (by decide) (by simp [List.lookup_cons]))
      split
      · refine .all fun f hf => ?_
        obtain ⟨name, -, rfl⟩ := List.mem_map.1 hf
        exact .importing _
      · exact .importing _

theorem orderly_assignment (h : Owned cx before owner n) : Orderly kinds before (assignment cx n owner) := by
  simp only [assignment]
  split
  · exact .none
  · split
    · exact .none
    · split
      · exact .none
      · refine .owned ?_ h (stringValue?_parentClass (lookup_textMember (by decide) _) owner)
        split <;> decide

/-- What one step of a walk finds is orderly if what the walks below find is. -/
theorem orderly_visitStep {below : List (Node × Visit)}
    (hbelow : ∀ p ∈ below, ∀ goal owner before, Owned cx before owner n → Orderly kinds before (p.2 goal owner))
    (goal : Goal) (h : Owned cx before owner n) : Orderly kinds before (visitStep cx n below goal owner) := by
  have hstatements : ∀ l ⊆ below, Orderly kinds before (.all (l.map fun p => p.2 (.statement []) owner)) := by
    intro l hl
    refine .all fun f hf => ?_
    obtain ⟨p, hp, rfl⟩ := List.mem_map.1 hf
    exact hbelow p (hl hp) _ _ _ h
  unfold visitStep
  cases goal with
  | block => exact hstatements _ (List.filter_sublist.subset)
  | statement decorators =>
      dsimp only
      split
      · -- a decorated definition
        split
        · next p hp => exact hbelow p (List.mem_of_find?_eq_some hp) _ _ _ h
        · exact .none
      · -- a class
        split
        · exact .none
        · next name hname =>
            have hclass : Orderly kinds before (.entity (classEntity cx n name owner decorators)) :=
              .owned (by decide) h (stringValue?_parentClass (by simp [List.lookup_cons]) owner)
            refine hclass.append ?_
            split
            · next p hp =>
                exact hbelow p (List.mem_of_find?_eq_some hp) _ _ _ .declared
            · exact .none
      · -- a function
        split
        · exact .none
        · next name hname =>
            refine .owned ?_ h (stringValue?_parentClass ?_ owner)
            · split <;> decide
            · simp [List.lookup_cons, lookup_textMember]
      · refine .all fun f hf => ?_
        obtain ⟨c, -, rfl⟩ := List.mem_map.1 hf
        exact orderly_importedModule n c
      · exact orderly_fromImport n
      · exact orderly_assignment h
      · exact hstatements _ List.filter_sublist.subset
      · split
        · exact hstatements _ (List.filter_sublist.trans List.filter_sublist).subset
        · exact .none

theorem orderly_visit (n : Node) : n.isNested = true → ∀ goal owner before, Owned cx before owner n →
    Orderly kinds before (visit cx n goal owner) := by
  -- the owner changes at every class, and `before` grows with it
  induction n using Node.induction with
  | node i cs ih =>
      intro hnested goal owner before h
      rw [visit_eq]
      refine orderly_visitStep (fun p hp goal owner before h => ?_) goal h
      obtain ⟨c, hc, rfl⟩ := List.mem_map.1 hp
      exact ih c hc (Node.isNested_of_mem_children hnested hc) goal owner before (h.child hnested hc)

theorem orderly_collect (cx : Context) (hnested : n.isNested = true) : Orderly kinds [] (collect cx n) :=
  orderly_visit n hnested .block none [] .free

end Python

end CodeAtlas.Syntax
