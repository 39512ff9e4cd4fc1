import CodeAtlas.Proofs.Syntax.Finds
import CodeAtlas.Syntax.Script.Symbols

set_option autoImplicit false

/-! # Walks over JavaScript and TypeScript modules

A walk goes through exports and, in TypeScript, into namespaces, but not into classes: the members of a class are found
together with it, right behind it. So no walk is ever in a class, and what it finds in a nested tree is orderly behind
anything. -/

namespace CodeAtlas.Syntax

namespace Script

open Node (Place)

variable {cx : Context} {typed : Bool} {before : List Entity} {n c : Node}

/-- The kinds of entity that a dialect has. -/
def kindsOf (typed : Bool) : List EntityKind := if typed then typedKinds else kinds

theorem visitAll_eq (cx : Context) (typed : Bool) (cs : List Node) :
    visitAll cx typed cs = cs.map fun c => (c, visit cx typed c) := by
  induction cs with
  | nil => rfl
  | cons c rest ih => rw [visitAll, ih, List.map_cons]

theorem visit_eq (cx : Context) (typed : Bool) (n : Node) (goal : Goal) :
    visit cx typed n goal = visitStep cx typed n (n.children.map fun c => (c, visit cx typed c)) goal := by
  obtain ⟨i, cs⟩ := n
  rw [visit, visitAll_eq, Node.children]

theorem node_mem_of_mem_placesFrom {p : Place} {l earlier : List Node} (h : p ∈ Node.placesFrom earlier l) :
    p.node ∈ l := by
  induction l generalizing earlier with
  | nil => simp [Node.placesFrom] at h
  | cons c rest ih =>
      rw [Node.placesFrom, List.mem_cons] at h
      rcases h with rfl | h
      · exact List.mem_cons_self ..
      · exact List.mem_cons_of_mem _ (ih h)

/-! ### Classes -/

theorem orderly_classMember {className : String} {p : Place} (h : Owned cx before (some className) p.node) :
    Orderly kinds before (classMember cx className p) := by
  unfold classMember
  dsimp only
  split
  · exact .none
  · split
    · exact .owned (by decide) h rfl
    · split
      · exact .owned (by decide) h rfl
      · exact .none

theorem orderly_classSymbols {p : Place} (hnested : p.node.isNested = true) (anchor : Anchor) :
    Orderly kinds before (classSymbols cx p anchor) := by
  unfold classSymbols
  split
  · exact .none
  · next name hname =>
      have hclass : Orderly kinds before (.entity (classEntity cx p name anchor)) :=
        .free (by decide) (by simp [List.lookup_cons])
      refine hclass.append (.all fun f hf => ?_)
      obtain ⟨m, hm, rfl⟩ := List.mem_map.1 hf
      -- the member is two levels below the class, and the body between them need not be on the same lines
      obtain ⟨body, hbody, hplaces⟩ : ∃ body, p.node.field? "body" = some body ∧ m ∈ namedPlaces body := by
        cases hfield : p.node.field? "body" with
        | none => simp [hfield] at hm
        | some body => exact ⟨body, rfl, by simpa [hfield] using hm⟩
      have hbody' : body ∈ p.node.children := List.mem_of_find?_eq_some hbody
      have hm' : m.node ∈ body.children := node_mem_of_mem_placesFrom (List.mem_filter.1 hplaces).1
      have howned : Owned cx (before ++ [classEntity cx p name anchor]) (some name) p.node := .declared
      exact orderly_classMember
        ((howned.child hnested hbody').child (Node.isNested_of_mem_children hnested hbody') hm')

/-! ### Other declarations -/

theorem orderly_functionSymbols (n : Node) (anchor : Anchor) : Orderly kinds before (functionSymbols cx n anchor) := by
  unfold functionSymbols
  split
  · exact .none
  · exact .free (by decide) (by simp [List.lookup_cons])

theorem orderly_declaratorSymbols {d : Node} (hnested : d.isNested = true) (isConst : Bool) (anchor : Anchor) :
    Orderly kinds before (declaratorSymbols cx isConst anchor d) := by
  have hplain (name : String) : Orderly kinds before (.entity
      (cx.entity (if isConst && isConstantName name then .constantDecl else .variableDecl) name d anchor.docstring
        [("exported", .flag anchor.exported), ("isConst", .flag isConst)])) :=
    .free (by split <;> decide) (by simp [List.lookup_cons])
  unfold declaratorSymbols
  dsimp only
  split
  · exact .none
  · split
    · exact .none
    · split
      · exact hplain _
      · next p hp =>
          split
          · exact .free (by decide) (by simp [List.lookup_cons])
          · split
            · have hchild := node_mem_of_mem_placesFrom (List.mem_of_find?_eq_some hp)
              exact orderly_classSymbols (Node.isNested_of_mem_children hnested hchild) anchor
            · exact hplain _

theorem orderly_variableSymbols (hnested : n.isNested = true) (anchor : Anchor) :
    Orderly kinds before (variableSymbols cx n anchor) := by
  refine .all fun f hf => ?_
  obtain ⟨d, hd, rfl⟩ := List.mem_map.1 hf
  have hchild := List.mem_of_mem_filter (List.mem_of_mem_filter hd)
  exact orderly_declaratorSymbols (Node.isNested_of_mem_children hnested hchild) _ _

theorem orderly_importSymbols (n : Node) : Orderly kinds before (importSymbols cx n) := by
  unfold importSymbols
  split
  · exact .none
  · exact (Orderly.importing _).append (.free (by decide) (by simp [List.lookup_cons]))

theorem orderly_requiredModule (call : Node) : Orderly kinds before (requiredModule cx call) := by
  unfold requiredModule
  dsimp only
  split
  · exact .importing _
  · exact .none

theorem orderly_interfaceSymbols (n : Node) (anchor : Anchor) :
    Orderly typedKinds before (interfaceSymbols cx n anchor) := by
  unfold interfaceSymbols
  split
  · exact .none
  · exact .free (by decide) (by simp [List.lookup_cons])

theorem orderly_enumSymbols (n : Node) (anchor : Anchor) : Orderly typedKinds before (enumSymbols cx n anchor) := by
  unfold enumSymbols
  split
  · exact .none
  · exact .free (by decide) (by simp [List.lookup_cons])

/-! ### The walk -/

theorem mem_of_mem_stepsOf {s : Step} {below : List (Node × Visit)} {earlier : List Node}
    (h : s ∈ stepsOf earlier below) : (s.place.node, s.visit) ∈ below := by
  induction below generalizing earlier with
  | nil => simp [stepsOf] at h
  | cons p rest ih =>
      rw [stepsOf, List.mem_cons] at h
      rcases h with rfl | h
      · exact List.mem_cons_self ..
      · exact List.mem_cons_of_mem _ (ih h)

section Step

variable {below : List (Node × Visit)}

theorem orderly_namespaceSymbols (hbelow : ∀ p ∈ below, ∀ goal before, Orderly typedKinds before (p.2 goal)) (n : Node)
    (anchor : Anchor) : Orderly typedKinds before (namespaceSymbols cx n below anchor) := by
  unfold namespaceSymbols
  split
  · exact .none
  · refine .append (.free (by decide) rfl) ?_
    split
    · next p hp => exact hbelow p (List.mem_of_find?_eq_some hp) _ _
    · exact .none

theorem orderly_typedStep (hbelow : ∀ p ∈ below, ∀ goal before, Orderly typedKinds before (p.2 goal)) (n : Node)
    (anchor : Anchor) : Orderly typedKinds before (typedStep cx n below anchor) := by
  unfold typedStep
  split
  · exact orderly_interfaceSymbols n anchor
  · exact orderly_enumSymbols n anchor
  · exact orderly_namespaceSymbols hbelow n anchor
  · exact orderly_namespaceSymbols hbelow n anchor
  · split
    · next c v hfind =>
        split_ifs
        · exact hbelow _ (List.mem_of_find?_eq_some hfind) _ _
        · exact .none
    · exact .none
  · exact .none

/-- Is a node visited so in a dialect? Only the typed one has namespaces. -/
def Goal.fits (typed : Bool) : Goal → Bool
  | .inner _ => typed
  | _ => true

/-- What one step of a walk finds is orderly if what the walks below find is. -/
theorem orderly_visitStep (hnested : n.isNested = true)
    (hbelow : ∀ p ∈ below, ∀ goal, goal.fits typed = true → ∀ before, Orderly (kindsOf typed) before (p.2 goal))
    {goal : Goal} (hgoal : goal.fits typed = true) :
    Orderly (kindsOf typed) before (visitStep cx typed n below goal) := by
  have hall (h : typed = true) : ∀ p ∈ below, ∀ goal before, Orderly typedKinds before (p.2 goal) := by
    subst h
    exact fun p hp goal before => hbelow p hp goal (by cases goal <;> rfl) before
  have hplain {f : Found} (h : Orderly kinds before f) : Orderly (kindsOf typed) before f :=
    h.mono_kinds (by cases typed <;> decide)
  unfold visitStep
  cases goal with
  | body =>
      refine .all fun f hf => ?_
      obtain ⟨s, hs, rfl⟩ := List.mem_map.1 hf
      exact hbelow _ (mem_of_mem_stepsOf (List.mem_of_mem_filter hs)) _ rfl _
  | inner anchor =>
      obtain rfl : typed = true := hgoal
      exact orderly_namespaceSymbols (hall rfl) n anchor
  | statement earlier anchor =>
      dsimp only
      split
      · -- an export, perhaps from another module
        refine .both ?_ ?_
        · split
          · exact .importing _
          · exact .none
        · split
          · next s hs => exact hbelow _ (mem_of_mem_stepsOf (List.mem_of_find?_eq_some hs)) _ rfl _
          · exact .none
      · exact hplain (orderly_importSymbols n)
      · exact hplain (orderly_functionSymbols n anchor)
      · exact hplain (orderly_functionSymbols n anchor)
      · exact hplain (orderly_variableSymbols hnested anchor)
      · exact hplain (orderly_variableSymbols hnested anchor)
      · split
        · exact hplain (orderly_classSymbols hnested anchor)
        · -- only the typed dialect has more declarations
          split
          · next htyped =>
              subst htyped
              exact orderly_typedStep (hall rfl) n anchor
          · exact .none

end Step

theorem orderly_visit (n : Node) : n.isNested = true → ∀ goal : Goal, goal.fits typed = true → ∀ before,
    Orderly (kindsOf typed) before (visit cx typed n goal) := by
  -- `before` stays general, since the body of a namespace is walked behind the entity of the namespace
  induction n using Node.induction with
  | node i cs ih =>
      intro hnested goal hgoal before
      rw [visit_eq]
      refine orderly_visitStep hnested (fun p hp goal hgoal before => ?_) hgoal
      obtain ⟨c, hc, rfl⟩ := List.mem_map.1 hp
      exact ih c hc (Node.isNested_of_mem_children hnested hc) goal hgoal before

theorem orderly_collect (typed : Bool) (cx : Context) (hnested : n.isNested = true) :
    Orderly (kindsOf typed) [] (collect typed cx n) := by
  refine (orderly_visit n hnested .body rfl []).append (.all fun f hf => ?_)
  obtain ⟨call, -, rfl⟩ := List.mem_map.1 hf
  exact (orderly_requiredModule call).mono_kinds (by cases typed <;> decide)

end Script

end CodeAtlas.Syntax
