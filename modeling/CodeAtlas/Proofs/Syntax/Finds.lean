import CodeAtlas.Proofs.Syntax.Tree
import CodeAtlas.Syntax.Symbols
import Mathlib.Algebra.Order.Ring.Rat

set_option autoImplicit false

/-! # What walks find

A walk over a syntax tree finds entities one after another, and the walks over parts of the tree are put together. What
matters of a find is said behind the entities that were found before it (`Orderly`): its kinds are allowed, each member
of a class comes after the class, which encloses it, and its imports have names. Finds put together stay orderly, and so
the walk over each kind of node is looked at alone. Going down, a walk carries the name of the class that it is in; that
the class was found and encloses the node is what holds of that name in a nested tree (`Owned`). -/

namespace CodeAtlas.Syntax

/-! ## Members and their classes -/

/-- A class of a name whose lines enclose others. -/
structure IsClassAround (name : String) (first last : ℚ) (k : Entity) : Prop where
  kind : k.kind = .classDecl
  name : k.name = name
  startLine : k.startLine ≤ first
  endLine : last ≤ k.endLine

/-- The name of the class that an entity is a member of. -/
def memberOf? (e : Entity) : Option String := e.metadata.stringValue? "parentClass"

/-- Behind some entities, every member of a class in a list comes after the class, which encloses it. -/
def MembersFollow (before l : List Entity) : Prop :=
  ∀ earlier e later, l = earlier ++ e :: later → ∀ name, memberOf? e = some name →
    ∃ k ∈ before ++ earlier, IsClassAround name e.startLine e.endLine k

namespace MembersFollow

variable {before before' l l' : List Entity} {e : Entity}

theorem nil : MembersFollow before [] := by
  intro earlier e later h
  simp at h

theorem singleton (h : ∀ name, memberOf? e = some name → ∃ k ∈ before, IsClassAround name e.startLine e.endLine k) :
    MembersFollow before [e] := by
  intro earlier e' later hsplit name hname
  obtain ⟨rfl, rfl, rfl⟩ : earlier = [] ∧ e' = e ∧ later = [] := by
    simpa [List.singleton_eq_append_iff, and_assoc] using hsplit
  rw [List.append_nil]
  exact h name hname

theorem mono (h : MembersFollow before l) (hsub : before ⊆ before') : MembersFollow before' l := by
  intro earlier e later hsplit name hname
  obtain ⟨k, hk, haround⟩ := h earlier e later hsplit name hname
  exact ⟨k, List.append_subset.2 ⟨fun _ h => List.mem_append_left _ (hsub h), List.subset_append_right ..⟩ hk, haround⟩

theorem append (h : MembersFollow before l) (h' : MembersFollow (before ++ l) l') : MembersFollow before (l ++ l') := by
  intro earlier e later hsplit name hname
  rcases List.append_eq_append_iff.1 hsplit with ⟨middle, rfl, hl'⟩ | ⟨middle, hl, hl'⟩
  · -- the member is in the second list
    rw [← List.append_assoc]
    exact h' middle e later hl' name hname
  · -- the first list goes up to the member or beyond it; if no further, the member heads the second list
    cases middle with
    | nil =>
        rw [List.append_nil] at hl
        obtain ⟨k, hk, haround⟩ := h' [] e later hl'.symm name hname
        exact ⟨k, by simpa [hl] using hk, haround⟩
    | cons x rest =>
        obtain ⟨rfl, rfl⟩ := List.cons_eq_cons.1 hl'
        exact h earlier e rest hl name hname

end MembersFollow

/-! ## The class that a walk is in -/

section Owner

variable {cx : Context} {before : List Entity} {owner : Option String} {n c : Node}

/-- The class that a walk is in, if any, was found before and encloses the node. -/
def Owned (cx : Context) (before : List Entity) (owner : Option String) (n : Node) : Prop :=
  ∀ name, owner = some name →
    ∃ k ∈ before, IsClassAround name (n.startLine cx.source : ℕ) (n.endLine cx.source : ℕ) k

theorem Owned.free : Owned cx before none n := fun name h => by simp at h

/-- Behind its own entity, a class owns itself. -/
theorem Owned.declared {name : String} {docstring : Option String} {m : Metadata} :
    Owned cx (before ++ [cx.entity .classDecl name n docstring m]) (some name) n := by
  intro name' h
  obtain rfl := Option.some.inj h
  exact ⟨_, List.mem_append_right _ (List.mem_singleton_self _), rfl, rfl, le_rfl, le_rfl⟩

theorem Owned.child (h : Owned cx before owner n) (hnested : n.isNested = true) (hc : c ∈ n.children) :
    Owned cx before owner c := by
  intro name hname
  obtain ⟨k, hk, haround⟩ := h name hname
  have hlines := Node.lines_of_mem_children hnested hc cx.source
  exact ⟨k, hk, haround.kind, haround.name, haround.startLine.trans (by exact_mod_cast hlines.1),
    le_trans (by exact_mod_cast hlines.2) haround.endLine⟩

end Owner

/-! ## Finds -/

/-- What a walk found behind some entities: kinds that are allowed, members behind their classes, named imports. -/
structure Orderly (kinds : List EntityKind) (before : List Entity) (f : Found) : Prop where
  kinds : ∀ e ∈ f.entities, e.kind ∈ kinds
  members : MembersFollow before f.entities
  imports : ∀ s ∈ f.imports, s ≠ ""

namespace Orderly

variable {kinds : List EntityKind} {before before' : List Entity} {e : Entity} {f g : Found}

theorem none : Orderly kinds before .none := ⟨by simp [Found.none], .nil, by simp [Found.none]⟩

theorem importing (specifier : String) : Orderly kinds before (.importing specifier) := by
  refine ⟨by simp [Found.importing], .nil, fun s hs => ?_⟩
  rw [Found.importing] at hs
  split at hs
  · simp at hs
  · next hne =>
      rw [List.mem_singleton] at hs
      exact hs ▸ hne

theorem entity (hkind : e.kind ∈ kinds)
    (h : ∀ name, memberOf? e = some name → ∃ k ∈ before, IsClassAround name e.startLine e.endLine k) :
    Orderly kinds before (.entity e) :=
  ⟨by simpa [Found.entity] using hkind, .singleton h, by simp [Found.entity]⟩

/-- The entity of a node that belongs to the class the walk is in. -/
theorem owned {cx : Context} {owner : Option String} {n : Node} {kind : EntityKind} {name : String}
    {docstring : Option String} {m : Metadata} (hkind : kind ∈ kinds) (h : Owned cx before owner n)
    (hm : m.stringValue? "parentClass" = owner) :
    Orderly kinds before (.entity (cx.entity kind name n docstring m)) := by
  subst hm
  exact .entity hkind h

/-- The entity of a node whose metadata name no class. -/
theorem free {cx : Context} {n : Node} {kind : EntityKind} {name : String} {docstring : Option String} {m : Metadata}
    (hkind : kind ∈ kinds) (hm : m.lookup "parentClass" = Option.none) :
    Orderly kinds before (.entity (cx.entity kind name n docstring m)) :=
  owned hkind .free (by rw [Metadata.stringValue?, hm])

theorem mono (h : Orderly kinds before f) (hsub : before ⊆ before') : Orderly kinds before' f :=
  ⟨h.kinds, h.members.mono hsub, h.imports⟩

theorem append (h : Orderly kinds before f) (h' : Orderly kinds (before ++ f.entities) g) :
    Orderly kinds before (f ++ g) :=
  ⟨List.forall_mem_append.2 ⟨h.kinds, h'.kinds⟩, h.members.append h'.members,
    List.forall_mem_append.2 ⟨h.imports, h'.imports⟩⟩

theorem mono_kinds {kinds' : List EntityKind} (h : Orderly kinds before f) (hsub : kinds ⊆ kinds') :
    Orderly kinds' before f :=
  ⟨fun e he => hsub (h.kinds e he), h.members, h.imports⟩

/-- Finds that are orderly each for themselves. -/
theorem both (h : Orderly kinds before f) (h' : Orderly kinds before g) : Orderly kinds before (f ++ g) :=
  h.append (h'.mono (List.subset_append_left ..))

theorem all {l : List Found} (h : ∀ f ∈ l, Orderly kinds before f) : Orderly kinds before (.all l) := by
  induction l with
  | nil => exact .none
  | cons f rest ih =>
      exact (h f (List.mem_cons_self ..)).both (ih fun g hg => h g (List.mem_cons_of_mem _ hg))

end Orderly

end CodeAtlas.Syntax
