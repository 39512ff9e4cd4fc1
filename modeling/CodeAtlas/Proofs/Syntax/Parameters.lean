import CodeAtlas.Languages
import CodeAtlas.Proofs.Syntax.Tree

set_option autoImplicit false

/-! # Names of parameters

A parameter binds the names in its pattern, at any depth of taking objects and arrays apart. Its decorators, its type,
its default values and the computed keys of a pattern bind nothing, but they hold identifiers too. A parameter is shown
by the first identifier of all, in document order. That is a name it binds unless the first part with an identifier, at
some depth, is one of those that bind nothing; then what is shown is a stray identifier, and it is right only if it
happens to spell a bound name (`parameterNames_bound_iff`). -/

namespace CodeAtlas.Syntax

namespace Node

/-! ## Binders and strays -/

/-- Does a child of a node bind no name of the parameter around it? A value in a pair of an object pattern is no default
    value but the pattern for the property. -/
def bindsNothing (parent child : Node) : Bool :=
  child.kind = "decorator" || child.kind = "computed_property_name" || child.info.field = some "type"
    || child.info.field = some "right" || (child.info.field = some "value" && parent.kind ≠ "pair_pattern")

mutual

/-- The nodes of a tree that bind a name: identifiers, and the properties of object patterns that stand for a name of
    their own. -/
def binders : Node → List Node
  | mk i cs =>
    (if i.kind = "identifier" ∨ i.kind = "shorthand_property_identifier_pattern" then [mk i cs] else [])
      ++ bindersAmong (mk i cs) cs

/-- The nodes that bind a name among the children of a node and below them. -/
def bindersAmong (parent : Node) : List Node → List Node
  | [] => []
  | c :: rest => (if bindsNothing parent c then [] else binders c) ++ bindersAmong parent rest

end

mutual

/-- The first identifier of a tree in document order, and whether it stands where names are bound. -/
def firstIdentifier? : Node → Option (Node × Bool)
  | mk i cs => if i.kind = "identifier" then some (mk i cs, true) else firstAmong? (mk i cs) cs

/-- The first identifier among the children of a node and below them, and whether it stands where names are bound. -/
def firstAmong? (parent : Node) : List Node → Option (Node × Bool)
  | [] => none
  | c :: rest =>
    match firstIdentifier? c with
    | none => firstAmong? parent rest
    | some (n, bound) => some (n, bound && !bindsNothing parent c)

end

theorem descendantsOfAll_eq (kinds : List String) (cs : List Node) :
    descendantsOfAll kinds cs = cs.flatMap (descendants kinds) := by
  induction cs with
  | nil => rfl
  | cons c rest ih => rw [descendantsOfAll, ih, List.flatMap_cons]

theorem map_fst_firstAmong? {cs : List Node} (parent : Node)
    (h : ∀ c ∈ cs, c.firstIdentifier?.map Prod.fst = (c.descendants ["identifier"]).head?) :
    (firstAmong? parent cs).map Prod.fst = (cs.flatMap (descendants ["identifier"])).head? := by
  induction cs with
  | nil => rfl
  | cons c rest ih =>
      have hc := h c (List.mem_cons_self ..)
      have hrest := ih fun c' hc' => h c' (List.mem_cons_of_mem _ hc')
      rw [firstAmong?, List.flatMap_cons, List.head?_append, ← hc, ← hrest]
      rcases c.firstIdentifier? with _ | ⟨n, bound⟩ <;> rfl

/-- It is the first of all identifiers. -/
theorem map_fst_firstIdentifier? (n : Node) :
    n.firstIdentifier?.map Prod.fst = (n.descendants ["identifier"]).head? := by
  induction n using Node.induction with
  | node i cs ih =>
      rw [firstIdentifier?, descendants, descendantsOfAll_eq]
      by_cases hkind : i.kind = "identifier"
      · simp [hkind]
      · simpa [hkind] using map_fst_firstAmong? (mk i cs) ih

theorem mem_bindersAmong {parent n : Node} {cs : List Node}
    (h : ∀ c ∈ cs, c.firstIdentifier? = some (n, true) → n ∈ c.binders)
    (hfirst : firstAmong? parent cs = some (n, true)) : n ∈ bindersAmong parent cs := by
  induction cs with
  | nil => simp [firstAmong?] at hfirst
  | cons c rest ih =>
      rw [firstAmong?] at hfirst
      rw [bindersAmong, List.mem_append]
      split at hfirst
      · -- `c` has no identifier
        exact .inr (ih (fun c' hc' => h c' (List.mem_cons_of_mem _ hc')) hfirst)
      · next m bound hc =>
          simp only [Option.some.injEq, Prod.mk.injEq, Bool.and_eq_true, Bool.not_eq_true'] at hfirst
          obtain ⟨rfl, rfl, hbinds⟩ := hfirst
          rw [hbinds]
          exact .inl (h c (List.mem_cons_self ..) hc)

/-- Where names are bound, it binds one. -/
theorem mem_binders_of_firstIdentifier? (n : Node) :
    ∀ x, n.firstIdentifier? = some (x, true) → x ∈ n.binders := by
  induction n using Node.induction with
  | node i cs ih =>
      intro x hx
      rw [firstIdentifier?] at hx
      rw [binders, List.mem_append]
      split at hx
      · next hkind =>
          obtain rfl : mk i cs = x := by simpa using hx
          exact .inl (by simp [hkind])
      · exact .inr (mem_bindersAmong (fun c hc => ih c hc x) hx)

end Node

/-! ## Parameters -/

/-- The parameters of a parameter list. -/
def parametersOf (params : Node) : List Node := params.namedChildren.filter (·.kind ≠ "comment")

/-- The name that a parameter is shown by: that of its first identifier. -/
def shownName? (cx : Context) (p : Node) : Option String := p.firstIdentifier?.map fun x => cx.text x.1

/-- The names that a parameter binds. -/
def boundNames (cx : Context) (p : Node) : List String := p.binders.map cx.text

theorem parameterNames_eq (cx : Context) (params : Node) :
    parameterNames cx (some params) = (parametersOf params).filterMap (shownName? cx) := by
  have hname (p : Node) : (p.descendants ["identifier"]).head?.map cx.text = shownName? cx p := by
    rw [← Node.map_fst_firstIdentifier?, Option.map_map]
    rfl
  simp only [parameterNames, hname, parametersOf]

/-- **Where the names of parameters are names that they bind.** A parameter list gives one name for each parameter with
    an identifier, in their order. Each is a name that its parameter binds exactly if, in every parameter whose first
    identifier stands in a decorator, a type, a default value or a computed key, that identifier spells a name which the
    parameter binds elsewhere. -/
theorem parameterNames_bound_iff (cx : Context) (params : Node) :
    parameterNames cx (some params) = (parametersOf params).filterMap (shownName? cx) ∧
    ((∀ p ∈ parametersOf params, ∀ name, shownName? cx p = some name → name ∈ boundNames cx p) ↔
      ∀ p ∈ parametersOf params, ∀ n, p.firstIdentifier? = some (n, false) → cx.text n ∈ boundNames cx p) := by
  refine ⟨parameterNames_eq cx params, forall₂_congr fun p _ => ?_⟩
  constructor
  · intro h n hn
    exact h (cx.text n) (by simp [shownName?, hn])
  · intro h name hname
    obtain ⟨⟨n, bound⟩, hn, rfl⟩ := Option.map_eq_some_iff.1 hname
    cases bound with
    | false => exact h n hn
    | true => exact List.mem_map_of_mem (Node.mem_binders_of_firstIdentifier? p n hn)

/-! ## Injected services -/

/-- A method with an injected service, and with options that are taken apart. -/
def injection : Source :=
  .ofString "class C \x7b\n  m(@Inject() svc: Service, \x7b size = fallback \x7d) \x7b\x7d\n\x7d\n"

/-- Its parameter list, as the grammar reads it. -/
def injectionParameters : Node :=
  ((Languages.typescript.grammar "/a.ts" injection).descendants ["formal_parameters"]).headD (.leaf "" 0 0)

/-- Is a parameter shown by an identifier that spells none of the names it binds? -/
def showsStray (cx : Context) (p : Node) : Bool :=
  match p.firstIdentifier? with
  | some (n, bound) => !bound && cx.text n ∉ boundNames cx p
  | none => false

/-- Neither of the names that the parameters are shown by is one that they bind. -/
theorem parameterNames_injection :
    parameterNames ⟨"a.ts", injection⟩ (some injectionParameters) = ["Inject", "fallback"] ∧
    (parametersOf injectionParameters).map (boundNames ⟨"a.ts", injection⟩) = [["svc"], ["size"]] ∧
    ¬ ∀ p ∈ parametersOf injectionParameters, ∀ name, shownName? ⟨"a.ts", injection⟩ p = some name →
      name ∈ boundNames ⟨"a.ts", injection⟩ p := by
  have hrun : parameterNames ⟨"a.ts", injection⟩ (some injectionParameters) = ["Inject", "fallback"] ∧
      (parametersOf injectionParameters).map (boundNames ⟨"a.ts", injection⟩) = [["svc"], ["size"]] ∧
      (parametersOf injectionParameters).any (showsStray ⟨"a.ts", injection⟩) = true := by decide +kernel
  refine ⟨hrun.1, hrun.2.1, ?_⟩
  rw [(parameterNames_bound_iff ⟨"a.ts", injection⟩ injectionParameters).2]
  intro h
  obtain ⟨p, hp, hstray⟩ := List.any_eq_true.1 hrun.2.2
  unfold showsStray at hstray
  split at hstray
  · next n bound hn =>
      simp only [Bool.and_eq_true, Bool.not_eq_true', decide_eq_true_eq] at hstray
      exact hstray.2 (h p hp n (hstray.1 ▸ hn))
  · simp at hstray

end CodeAtlas.Syntax
