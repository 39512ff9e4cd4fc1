import CodeAtlas.Proofs.Graph.Answers
import CodeAtlas.Proofs.Graph.Shows

set_option autoImplicit false

/-! # Chains with the least number of hops

A chain that one could write down is a walk (`ChainTo.walk`), and a chain of as many hops as the goal is away repeats
no id: between two places of one id there would be a part to leave out. With that, `shortestPath_isLeast` says of the
search for a chain, in terms of chains alone, when it finds none and what it finds. -/

namespace CodeAtlas.GraphIndex

open CodeAtlas.Graph

variable {g : Graph} {start goal : String}

/-! ## Walks and chains -/

theorem walk_append {a b c : String} {m n : Nat} (h : Walk g a m b) (h' : Walk g b n c) : Walk g a (m + n) c := by
  induction h' with
  | here => exact h
  | step _ hab ih => exact .step ih hab

/-- Between two places of a chain there is a walk of as many hops as they are apart. -/
theorem walk_getElem {chain : List String} (h : chain.IsChain (Leads g)) {i j : Nat} (hij : i ≤ j) :
    ∀ (hj : j < chain.length), Walk g chain[i] (j - i) chain[j] := by
  induction j, hij using Nat.le_induction with
  | base => intro hj; rw [Nat.sub_self]; exact .here
  | succ j hij ih =>
      intro hj
      rw [Nat.succ_sub hij]
      exact .step (ih (by omega)) (List.isChain_iff_getElem.1 h j hj)

namespace ChainTo

variable {n : Nat} {id : String} {chain : List String}

theorem getElem_zero (h : ChainTo g start n id chain) (hlt : 0 < chain.length) : chain[0] = start := by
  have := h.head_eq
  rw [List.head?_eq_getElem?, List.getElem?_eq_getElem hlt] at this
  exact Option.some.inj this

theorem getElem_last (h : ChainTo g start n id chain) (hlt : n < chain.length) : chain[n] = id := by
  have := h.last_eq
  rw [List.getLast?_eq_getElem?, h.length_eq, Nat.add_sub_cancel, List.getElem?_eq_getElem hlt] at this
  exact Option.some.inj this

theorem walk (h : ChainTo g start n id chain) : Walk g start n id := by
  have hlen := h.length_eq
  have hwalk := walk_getElem h.leads (Nat.zero_le n) (by omega)
  rwa [h.getElem_zero (by omega), h.getElem_last (by omega)] at hwalk

/-- A chain with the least number of hops repeats no id. -/
theorem nodup_of_least (h : ChainTo g start n id chain) (hleast : ∀ m, Walk g start m id → n ≤ m) : chain.Nodup := by
  have hlen := h.length_eq
  rw [List.Nodup, List.pairwise_iff_getElem]
  intro i j hi hj hij heq
  -- what lies between the two places can be left out
  have hbefore := walk_getElem h.leads (Nat.zero_le i) hi
  have hafter := walk_getElem h.leads (show j ≤ n by omega) (by omega)
  rw [h.getElem_zero (by omega), heq] at hbefore
  rw [h.getElem_last (by omega)] at hafter
  have := hleast _ (walk_append hbefore hafter)
  omega

end ChainTo

/-! ## What the search finds -/

/-- **The search for a chain finds one with the least number of hops.** On a graph reached by changes, frozen
    or not, it finds none exactly if an end is unknown or no chain of at most `maxLength` hops leads from the
    one to the other. What it finds is such a chain; it repeats no id, and no chain has fewer hops. -/
theorem shortestPath_isLeast {changes : List Change} {reached : Graph} (hrun : run changes = .ok reached)
    {ix : GraphIndex} (hix : ix.graph = reached ∨ ix.graph = reached.freeze) (start goal : String) (maxLength : Nat) :
    (ix.shortestPath start goal maxLength = none ↔
      (∀ e ∈ reached.entities, e.id ≠ start) ∨ (∀ e ∈ reached.entities, e.id ≠ goal) ∨
        ¬ ∃ n ≤ maxLength, ∃ chain, ChainTo reached start n goal chain) ∧
    ∀ chain, ix.shortestPath start goal maxLength = some chain →
      ∃ n ≤ maxLength, ChainTo reached start n goal chain ∧ chain.Nodup ∧
        ∀ m other, ChainTo reached start m goal other → n ≤ m := by
  obtain ⟨hvalid, -⟩ := valid_of_run hrun
  have hg : Valid ix.graph := by
    rcases hix with h | h <;> rw [h]
    exacts [hvalid, hvalid.freeze]
  -- freezing changes neither what is known nor what leads where
  have hents : ix.graph.entities = reached.entities := by rcases hix with h | h <;> rw [h]; rfl
  have hleads : Leads ix.graph = Leads reached := by rcases hix with h | h <;> rw [h]; rfl
  have hchain {n : Nat} {chain : List String} (h : ChainTo ix.graph start n goal chain) :
      ChainTo reached start n goal chain := ⟨h.length_eq, h.head_eq, h.last_eq, hleads ▸ h.leads⟩
  have hchain' {n : Nat} {chain : List String} (h : ChainTo reached start n goal chain) :
      ChainTo ix.graph start n goal chain := ⟨h.length_eq, h.head_eq, h.last_eq, hleads ▸ h.leads⟩
  have hunknown (id : String) : (∀ e ∈ reached.entities, e.id ≠ id) ↔ ¬ ix.graph.hasEntity id = true := by
    simp [hg.hasEntity_iff, hents]
  rw [hunknown, hunknown]
  rcases shortestPath_spec hg start goal maxLength with ⟨hnone, hfar⟩ | ⟨chain, n, hsome, hs, ht, hn, hd, hc⟩
  · refine ⟨iff_of_true hnone ?_, by simp [hnone]⟩
    by_contra hnot
    push Not at hnot
    obtain ⟨hs, ht, n, hn, chain, hc⟩ := hnot
    obtain ⟨m, hm, hd⟩ := (hchain' hc).walk.exists_distance
    exact hfar m (by omega) hd ⟨hs, ht⟩
  · refine ⟨iff_of_false (by simp [hsome]) ?_, fun chain' hsome' => ?_⟩
    · rintro (hno | hno | hno)
      exacts [hno hs, hno ht, hno ⟨n, hn, chain, hchain hc⟩]
    · obtain rfl : chain = chain' := Option.some.inj (hsome.symm.trans hsome')
      exact ⟨n, hn, hchain hc, hc.nodup_of_least hd.least, fun m other hother => hd.least m (hchain' hother).walk⟩

/-- The tables play no part in the search. -/
theorem shortestPath_ofGraph (g : Graph) (start goal : String) (maxLength : Nat) :
    (ofGraph g).shortestPath start goal maxLength =
      (⟨g, .empty, .empty, .empty⟩ : GraphIndex).shortestPath start goal maxLength := by
  simp only [shortestPath, graph_ofGraph]

/-! ## A ring with a chord -/

/-- A function named by its id. -/
def station (name : String) : Change :=
  .addEntity ⟨name, .functionDecl, "line.ts", name, 1, 1, none, none, [], none⟩

/-- A relationship between two functions. -/
def track (source : String) (kind : RelationKind) (target : String) : Change :=
  .addRelationship (Relationship.create source kind target)

/-- Four functions in a ring. The first calls itself and is linked to the third directly, in two ways; nothing leads
    to the fifth. -/
def loop : List Change :=
  [station "a", station "b", station "c", station "d", station "e", track "a" .calls "a", track "a" .calls "b",
    track "b" .calls "c", track "a" .calls "c", track "a" .references "c", track "c" .calls "d", track "d" .calls "a"]

/-- What the changes lead to. -/
def looped : Graph := (run loop).toOption.getD .empty

theorem run_loop : run loop = .ok looped := rfl

theorem shortestPath_loop :
    (ofGraph looped.freeze).shortestPath "a" "d" 5 = some ["a", "c", "d"] ∧
      (∃ n ≤ 5, ChainTo looped "a" n "d" ["a", "c", "d"] ∧ ["a", "c", "d"].Nodup ∧
        ∀ m other, ChainTo looped "a" m "d" other → n ≤ m) ∧
      (¬ ∃ n ≤ 1, ∃ chain, ChainTo looped "a" n "d" chain) ∧
      ¬ ∃ n ≤ 9, ∃ chain, ChainTo looped "a" n "e" chain := by
  have hknown : ∀ id ∈ ["a", "d", "e"], ¬ ∀ e ∈ looped.entities, e.id ≠ id := by decide +kernel
  have hfound : (ofGraph looped.freeze).shortestPath "a" "d" 5 = some ["a", "c", "d"] := by
    rw [shortestPath_ofGraph]
    decide +kernel
  have hshort := (shortestPath_isLeast run_loop (.inr (graph_ofGraph _)) "a" "d" 1).1.1 <| by
    rw [shortestPath_ofGraph]
    decide +kernel
  have hapart := (shortestPath_isLeast run_loop (.inr (graph_ofGraph _)) "a" "e" 9).1.1 <| by
    rw [shortestPath_ofGraph]
    decide +kernel
  refine ⟨hfound, (shortestPath_isLeast run_loop (.inr (graph_ofGraph _)) _ _ _).2 _ hfound, ?_, ?_⟩
  · exact (hshort.resolve_left (hknown _ (by simp))).resolve_left (hknown _ (by simp))
  · exact (hapart.resolve_left (hknown _ (by simp))).resolve_left (hknown _ (by simp))

end CodeAtlas.GraphIndex
