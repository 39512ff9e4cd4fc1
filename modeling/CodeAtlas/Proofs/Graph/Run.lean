import CodeAtlas.Proofs.Graph.Removal

set_option autoImplicit false

/-! # Sequences of changes

A graph is reached by changes to a new one: entities are added or replaced, relationships are added, the
entities of a file are removed. Each change keeps the graph valid and open, so every sequence of changes
runs to its end; `run_keeps_lists_in_step` says what holds of the graph there. -/

namespace CodeAtlas.Graph

/-- A change that a caller can ask for. -/
inductive Change where
  | addEntity (e : Entity)
  | addRelationship (r : Relationship)
  | removeFile (path : String)

/-- Make one change; a relationship without an end changes nothing. -/
def change (g : Graph) : Change → Except Fault Graph
  | .addEntity e => g.addEntity e
  | .addRelationship r => (g.addRelationship r).map (·.1)
  | .removeFile path => (g.removeFile path).map (·.1)

/-- Make changes to a new graph, one after another. -/
def run (changes : List Change) : Except Fault Graph := changes.foldlM change empty

/-! ## Open graphs stay open -/

@[simp] theorem frozen_insertEntity (g : Graph) (e : Entity) : (g.insertEntity e).frozen = g.frozen := rfl

@[simp] theorem frozen_detach (g : Graph) (r : Relationship) : (g.detach r).frozen = g.frozen := by
  unfold detach
  split <;> rfl

@[simp] theorem frozen_removeEntity (g : Graph) (id : String) : (g.removeEntity id).frozen = g.frozen := by
  have hfold : ∀ (l : List Relationship) (d : Graph), (l.foldl detach d).frozen = d.frozen := by
    intro l
    induction l with
    | nil => intro d; rfl
    | cons r rest ih => intro d; rw [List.foldl_cons, ih, frozen_detach]
  exact hfold _ g

@[simp] theorem frozen_dropFile (g : Graph) (path : String) : (g.dropFile path).1.frozen = g.frozen := by
  have hfold : ∀ (ids : List String) (d : Graph), (ids.foldl removeEntity d).frozen = d.frozen := by
    intro ids
    induction ids with
    | nil => intro d; rfl
    | cons id rest ih => intro d; rw [List.foldl_cons, ih, frozen_removeEntity]
  exact hfold _ g

/-! ## One change, and many -/

/-- An open graph answers a call of `addRelationship`, and is left valid and open. -/
theorem addRelationship_spec {g : Graph} (h : Valid g) (hopen : g.frozen = false) (r : Relationship) :
    ∃ g' answer, g.addRelationship r = .ok (g', answer) ∧ Valid g' ∧ g'.frozen = false ∧
      ((∃ f, answer = .error f) ↔ g.knowsEnds r = false) ∧
      ((∃ f, answer = .error f) ∨ (∃ known ∈ g.relationships, answer = .ok known) → g' = g) := by
  unfold addRelationship whileOpen
  rw [hopen]
  rcases link_cases g r with ⟨hends, id, he⟩ | ⟨hends, k, hk, he⟩ | ⟨hends, hnew, he⟩
  · exact ⟨g, _, by simp only [he]; rfl, h, hopen, ⟨fun _ => hends, fun _ => ⟨_, rfl⟩⟩, fun _ => rfl⟩
  · exact ⟨g, .ok k, by simp only [he]; rfl, h, hopen, by simp [hends], fun _ => rfl⟩
  · refine ⟨g.append r, .ok r, by simp only [he]; rfl, h.append r hends hnew, hopen, by simp [hends], ?_⟩
    rintro (⟨f, hf⟩ | ⟨known, hknown, hk⟩)
    · exact absurd hf (by simp)
    · cases hk
      exact absurd rfl ((h.relationship?_eq_none_iff _).1 hnew _ hknown)

/-- One change of a valid open graph succeeds and gives one. -/
theorem change_spec {g : Graph} (h : Valid g) (hopen : g.frozen = false) (c : Change) :
    ∃ g', g.change c = .ok g' ∧ Valid g' ∧ g'.frozen = false := by
  cases c with
  | addEntity e =>
      exact ⟨g.insertEntity e, by simp [change, addEntity, whileOpen, hopen], h.insertEntity e, hopen⟩
  | addRelationship r =>
      obtain ⟨g', answer, hadd, hv, ho, -, -⟩ := addRelationship_spec h hopen r
      exact ⟨g', by simp [change, hadd, Except.map], hv, ho⟩
  | removeFile path =>
      refine ⟨(g.dropFile path).1, ?_, h.dropFile path, by simpa using hopen⟩
      simp [change, removeFile, whileOpen, hopen, Except.map]

theorem run_spec (changes : List Change) :
    ∀ {g : Graph}, Valid g → g.frozen = false →
      ∃ g', changes.foldlM change g = .ok g' ∧ Valid g' ∧ g'.frozen = false := by
  induction changes with
  | nil => intro g h hopen; exact ⟨g, rfl, h, hopen⟩
  | cons c rest ih =>
      intro g h hopen
      obtain ⟨g₁, hc, h₁, hopen₁⟩ := change_spec h hopen c
      obtain ⟨g₂, hrest, h₂, hopen₂⟩ := ih h₁ hopen₁
      exact ⟨g₂, by rw [List.foldlM_cons, hc]; exact hrest, h₂, hopen₂⟩

/-- What changes to a new graph lead to is valid and open. -/
theorem valid_of_run {changes : List Change} {g : Graph} (hrun : run changes = .ok g) : Valid g ∧ g.frozen = false := by
  obtain ⟨g', hrun', h⟩ := run_spec changes Valid.empty rfl
  obtain rfl : g' = g := Except.ok.inj (hrun'.symm.trans hrun)
  exact h

/-- **The tables of a graph stay in step.** After every sequence of changes to a new graph, relationship
    ids are distinct, both ends of every relationship are entities, and the lists of an id are the
    relationship list filtered by source and by target. A relationship is refused exactly if it lacks an
    end, and a call that refuses it or finds it known leaves the graph as it is. -/
theorem run_keeps_lists_in_step (changes : List Change) :
    ∃ g, run changes = .ok g ∧
      (g.relationships.map Relationship.id).Nodup ∧
      (∀ r ∈ g.relationships, (∃ e ∈ g.entities, e.id = r.source) ∧ ∃ e ∈ g.entities, e.id = r.target) ∧
      (∀ id, g.outgoing id = g.relationships.filter (·.source = id) ∧
        g.incoming id = g.relationships.filter (·.target = id)) ∧
      ∀ r, ∃ g' answer, g.addRelationship r = .ok (g', answer) ∧
        ((∃ f, answer = .error f) ↔
          ¬ ((∃ e ∈ g.entities, e.id = r.source) ∧ ∃ e ∈ g.entities, e.id = r.target)) ∧
        ((∃ f, answer = .error f) ∨ (∃ known ∈ g.relationships, answer = .ok known) → g' = g) := by
  obtain ⟨g, hrun, h, hopen⟩ := run_spec changes Valid.empty rfl
  refine ⟨g, hrun, h.nodup_relationships, fun r hr => ?_, fun id => ⟨h.outgoing_eq id, h.incoming_eq id⟩,
    fun r => ?_⟩
  · exact ⟨(h.hasEntity_iff _).1 (h.source_known r hr), (h.hasEntity_iff _).1 (h.target_known r hr)⟩
  · obtain ⟨g', answer, hadd, -, -, herr, hsame⟩ := addRelationship_spec h hopen r
    refine ⟨g', answer, hadd, ?_, hsame⟩
    rw [herr, ← h.hasEntity_iff, ← h.hasEntity_iff, knowsEnds]
    simp

end CodeAtlas.Graph
