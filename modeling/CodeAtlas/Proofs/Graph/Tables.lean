import CodeAtlas.Proofs.Graph.Answers

set_option autoImplicit false

/-! # The tables of an index

An index lists the ids of a graph's entities by name. Every entity is in the group of its name, and in no other one,
so whatever is made of the ids group by group is, up to order, what is made of the entities one by one
(`names_flatMap_perm`). -/

namespace CodeAtlas.GraphIndex

open CodeAtlas.Graph

variable {g : Graph}

/-- A graph reached by changes is valid, and freezing it changes neither that nor what it holds. -/
theorem valid_of_run_freeze {changes : List Change} {reached : Graph} (hrun : run changes = .ok reached)
    (hg : g = reached ∨ g = reached.freeze) :
    Valid g ∧ g.entities = reached.entities ∧ g.relationships = reached.relationships := by
  obtain ⟨hvalid, -⟩ := valid_of_run hrun
  rcases hg with rfl | rfl
  exacts [⟨hvalid, rfl, rfl⟩, ⟨hvalid.freeze, rfl, rfl⟩]

/-- Entities that are in source order are recorded as they come. -/
theorem ofGraph_eq_foldl (h : g.entities.Pairwise fun a b => Entity.locationLe a b = true) :
    ofGraph g = g.entities.foldl record ⟨g, .empty, .empty, .empty⟩ := by
  rw [ofGraph, Entity.sortByLocation, List.mergeSort_of_pairwise h]

theorem names_foldl_record (l : List Entity) (ix : GraphIndex) :
    (l.foldl record ix).names = l.foldl (fun d e => d.update e.name [] (· ++ [e.id])) ix.names := by
  induction l generalizing ix with
  | nil => rfl
  | cons e rest ih => exact ih (ix.record e)

theorem nodup_keys_names (g : Graph) : (ofGraph g).names.keys.Nodup := by
  rw [ofGraph, names_foldl_record]
  exact Dict.nodup_keys_foldl_update Entity.name [] (fun e ids => ids ++ [e.id]) _ (d := .empty) List.nodup_nil

/-- **The groups of the names hold every entity once.** -/
theorem names_flatMap_perm {β : Type} (g : Graph) (f : String → String → List β) :
    ((ofGraph g).names.entries.flatMap fun e => e.2.flatMap (f e.1)).Perm
      (g.entities.flatMap fun e => f e.name e.id) := by
  rw [ofGraph, names_foldl_record]
  refine (Dict.flatMap_groups_perm Entity.name Entity.id f _).trans ?_
  exact (List.mergeSort_perm g.entities Entity.locationLe).flatMap_right _

theorem mem_byName_iff (g : Graph) (name id : String) :
    id ∈ (ofGraph g).byName name ↔ ∃ e ∈ g.entities, e.name = name ∧ e.id = id := by
  have hmem := (names_flatMap_perm g fun name id => [(name, id)]).mem_iff (a := (name, id))
  have hentity : (name, id) ∈ (g.entities.flatMap fun e => [(e.name, e.id)])
      ↔ ∃ e ∈ g.entities, e.name = name ∧ e.id = id := by
    simp [eq_comm]
  rw [← hentity, ← hmem, byName, List.mem_flatMap]
  constructor
  · intro hid
    cases hget : (ofGraph g).names.get? name with
    | none => simp [hget] at hid
    | some ids =>
        rw [hget, Option.getD_some] at hid
        have hentry := (Dict.mem_entries_iff (nodup_keys_names g) _ _).2 hget
        exact ⟨(name, ids), hentry, List.mem_flatMap.2 ⟨id, hid, by simp⟩⟩
  · rintro ⟨⟨name', ids⟩, hentry, hid⟩
    obtain ⟨id', hid', heq⟩ := List.mem_flatMap.1 hid
    obtain ⟨rfl, rfl⟩ := Prod.mk.inj (List.mem_singleton.1 heq)
    rw [(Dict.mem_entries_iff (nodup_keys_names g) _ _).1 hentry]
    exact hid'

end CodeAtlas.GraphIndex
