import CodeAtlas.Proofs.Build.Placement
import CodeAtlas.Proofs.Graph.Neighbourhood

set_option autoImplicit false

/-! # What a file contains, all the way down

The walk from a file takes an entity off its stack, follows the containments that leave it, and remembers and stacks
what it meets for the first time. Between two turns (`Walked`) the ids visited are the file and what was found, each
once; the way up from each of them leads to the file, and whatever one of them contains was visited too, unless that
one is still on the stack. Every turn takes one id off and stacks only what is new, so the stack runs empty before the
entities do (`Walked.exists_finds`), and what was found then is everything below the file, whether containments share
children or run in circles: `entitiesInFile_lists_below`. -/

namespace CodeAtlas

namespace Graph

theorem heldBy_iff (g : Graph) (child parent : String) : g.HeldBy child parent ↔
    ∃ r ∈ g.relationships, r.kind = .contains ∧ r.target = child ∧ r.source = parent :=
  ⟨fun ⟨r, hr, hs⟩ => ⟨r, hr.mem, hr.kind_eq, hr.target_eq, hs⟩, fun ⟨r, hr, hk, ht, hs⟩ => ⟨r, ⟨hr, hk, ht⟩, hs⟩⟩

theorem hasEntity_of_heldBy {g : Graph} (hg : Valid g) {child parent : String} (h : g.HeldBy child parent) :
    g.hasEntity child = true := by
  obtain ⟨r, hr, -⟩ := h
  exact hr.target_eq ▸ hg.target_known r hr.mem

end Graph

namespace GraphIndex

open CodeAtlas.Graph

variable {g : Graph} {ix : GraphIndex} {start id child : String} {visited stack : List String} {found : List Entity}

/-! ## Children -/

/-- An entity's children are what it contains. -/
theorem mem_contained_iff (hg : Valid ix.graph) : child ∈ ix.contained id ↔ ix.graph.HeldBy child id := by
  rw [contained, mem_neighbors_iff hg, heldBy_iff]
  refine exists_congr fun r => ?_
  simp [and_comm]

/-! ## One turn -/

/-- What a turn brings in are the children not visited yet, each once. -/
theorem foldl_meet_eq (hg : Valid g) (children : List String) (hknown : ∀ c ∈ children, g.hasEntity c = true) :
    ∀ (visited stack : List String) (found : List Entity), ∃ new : List Entity,
      (∀ e ∈ new, e ∈ g.entities ∧ e.id ∈ children ∧ e.id ∉ visited) ∧ (new.map Entity.id).Nodup ∧
      (∀ c ∈ children, c ∈ visited ∨ c ∈ new.map Entity.id) ∧
      children.foldl (meet g) (visited, stack, found) =
        ((new.map Entity.id).reverse ++ visited, (new.map Entity.id).reverse ++ stack, found ++ new) := by
  induction children with
  | nil => exact fun visited stack found => ⟨[], by simp, by simp, by simp, by simp⟩
  | cons c rest ih =>
      intro visited stack found
      have hrest : ∀ c ∈ rest, g.hasEntity c = true := fun c hc => hknown c (List.mem_cons_of_mem _ hc)
      by_cases hc : c ∈ visited
      · obtain ⟨new, hnew, hnodup, hall, hfold⟩ := ih hrest visited stack found
        refine ⟨new, fun e he => ?_, hnodup, fun d hd => ?_, ?_⟩
        · exact ⟨(hnew e he).1, List.mem_cons_of_mem _ (hnew e he).2.1, (hnew e he).2.2⟩
        · rcases List.mem_cons.1 hd with rfl | hd
          exacts [.inl hc, hall d hd]
        · rw [List.foldl_cons, meet, if_pos hc]
          exact hfold
      · obtain ⟨e, he, rfl⟩ := (hg.hasEntity_iff c).1 (hknown c (List.mem_cons_self ..))
        obtain ⟨new, hnew, hnodup, hall, hfold⟩ := ih hrest (e.id :: visited) (e.id :: stack) (found ++ [e])
        refine ⟨e :: new, fun e' he' => ?_, ?_, fun d hd => ?_, ?_⟩
        · rcases List.mem_cons.1 he' with rfl | he'
          · exact ⟨he, List.mem_cons_self .., hc⟩
          · obtain ⟨hmem, hchild, hunseen⟩ := hnew e' he'
            exact ⟨hmem, List.mem_cons_of_mem _ hchild, fun h => hunseen (List.mem_cons_of_mem _ h)⟩
        · refine List.nodup_cons.2 ⟨fun hmem => ?_, hnodup⟩
          obtain ⟨e', he', hid⟩ := List.mem_map.1 hmem
          exact (hnew e' he').2.2 (hid ▸ List.mem_cons_self ..)
        · rcases List.mem_cons.1 hd with rfl | hd
          · exact .inr (List.mem_cons_self ..)
          · rcases hall d hd with hd | hd
            · rcases List.mem_cons.1 hd with rfl | hd
              exacts [.inr (List.mem_cons_self ..), .inl hd]
            · exact .inr (List.mem_cons_of_mem _ hd)
        · have hentity : g.entity? e.id = some e := (hg.entity?_eq_some_iff _ _).2 ⟨he, rfl⟩
          rw [List.foldl_cons, meet, if_neg hc, hentity]
          simpa using hfold

/-- Between two turns of a walk: what was visited, what is still to be followed and what was found. -/
structure Walked (g : Graph) (start : String) (visited stack : List String) (found : List Entity) : Prop where
  visited_eq : visited = (found.map Entity.id).reverse ++ [start]
  nodup : visited.Nodup
  known : ∀ e ∈ found, e ∈ g.entities
  stacked : ∀ id ∈ stack, id ∈ visited
  climbs : ∀ id ∈ visited, g.Climbs id start
  closed : ∀ id ∈ visited, id ∉ stack → ∀ child, g.HeldBy child id → child ∈ visited

namespace Walked

theorem initial (g : Graph) (start : String) : Walked g start [start] [start] [] where
  visited_eq := rfl
  nodup := List.nodup_singleton _
  known := by simp
  stacked _ hid := hid
  climbs id hid := List.mem_singleton.1 hid ▸ .refl
  closed _ hid hnot := absurd hid hnot

/-- No id is visited twice, so there are no more of them than entities. -/
theorem length_visited_le (hg : Valid g) (hstart : g.hasEntity start = true)
    (h : Walked g start visited stack found) : visited.length ≤ g.entities.length := by
  obtain ⟨first, hfirst, rfl⟩ := (hg.hasEntity_iff start).1 hstart
  have hsub : visited ⊆ g.entities.map Entity.id := fun id hid => by
    rw [h.visited_eq, List.mem_append, List.mem_reverse, List.mem_singleton] at hid
    rcases hid with hid | rfl
    · obtain ⟨e, he, rfl⟩ := List.mem_map.1 hid
      exact List.mem_map_of_mem (h.known e he)
    · exact List.mem_map_of_mem hfirst
  have hlength := (h.nodup.subperm hsub).length_le
  rwa [List.length_map] at hlength

/-- A turn takes an id off the stack and brings its new children in. -/
theorem turn (hg : Valid ix.graph) (h : Walked ix.graph start visited (id :: stack) found) : ∃ new : List Entity,
    (ix.contained id).foldl (meet ix.graph) (visited, stack, found) =
      ((new.map Entity.id).reverse ++ visited, (new.map Entity.id).reverse ++ stack, found ++ new) ∧
    Walked ix.graph start ((new.map Entity.id).reverse ++ visited) ((new.map Entity.id).reverse ++ stack)
      (found ++ new) := by
  have hknown : ∀ c ∈ ix.contained id, ix.graph.hasEntity c = true := fun c hc =>
    hasEntity_of_heldBy hg ((mem_contained_iff hg).1 hc)
  obtain ⟨new, hnew, hnodup, hall, hfold⟩ := foldl_meet_eq hg _ hknown visited stack found
  have hid : id ∈ visited := h.stacked id (List.mem_cons_self ..)
  refine ⟨new, hfold, ?_, ?_, ?_, ?_, ?_, ?_⟩
  · rw [h.visited_eq, List.map_append, List.reverse_append, List.append_assoc]
  · refine (List.nodup_reverse.2 hnodup).append h.nodup fun c hc hcv => ?_
    obtain ⟨e, he, rfl⟩ := List.mem_map.1 (List.mem_reverse.1 hc)
    exact (hnew e he).2.2 hcv
  · intro e he
    rcases List.mem_append.1 he with he | he
    exacts [h.known e he, (hnew e he).1]
  · intro c hc
    rcases List.mem_append.1 hc with hc | hc
    · exact List.mem_append_left _ hc
    · exact List.mem_append_right _ (h.stacked c (List.mem_cons_of_mem _ hc))
  · intro c hc
    rcases List.mem_append.1 hc with hc | hc
    · obtain ⟨e, he, rfl⟩ := List.mem_map.1 (List.mem_reverse.1 hc)
      exact .head ((mem_contained_iff hg).1 (hnew e he).2.1) (h.climbs id hid)
    · exact h.climbs c hc
  · intro c hc hnot child hchild
    rw [List.mem_append, not_or] at hnot
    have hcv : c ∈ visited := (List.mem_append.1 hc).resolve_left hnot.1
    by_cases hcid : c = id
    · -- the id whose turn it was
      subst hcid
      rw [List.mem_append, List.mem_reverse]
      exact (hall child ((mem_contained_iff hg).2 hchild)).symm
    · refine List.mem_append_right _ (h.closed c hcv (fun hmem => ?_) child hchild)
      exact (List.mem_cons.1 hmem).elim hcid hnot.2

/-- With nothing left on the stack, what was found is what the way up leads from to the start. -/
theorem mem_found_iff (hg : Valid g) (h : Walked g start visited [] found) (e : Entity) :
    e ∈ found ↔ e ∈ g.entities ∧ e.id ≠ start ∧ Relation.TransGen g.HeldBy e.id start := by
  have hnodup := h.nodup
  rw [h.visited_eq, List.nodup_append] at hnodup
  have hmem (id : String) : id ∈ visited ↔ id ∈ found.map Entity.id ∨ id = start := by
    rw [h.visited_eq, List.mem_append, List.mem_reverse, List.mem_singleton]
  constructor
  · intro he
    have hid : e.id ∈ found.map Entity.id := List.mem_map_of_mem he
    have hne : e.id ≠ start := hnodup.2.2 _ (List.mem_reverse.2 hid) _ (List.mem_singleton.2 rfl)
    refine ⟨h.known e he, hne, ?_⟩
    exact (Relation.reflTransGen_iff_eq_or_transGen.1 (h.climbs e.id ((hmem _).2 (.inl hid)))).resolve_left hne.symm
  · rintro ⟨he, hne, hbelow⟩
    have hvisited : e.id ∈ visited := by
      refine Relation.TransGen.head_induction_on (motive := fun id _ => id ∈ visited) hbelow ?_ ?_
      · intro child hchild
        exact h.closed start ((hmem _).2 (.inr rfl)) (by simp) child hchild
      · intro child parent hchild _ hparent
        exact h.closed parent hparent (by simp) child hchild
    obtain ⟨e', he', hid⟩ := List.mem_map.1 (((hmem _).1 hvisited).resolve_right hne)
    rwa [← hg.entity_ext (h.known e' he') he hid]

end Walked

/-! ## The whole walk -/

/-- The walk goes on for so many turns, until nothing is left on the stack, and has then found these entities. -/
inductive Finds (ix : GraphIndex) : Nat → List String → List String → List Entity → List Entity → Prop
  | done {visited : List String} {found : List Entity} : Finds ix 0 visited [] found found
  | turn {n : Nat} {id : String} {visited visited' stack stack' : List String} {found found' result : List Entity}
      (hturn : (ix.contained id).foldl (meet ix.graph) (visited, stack, found) = (visited', stack', found'))
      (h : Finds ix n visited' stack' found' result) : Finds ix (n + 1) visited (id :: stack) found result

theorem collect_eq_of_finds {n fuel : Nat} {result : List Entity} (h : Finds ix n visited stack found result)
    (hn : n ≤ fuel) : ix.collect fuel visited stack found = result := by
  induction h generalizing fuel with
  | done => cases fuel <;> rfl
  | turn hturn _ ih =>
      obtain ⟨fuel, rfl⟩ : ∃ m, fuel = m + 1 := ⟨fuel - 1, by omega⟩
      rw [collect, hturn]
      exact ih (by omega)

/-- A walk has at most as many turns as ids are on the stack or not visited yet. -/
theorem Walked.exists_finds (hg : Valid ix.graph) (hstart : ix.graph.hasEntity start = true) (m : Nat) :
    ∀ {visited stack : List String} {found : List Entity}, Walked ix.graph start visited stack found →
      stack.length + ix.graph.entities.length ≤ m + visited.length →
      ∃ n ≤ m, ∃ visited' result, Finds ix n visited stack found result ∧
        Walked ix.graph start visited' [] result := by
  induction m with
  | zero =>
      intro visited stack found h hm
      have hlength := h.length_visited_le hg hstart
      obtain rfl : stack = [] := List.length_eq_zero_iff.1 (by omega)
      exact ⟨0, Nat.le_refl _, visited, found, .done, h⟩
  | succ m ih =>
      intro visited stack found h hm
      cases stack with
      | nil => exact ⟨0, Nat.zero_le _, visited, found, .done, h⟩
      | cons id stack =>
          obtain ⟨new, hturn, hwalked⟩ := h.turn hg
          obtain ⟨n, hn, visited', result, hfinds, hend⟩ := ih hwalked (by
            simp only [List.length_append, List.length_reverse, List.length_map, List.length_cons] at hm ⊢
            omega)
          exact ⟨n + 1, Nat.succ_le_succ hn, visited', result, .turn hturn hfinds, hend⟩

/-! ## Entities in a file -/

theorem lineLe_iff (a b : Entity) :
    lineLe a b = true ↔ a.startLine < b.startLine ∨ a.startLine = b.startLine ∧ Text.atMost a.id b.id = true := by
  unfold lineLe
  by_cases hline : a.startLine = b.startLine <;> simp [hline]

/-- At the path of a file the walk from the file is listed. -/
theorem entitiesInFile_eq {file : Entity} {path : String} {n : Nat} (hg : Valid ix.graph)
    (hfile : file ∈ ix.graph.entities) (hkind : file.kind = .file) (hid : file.id ≠ "")
    (hpath : ix.byPath path = some file.id) (hn : n ≤ ix.graph.entities.length)
    (h : Finds ix n [file.id] [file.id] [] found) :
    ix.entitiesInFile path = (found.mergeSort lineLe).map Entity.id := by
  have hentity : ix.graph.entity? file.id = some file := (hg.entity?_eq_some_iff _ _).2 ⟨hfile, rfl⟩
  have hsize : ix.graph.entities.length = ix.graph.entityMap.size := List.length_map _
  simp only [entitiesInFile, hpath, hentity, Option.map_some, hkind]
  rw [if_pos ⟨hid, trivial⟩, collect_eq_of_finds h (by omega)]

theorem entitiesInFile_eq_nil {path : String} (hg : Valid ix.graph)
    (hnone : ∀ file ∈ ix.graph.entities, file.kind = .file → ix.byPath path ≠ some file.id) :
    ix.entitiesInFile path = [] := by
  unfold entitiesInFile
  cases hpath : ix.byPath path with
  | none => rfl
  | some id =>
      refine if_neg fun hfile => ?_
      obtain ⟨file, hentity, hkind⟩ := Option.map_eq_some_iff.1 hfile.2
      obtain ⟨hmem, rfl⟩ := (hg.entity?_eq_some_iff _ _).1 hentity
      exact hnone file hmem hkind hpath

/-- **The entities in a file are all that is below it.** On the graph of any changes, frozen or not: at the path of a
    file the walk comes to an end, after no more turns than there are entities, and the answer lists, by line and then
    by id, what it found: each entity other than the file from which the way up along containments leads to the file,
    once. At a path that is not that of a file the answer is empty. -/
theorem entitiesInFile_lists_below {changes : List Change} {reached : Graph} (hrun : run changes = .ok reached)
    {ix : GraphIndex} (hix : ix.graph = reached ∨ ix.graph = reached.freeze)
    (hids : ∀ e ∈ reached.entities, e.id ≠ "") (path : String) :
    (∀ file ∈ reached.entities, file.kind = .file → ix.byPath path = some file.id →
      ∃ listed : List Entity, ix.entitiesInFile path = listed.map Entity.id ∧
        (∃ turns ≤ reached.entities.length, ∃ found, Finds ix turns [file.id] [file.id] [] found ∧
          found.Perm listed) ∧
        (listed.map Entity.id).Nodup ∧
        listed.Pairwise (fun a b =>
          a.startLine < b.startLine ∨ a.startLine = b.startLine ∧ Text.before a.id b.id = true) ∧
        ∀ e, e ∈ listed ↔ e ∈ reached.entities ∧ e ≠ file ∧ Relation.TransGen reached.HeldBy e.id file.id) ∧
    ((∀ file ∈ reached.entities, file.kind = .file → ix.byPath path ≠ some file.id) →
      ix.entitiesInFile path = []) := by
  obtain ⟨hg, hents, hrels⟩ := valid_of_run_freeze hrun hix
  have hheld : ix.graph.HeldBy = reached.HeldBy := by
    funext child parent
    rw [heldBy_iff, heldBy_iff, hrels]
  rw [← hents, ← hheld]
  rw [← hents] at hids
  refine ⟨fun file hfile hkind hpath => ?_, entitiesInFile_eq_nil hg⟩
  obtain ⟨turns, hturns, visited, found, hfinds, hend⟩ :=
    Walked.exists_finds hg ((hg.hasEntity_iff _).2 ⟨file, hfile, rfl⟩) ix.graph.entities.length
      (Walked.initial _ file.id) (by rw [Nat.add_comm])
  have hnodup := hend.nodup
  rw [hend.visited_eq, List.nodup_append, List.nodup_reverse] at hnodup
  have hperm := List.mergeSort_perm found lineLe
  refine ⟨found.mergeSort lineLe, entitiesInFile_eq hg hfile hkind (hids file hfile) hpath hturns hfinds,
    ⟨turns, hturns, found, hfinds, hperm.symm⟩, (hperm.map _).nodup_iff.2 hnodup.1,
    pairwise_mergeSort_key_then_id lineLe_iff hnodup.1, fun e => ?_⟩
  rw [hperm.mem_iff, hend.mem_found_iff hg]
  refine and_congr_right fun he => and_congr_left fun _ => not_congr ⟨fun hid => ?_, fun h => h ▸ rfl⟩
  exact hg.entity_ext he hfile hid

/-! ## A file that its own parts contain -/

/-- A piece of a file, named by its id. -/
def piece (kind : EntityKind) (path name : String) (line : Rat) : Change :=
  .addEntity ⟨name, kind, path, name, line, line, none, none, [], none⟩

/-- One piece contains another one. -/
def holding (parent child : String) : Change :=
  .addRelationship (Relationship.create parent .contains child)

/-- A class holds itself and a method; a function holds the method too, and that holds the file. Nothing holds the
    folder or the function of the other file. -/
def ringed : List Change :=
  [piece .directory "." "repo" 1, piece .file "m.x" "m" 1, piece .classDecl "m.x" "Node" 2,
    piece .methodDecl "m.x" "next" 3, piece .functionDecl "m.x" "walk" 7, piece .functionDecl "n.x" "lost" 1,
    holding "repo" "m", holding "m" "walk", holding "m" "Node", holding "Node" "next", holding "walk" "next",
    holding "Node" "Node", holding "next" "m"]

/-- What the changes lead to. -/
def ringedGraph : Graph := (run ringed).toOption.getD .empty

theorem run_ringed : run ringed = .ok ringedGraph := rfl

theorem entitiesInFile_ringed :
    (∃ listed : List Entity, (ofGraph ringedGraph.freeze).entitiesInFile "m.x" = listed.map Entity.id ∧
      (listed.map Entity.id).Nodup ∧ ∀ e ∈ ringedGraph.entities, e ∈ listed ↔ e.id ∈ ["Node", "next", "walk"]) ∧
    (ofGraph ringedGraph.freeze).entitiesInFile "." = [] := by
  have hpaths : (ofGraph ringedGraph.freeze).byPath "m.x" = some "m" ∧
      ∀ file ∈ ringedGraph.entities, file.kind = .file → (ofGraph ringedGraph.freeze).byPath "." ≠ some file.id := by
    rw [ofGraph_eq_foldl (by decide +kernel)]
    decide +kernel
  have hbelow := entitiesInFile_lists_below run_ringed (.inr (graph_ofGraph _)) (by decide +kernel)
  refine ⟨?_, (hbelow ".").2 hpaths.2⟩
  obtain ⟨file, hfile, hkind, hid⟩ : ∃ file ∈ ringedGraph.entities, file.kind = .file ∧ file.id = "m" := by
    decide +kernel
  obtain ⟨listed, hanswer, -, hnodup, -, hmem⟩ := (hbelow "m.x").1 file hfile hkind (hid ▸ hpaths.1)
  refine ⟨listed, hanswer, hnodup, fun e he => ?_⟩
  rw [hmem, and_iff_right he, hid]
  constructor
  · rintro ⟨hne, hbelow⟩
    have hnot : e.id ≠ "m" := fun h => hne ((valid_of_run run_ringed).1.entity_ext he hfile (h.trans hid.symm))
    obtain ⟨parent, hparent, -⟩ := Relation.TransGen.head'_iff.1 hbelow
    obtain ⟨r, hr, hk, ht, -⟩ := (heldBy_iff ..).1 hparent
    have hheld : ∀ r ∈ ringedGraph.relationships, r.kind = .contains → r.target ∈ ["m", "Node", "next", "walk"] := by
      decide +kernel
    exact (List.mem_cons.1 (ht ▸ hheld r hr hk)).resolve_left hnot
  · intro hlisted
    refine ⟨fun h => absurd (hid ▸ h ▸ hlisted) (by decide), ?_⟩
    have hnode : ringedGraph.HeldBy "Node" "m" := (heldBy_iff ..).2 (by decide +kernel)
    have hwalk : ringedGraph.HeldBy "walk" "m" := (heldBy_iff ..).2 (by decide +kernel)
    have hnext : ringedGraph.HeldBy "next" "Node" := (heldBy_iff ..).2 (by decide +kernel)
    simp only [List.mem_cons, List.not_mem_nil, or_false] at hlisted
    rcases hlisted with h | h | h <;> rw [h]
    exacts [.single hnode, .head hnext (.single hnode), .single hwalk]

end GraphIndex

end CodeAtlas
