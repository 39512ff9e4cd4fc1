import CodeAtlas.Proofs.Dict
import CodeAtlas.Reader

set_option autoImplicit false

/-! # What a check of an extraction keeps

Entities and relationships that come twice are told apart in opposite ways. Of the entities of one id the first one
without a defect is kept, where it stood, and one with a defect never stands in its way; of the relationships of one id
the last one is kept, in the place of the first. `validate_eq` says both at once, in terms of lists. So what was kept
has no defects, no repetitions and no loose ends, and is kept as it is when it is checked again (`validate_exact`). -/

namespace CodeAtlas.Reader

/-! ## Entities -/

/-- The first entity of each id among those without a defect. -/
def soundFirsts (entities : List Entity) : List Entity :=
  (entities.filter fun e => e.defect?.isNone).eraseDupsBy fun a b => a.id == b.id

theorem keepSound_eq (entities : List Entity) : keepSound entities =
    ((entities.filter fun e => e.defect?.isNone).foldl (fun d e => d.insertNew e.id e) .empty,
      entities.countP fun e => e.defect?.isSome) := by
  rw [keepSound]
  induction entities using List.reverseRecOn with
  | nil => rfl
  | append_singleton entities e ih =>
      rw [List.foldl_append, ih, List.foldl_cons, List.foldl_nil, List.filter_append, List.foldl_append,
        List.countP_append]
      cases he : e.defect? <;> simp [he]

theorem keyedBy_keepSound (entities : List Entity) : Dict.KeyedBy Entity.id (keepSound entities).1 := by
  rw [keepSound_eq]
  exact Dict.KeyedBy.empty.foldl_insertNew _

theorem values_keepSound (entities : List Entity) : (keepSound entities).1.values = soundFirsts entities := by
  rw [keepSound_eq]
  exact Dict.values_foldl_insertNew Dict.KeyedBy.empty _

theorem contains_keepSound (entities : List Entity) (id : String) :
    (keepSound entities).1.contains id = decide (∃ e ∈ soundFirsts entities, e.id = id) := by
  rw [Bool.eq_iff_iff, (keyedBy_keepSound entities).contains_iff, values_keepSound, decide_eq_true_iff]

theorem nodup_soundFirsts (entities : List Entity) : ((soundFirsts entities).map Entity.id).Nodup := by
  rw [← values_keepSound]
  exact (keyedBy_keepSound entities).nodup_values

theorem mem_of_mem_eraseDupsBy {α : Type} {r : α → α → Bool} {a : α} {l : List α} (h : a ∈ l.eraseDupsBy r) :
    a ∈ l := by
  -- what follows the head is filtered first, so this goes by the length and not by the list
  match l with
  | [] => exact h
  | x :: rest =>
      rw [List.eraseDupsBy_cons, List.mem_cons] at h
      rcases h with rfl | h
      · exact List.mem_cons_self ..
      · exact List.mem_cons_of_mem _ (List.mem_filter.1 (mem_of_mem_eraseDupsBy h)).1
termination_by l.length
decreasing_by exact Nat.lt_succ_of_le (List.length_filter_le ..)

theorem defect?_of_mem_soundFirsts {entities : List Entity} {e : Entity} (h : e ∈ soundFirsts entities) :
    e.defect? = none := by
  simpa using (List.mem_filter.1 (mem_of_mem_eraseDupsBy h)).2

/-- Sound entities of different ids are the first of their ids. -/
theorem soundFirsts_of_sound {entities : List Entity} (hsound : ∀ e ∈ entities, e.defect? = none)
    (hids : (entities.map Entity.id).Nodup) : soundFirsts entities = entities := by
  rw [soundFirsts, List.filter_eq_self.2 fun e he => by simp [hsound e he]]
  clear hsound
  induction entities with
  | nil => rfl
  | cons e rest ih =>
      rw [List.map_cons, List.nodup_cons] at hids
      have hothers : rest.filter (fun b => decide ((b.id == e.id) = false)) = rest :=
        List.filter_eq_self.2 fun b hb => by
          have hne : b.id ≠ e.id := fun h => hids.1 (h ▸ List.mem_map_of_mem hb)
          simpa using hne
      rw [List.eraseDupsBy_cons, hothers, ih hids.2]

theorem soundFirsts_soundFirsts (entities : List Entity) : soundFirsts (soundFirsts entities) = soundFirsts entities :=
  soundFirsts_of_sound (fun _ => defect?_of_mem_soundFirsts) (nodup_soundFirsts entities)

theorem countP_defective_soundFirsts (entities : List Entity) :
    ((soundFirsts entities).countP fun e => e.defect?.isSome) = 0 := by
  rw [List.countP_eq_zero]
  intro e he
  simp [defect?_of_mem_soundFirsts he]

/-! ## Relationships -/

/-- The relationships with both ends among the entities. -/
def joining (entities : List Entity) (relationships : List Relationship) : List Relationship :=
  relationships.filter fun r => (∃ e ∈ entities, e.id = r.source) ∧ ∃ e ∈ entities, e.id = r.target

/-- The last relationship of each id, in the place of the first. -/
def lasts (relationships : List Relationship) : List Relationship :=
  (Dict.ofList (relationships.map fun r => (r.id, r))).values

section Lasts

variable {relationships : List Relationship} {r : Relationship}

theorem nodup_lasts : ((lasts relationships).map Relationship.id).Nodup :=
  (Dict.KeyedBy.ofList relationships).nodup_values

theorem map_id_lasts : (lasts relationships).map Relationship.id = (relationships.map Relationship.id).eraseDups := by
  have hkeyed : Dict.KeyedBy Relationship.id (Dict.ofList (relationships.map fun r => (r.id, r))) :=
    Dict.KeyedBy.ofList relationships
  rw [lasts, ← hkeyed.keys_eq, Dict.keys_ofList, List.map_map]
  rfl

theorem mem_lasts_iff : r ∈ lasts relationships ↔ relationships.reverse.find? (·.id = r.id) = some r :=
  Dict.mem_values_ofList_iff

theorem mem_of_mem_lasts (h : r ∈ lasts relationships) : r ∈ relationships :=
  List.mem_reverse.1 (List.mem_of_find?_eq_some (mem_lasts_iff.1 h))

theorem exists_mem_lasts (h : r ∈ relationships) : ∃ r' ∈ lasts relationships, r'.id = r.id := by
  have hid : r.id ∈ (lasts relationships).map Relationship.id := by
    rw [map_id_lasts, List.mem_eraseDups]
    exact List.mem_map_of_mem h
  exact List.mem_map.1 hid

end Lasts

/-! ## The whole check -/

theorem validate_eq (entities : List Entity) (relationships : List Relationship) :
    validate entities relationships =
      { entities := soundFirsts entities
        relationships := lasts (joining (soundFirsts entities) relationships)
        errors := []
        dropped := entities.countP fun e => e.defect?.isSome } := by
  have hdropped : (keepSound entities).2 = entities.countP fun e => e.defect?.isSome := by rw [keepSound_eq]
  simp only [validate, values_keepSound, contains_keepSound, hdropped, joining, lasts, Bool.decide_and]

/-- What was kept is kept as it is. -/
theorem validate_validate (entities : List Entity) (relationships : List Relationship) :
    validate (validate entities relationships).entities (validate entities relationships).relationships =
      { validate entities relationships with dropped := 0 } := by
  have hjoined : joining (soundFirsts entities) (lasts (joining (soundFirsts entities) relationships)) =
      lasts (joining (soundFirsts entities) relationships) :=
    List.filter_eq_self.2 fun r hr => (List.mem_filter.1 (mem_of_mem_lasts hr)).2
  have hlasts : lasts (lasts (joining (soundFirsts entities) relationships)) =
      lasts (joining (soundFirsts entities) relationships) :=
    Dict.values_ofList_of_nodup nodup_lasts
  simp only [validate_eq, soundFirsts_soundFirsts, countP_defective_soundFirsts, hjoined, hlasts]

/-- **What a check keeps of an extraction, exactly.** Of the entities it keeps, in their order, the first of each id
    among those without a defect, and the defective ones are counted. Of the relationships with both ends among the kept
    entities it keeps the last of each id, in the place of the first; so their ids are distinct, no end is loose, and
    every relationship with both ends is there by its id. Checked again, what was kept is kept as it is. -/
theorem validate_exact (entities : List Entity) (relationships : List Relationship) :
    let out := validate entities relationships
    let joined := joining out.entities relationships
    out.entities = ((entities.filter fun e => e.defect?.isNone).eraseDupsBy fun a b => a.id == b.id) ∧
    out.dropped = (entities.countP fun e => e.defect?.isSome) ∧
    out.errors = [] ∧
    (out.relationships.map Relationship.id).Nodup ∧
    out.relationships.map Relationship.id = (joined.map Relationship.id).eraseDups ∧
    (∀ r ∈ out.relationships, r ∈ joined ∧ joined.reverse.find? (·.id = r.id) = some r) ∧
    (∀ r ∈ joined, ∃ r' ∈ out.relationships, r'.id = r.id) ∧
    validate out.entities out.relationships = { out with dropped := 0 } := by
  have hagain := validate_validate entities relationships
  simp only [validate_eq entities relationships] at hagain ⊢
  exact ⟨rfl, trivial, trivial, nodup_lasts, map_id_lasts, fun r hr => ⟨mem_of_mem_lasts hr, mem_lasts_iff.1 hr⟩,
    fun r hr => exists_mem_lasts hr, hagain⟩

end CodeAtlas.Reader
