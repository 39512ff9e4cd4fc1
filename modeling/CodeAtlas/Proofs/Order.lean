import CodeAtlas.Proofs.Ids
import Mathlib.Algebra.Order.Ring.Unbundled.Rat
import Mathlib.Data.List.Nodup

set_option autoImplicit false

/-! # Orders

Texts are totally ordered, and with them the ids of entities and relationships. Sorting by a total order
forgets the order in which the members of a list came, as long as the order tells them apart:
`mergeSort_eq_of_perm`. Source order and the order by id tell entities of different ids apart, so a list of
such entities is sorted the same way however it was put together. -/

namespace CodeAtlas

/-- Where the order tells the members of a list apart, its rearrangements are sorted alike. -/
theorem mergeSort_eq_of_perm {α : Type} {le : α → α → Bool} {l l' : List α}
    (trans : ∀ a b c, le a b = true → le b c = true → le a c = true)
    (total : ∀ a b, (le a b || le b a) = true)
    (antisymm : ∀ a ∈ l, ∀ b ∈ l, le a b = true → le b a = true → a = b) (hperm : l.Perm l') :
    l.mergeSort le = l'.mergeSort le := by
  have hsorted : (l.mergeSort le).Perm (l'.mergeSort le) :=
    (List.mergeSort_perm l le).trans (hperm.trans (List.mergeSort_perm l' le).symm)
  refine List.Perm.eq_of_pairwise (fun a b ha hb hab hba => ?_)
    (List.pairwise_mergeSort trans total l) (List.pairwise_mergeSort trans total l') hsorted
  have hb' : b ∈ l := hperm.mem_iff.2 ((List.mergeSort_perm l' le).mem_iff.1 hb)
  exact antisymm a ((List.mergeSort_perm l le).mem_iff.1 ha) b hb' hab hba

namespace Text

/-! ## Texts -/

theorem before_iff (a b : String) :
    before a b = true ↔ units a < units b ∨ (units a = units b ∧ a.toList < b.toList) := by
  simp only [before, Bool.or_eq_true, Bool.and_eq_true, beq_iff_eq, decide_eq_true_eq]

theorem before_irrefl (a : String) : before a a = false := by
  rw [← Bool.not_eq_true, before_iff]
  rintro (h | ⟨-, h⟩)
  · exact List.lt_irrefl _ h
  · exact List.lt_irrefl _ h

theorem before_trans {a b c : String} (hab : before a b = true) (hbc : before b c = true) :
    before a c = true := by
  rw [before_iff] at hab hbc ⊢
  rcases hab with hab | ⟨hab, hab'⟩ <;> rcases hbc with hbc | ⟨hbc, hbc'⟩
  · exact .inl (List.lt_trans hab hbc)
  · exact .inl (hbc ▸ hab)
  · exact .inl (hab ▸ hbc)
  · exact .inr ⟨hab.trans hbc, List.lt_trans hab' hbc'⟩

/-- Of two texts one comes first. -/
theorem before_or_before_of_ne {a b : String} (hne : a ≠ b) : before a b = true ∨ before b a = true := by
  rw [before_iff, before_iff]
  by_cases hab : units a < units b
  · exact .inl (.inl hab)
  by_cases hba : units b < units a
  · exact .inr (.inl hba)
  have hunits : units a = units b := List.le_antisymm hba hab
  by_cases hab' : a.toList < b.toList
  · exact .inl (.inr ⟨hunits, hab'⟩)
  by_cases hba' : b.toList < a.toList
  · exact .inr (.inr ⟨hunits.symm, hba'⟩)
  exact absurd (String.toList_inj.1 (List.le_antisymm hba' hab')) hne

theorem before_asymm {a b : String} (hab : before a b = true) : before b a = false := by
  rw [← Bool.not_eq_true]
  intro hba
  have haa := before_trans hab hba
  rw [before_irrefl] at haa
  exact absurd haa (by decide)

theorem atMost_iff (a b : String) : atMost a b = true ↔ a = b ∨ before a b = true := by
  rw [atMost, Bool.not_eq_true']
  constructor
  · intro hba
    by_cases heq : a = b
    · exact .inl heq
    · exact .inr ((before_or_before_of_ne heq).resolve_right (by simp [hba]))
  · rintro (rfl | hab)
    · exact before_irrefl a
    · exact before_asymm hab

theorem atMost_trans {a b c : String} (hab : atMost a b = true) (hbc : atMost b c = true) :
    atMost a c = true := by
  rw [atMost_iff] at hab hbc ⊢
  rcases hab with rfl | hab
  · exact hbc
  rcases hbc with rfl | hbc
  · exact .inr hab
  · exact .inr (before_trans hab hbc)

theorem atMost_total (a b : String) : (atMost a b || atMost b a) = true := by
  rw [Bool.or_eq_true, atMost_iff, atMost_iff]
  by_cases heq : a = b
  · exact .inl (.inl heq)
  · exact (before_or_before_of_ne heq).imp .inr .inr

theorem atMost_antisymm {a b : String} (hab : atMost a b = true) (hba : atMost b a = true) : a = b := by
  rw [atMost_iff] at hab hba
  rcases hab with rfl | hab
  · rfl
  rcases hba with rfl | hba
  · rfl
  · rw [before_asymm hab] at hba
    exact absurd hba (by decide)

/-- Sorting puts different texts into strict order. -/
theorem pairwise_sort {l : List String} (h : l.Nodup) : (sort l).Pairwise fun a b => before a b = true := by
  have hnodup : (sort l).Nodup := (List.mergeSort_perm l atMost).nodup_iff.2 h
  have hsorted := List.pairwise_mergeSort (fun a b c => atMost_trans (a := a) (b := b) (c := c)) atMost_total l
  exact hsorted.imp₂ (fun a b hab hne => ((atMost_iff a b).1 hab).resolve_left hne) hnodup

end Text

/-! ## By a key, then by id -/

section KeyThenId

variable {κ : Type} [LinearOrder κ] {x y z : κ} {i j k : String}

theorem key_then_id_trans (hxy : x < y ∨ x = y ∧ Text.atMost i j = true)
    (hyz : y < z ∨ y = z ∧ Text.atMost j k = true) : x < z ∨ x = z ∧ Text.atMost i k = true := by
  rcases hxy with hxy | ⟨rfl, hij⟩ <;> rcases hyz with hyz | ⟨rfl, hjk⟩
  · exact .inl (hxy.trans hyz)
  · exact .inl hxy
  · exact .inl hyz
  · exact .inr ⟨rfl, Text.atMost_trans hij hjk⟩

theorem key_then_id_total (x y : κ) (i j : String) :
    (x < y ∨ x = y ∧ Text.atMost i j = true) ∨ (y < x ∨ y = x ∧ Text.atMost j i = true) := by
  rcases lt_trichotomy x y with hlt | heq | hlt
  · exact .inl (.inl hlt)
  · have hid := Text.atMost_total i j
    rw [Bool.or_eq_true] at hid
    exact hid.imp (fun h => .inr ⟨heq, h⟩) fun h => .inr ⟨heq.symm, h⟩
  · exact .inr (.inl hlt)

theorem key_then_id_antisymm (hxy : x < y ∨ x = y ∧ Text.atMost i j = true)
    (hyx : y < x ∨ y = x ∧ Text.atMost j i = true) : i = j := by
  rcases hxy with hxy | ⟨rfl, hij⟩ <;> rcases hyx with hyx | ⟨heq, hji⟩
  · exact absurd hyx hxy.not_gt
  · exact absurd hxy heq.not_gt
  · exact absurd hyx (lt_irrefl _)
  · exact Text.atMost_antisymm hij hji

/-- Sorting by a key and then by id puts what has different ids into strict order. -/
theorem pairwise_mergeSort_key_then_id {α : Type} {key : α → κ} {id : α → String} {le : α → α → Bool}
    (hle : ∀ a b, le a b = true ↔ key a < key b ∨ key a = key b ∧ Text.atMost (id a) (id b) = true) {l : List α}
    (hids : (l.map id).Nodup) :
    (l.mergeSort le).Pairwise fun a b => key a < key b ∨ key a = key b ∧ Text.before (id a) (id b) = true := by
  have htrans : ∀ a b c, le a b = true → le b c = true → le a c = true := fun a b c hab hbc => by
    rw [hle] at hab hbc ⊢
    exact key_then_id_trans hab hbc
  have htotal : ∀ a b, (le a b || le b a) = true := fun a b => by
    rw [Bool.or_eq_true, hle, hle]
    exact key_then_id_total (key a) (key b) (id a) (id b)
  have hnodup : ((l.mergeSort le).map id).Nodup := ((List.mergeSort_perm l le).map id).nodup_iff.2 hids
  rw [List.nodup_iff_pairwise_ne, List.pairwise_map] at hnodup
  refine (List.pairwise_mergeSort htrans htotal l).imp₂ (fun a b hab hne => ?_) hnodup
  rw [hle, Text.atMost_iff] at hab
  exact hab.imp_right fun ⟨hkey, hid⟩ => ⟨hkey, hid.resolve_left hne⟩

end KeyThenId

/-! ## Kinds by name -/

/-- Kinds are in one order of their names, whatever order they came in. -/
theorem sortKinds_eq_of_perm {l l' : List RelationKind} (hperm : l.Perm l') :
    (l.mergeSort fun a b => Text.atMost a.name b.name) = l'.mergeSort fun a b => Text.atMost a.name b.name := by
  refine mergeSort_eq_of_perm (fun a b c => Text.atMost_trans) (fun a b => Text.atMost_total _ _) ?_ hperm
  intro a _ b _ hab hba
  exact RelationKind.name_inj (Text.atMost_antisymm hab hba)

/-! ## By id -/

section ById

variable {α : Type} {id : α → String} {l l' : List α}

/-- Where ids tell the members apart, sorting by id forgets the order they came in. -/
theorem mergeSort_id_eq_of_perm (hnodup : (l.map id).Nodup) (hperm : l.Perm l') :
    (l.mergeSort fun a b => Text.atMost (id a) (id b)) = l'.mergeSort fun a b => Text.atMost (id a) (id b) := by
  refine mergeSort_eq_of_perm (fun a b c => Text.atMost_trans) (fun a b => Text.atMost_total _ _) ?_ hperm
  intro a ha b hb hab hba
  exact List.inj_on_of_nodup_map hnodup ha hb (Text.atMost_antisymm hab hba)

end ById

theorem Entity.sortById_eq_of_perm {l l' : List Entity} (hnodup : (l.map Entity.id).Nodup)
    (hperm : l.Perm l') : Entity.sortById l = Entity.sortById l' :=
  mergeSort_id_eq_of_perm hnodup hperm

theorem Entity.sortById_perm (l : List Entity) : (Entity.sortById l).Perm l :=
  List.mergeSort_perm l _

theorem Relationship.sortById_eq_of_perm {l l' : List Relationship} (hnodup : (l.map Relationship.id).Nodup)
    (hperm : l.Perm l') : Relationship.sortById l = Relationship.sortById l' :=
  mergeSort_id_eq_of_perm hnodup hperm

theorem Relationship.sortById_perm (l : List Relationship) : (Relationship.sortById l).Perm l :=
  List.mergeSort_perm l _

/-! ## Source order -/

namespace Entity

theorem locationLe_iff (a b : Entity) :
    locationLe a b = true ↔ Text.before a.path b.path = true ∨ (a.path = b.path ∧
      (a.startLine < b.startLine ∨ a.startLine = b.startLine ∧ Text.atMost a.id b.id = true)) := by
  unfold locationLe
  by_cases hpath : a.path = b.path
  · by_cases hline : a.startLine = b.startLine
    · simp [hpath, hline, Text.before_irrefl]
    · simp [hpath, hline, Text.before_irrefl]
  · simp [hpath]

theorem locationLe_trans (a b c : Entity) (hab : locationLe a b = true) (hbc : locationLe b c = true) :
    locationLe a c = true := by
  rw [locationLe_iff] at hab hbc ⊢
  rcases hab with hab | ⟨hab, hab'⟩ <;> rcases hbc with hbc | ⟨hbc, hbc'⟩
  · exact .inl (Text.before_trans hab hbc)
  · exact .inl (hbc ▸ hab)
  · exact .inl (hab ▸ hbc)
  · exact .inr ⟨hab.trans hbc, key_then_id_trans hab' hbc'⟩

theorem locationLe_total (a b : Entity) : (locationLe a b || locationLe b a) = true := by
  rw [Bool.or_eq_true, locationLe_iff, locationLe_iff]
  by_cases hpath : a.path = b.path
  · exact (key_then_id_total a.startLine b.startLine a.id b.id).imp (fun h => .inr ⟨hpath, h⟩)
      fun h => .inr ⟨hpath.symm, h⟩
  · exact (Text.before_or_before_of_ne hpath).imp .inl .inl

/-- Source order tells entities of different ids apart. -/
theorem id_eq_of_locationLe {a b : Entity} (hab : locationLe a b = true) (hba : locationLe b a = true) :
    a.id = b.id := by
  rw [locationLe_iff] at hab hba
  rcases hab with hab | ⟨hpath, hab⟩
  · rcases hba with hba | ⟨hpath, -⟩
    · exact absurd (Text.before_asymm hab) (by simp [hba])
    · rw [hpath, Text.before_irrefl] at hab
      exact absurd hab (by decide)
  · rw [hpath, Text.before_irrefl] at hba
    rcases hba with hba | ⟨-, hba⟩
    · exact absurd hba (by decide)
    · exact key_then_id_antisymm hab hba

theorem sortByLocation_eq_of_perm {l l' : List Entity} (hnodup : (l.map Entity.id).Nodup)
    (hperm : l.Perm l') : sortByLocation l = sortByLocation l' := by
  refine mergeSort_eq_of_perm locationLe_trans locationLe_total ?_ hperm
  intro a ha b hb hab hba
  exact List.inj_on_of_nodup_map hnodup ha hb (id_eq_of_locationLe hab hba)

end Entity

end CodeAtlas
