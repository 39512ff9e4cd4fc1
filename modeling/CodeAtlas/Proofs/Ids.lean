import CodeAtlas.Entity
import CodeAtlas.Proofs.Number

set_option autoImplicit false

/-! # What ids tell

The id of a relationship is put together from its source, its kind and its target. Which of them it tells
depends on what ids of entities look like: the kind and the target where the source is known, the source too
where ids of entities have no blank, and the kind of the source where ids of entities begin with their kinds.

What is put together without marking where the parts end can be taken apart in several ways. `entityId_eq_iff` and
`relationshipId_eq_iff` say in which. -/

namespace CodeAtlas

theorem RelationKind.name_inj {k k' : RelationKind} (h : k.name = k'.name) : k = k' := by
  have hofName : ∀ k : RelationKind, RelationKind.ofName? k.name = some k := fun k => by cases k <;> rfl
  exact Option.some.inj (by rw [← hofName k, h, hofName])

/-- Among the relationships that leave one entity, the id tells the kind and the target. -/
theorem relationshipId_inj {s t t' : String} {k k' : RelationKind}
    (h : relationshipId s k.name t = relationshipId s k'.name t') : k = k' ∧ t = t' := by
  -- a dash ends the name of the kind
  have hstop : ∀ (k : RelationKind) (l : List Char),
      (k.name.toList ++ ("-> ".toList ++ l)).takeWhile (· ≠ '-') = k.name.toList := fun k l => by
    cases k <;> simp [RelationKind.name]
  have hlist := congrArg String.toList h
  simp only [relationshipId, String.toList_append, List.append_assoc, List.append_cancel_left_eq] at hlist
  have hname := congrArg (List.takeWhile (· ≠ '-')) hlist
  rw [hstop, hstop, String.toList_inj] at hname
  rw [hname, List.append_cancel_left_eq, List.append_cancel_left_eq, String.toList_inj] at hlist
  exact ⟨RelationKind.name_inj hname, hlist⟩

/-- Before the first blank of its id, a relationship names its source. -/
theorem source_of_blankless {s t s' t' : String} {k k' : RelationKind} (hs : ' ' ∉ s.toList) (hs' : ' ' ∉ s'.toList)
    (h : relationshipId s k.name t = relationshipId s' k'.name t') : s = s' := by
  have hstop : ∀ (l l' : List Char), ' ' ∉ l → (l ++ (" -".toList ++ l')).takeWhile (· ≠ ' ') = l := fun l l' hl => by
    have hall : ∀ c ∈ l, decide (c ≠ ' ') = true := fun c hc => decide_eq_true fun he => hl (he ▸ hc)
    rw [List.takeWhile_append_of_pos hall]
    simp
  have hlist := congrArg (fun id : String => id.toList.takeWhile (· ≠ ' ')) h
  simp only [relationshipId, String.toList_append, List.append_assoc] at hlist
  rw [hstop _ _ hs, hstop _ _ hs', String.toList_inj] at hlist
  exact hlist

/-! ## Kinds of entities -/

theorem EntityKind.name_inj {k k' : EntityKind} (h : k.name = k'.name) : k = k' := by
  have hofName : ∀ k : EntityKind, EntityKind.ofName? k.name = some k := fun k => by cases k <;> rfl
  exact Option.some.inj (by rw [← hofName k, h, hofName])

/-- Does an entity have the id that its kind, path, name and first line give? -/
def Entity.Formed (e : Entity) : Prop :=
  e.id = entityId e.kind e.path e.name e.startLine

instance : DecidablePred Entity.Formed := fun e =>
  inferInstanceAs (Decidable (e.id = entityId e.kind e.path e.name e.startLine))

/-- Before the first colon, such an id names the kind, whatever follows it. -/
theorem Entity.Formed.takeWhile_eq {e : Entity} (h : e.Formed) (l : List Char) :
    (e.id.toList ++ l).takeWhile (· ≠ ':') = e.kind.name.toList := by
  rw [h]
  simp only [entityId, String.toList_append, List.append_assoc]
  cases e.kind <;> simp [EntityKind.name]

theorem Entity.Formed.kind_eq {a b : Entity} (ha : a.Formed) (hb : b.Formed) (h : a.id = b.id) : a.kind = b.kind := by
  have hlist := ha.takeWhile_eq []
  rw [h, hb.takeWhile_eq, String.toList_inj] at hlist
  exact EntityKind.name_inj hlist.symm

/-- The id of a relationship tells the kind of its source. -/
theorem Entity.Formed.kind_eq_of_link {a b : Entity} (ha : a.Formed) (hb : b.Formed) {k k' : RelationKind}
    {t t' : String} (h : relationshipId a.id k.name t = relationshipId b.id k'.name t') : a.kind = b.kind := by
  have hlist := congrArg (fun id : String => id.toList.takeWhile (· ≠ ':')) h
  simp only [relationshipId, String.toList_append, List.append_assoc] at hlist
  rw [ha.takeWhile_eq, hb.takeWhile_eq, String.toList_inj] at hlist
  exact EntityKind.name_inj hlist

/-! ## What the id of an entity leaves open -/

/-- The last colon of a text parts it. -/
theorem append_colon_inj {l l' t t' : List Char} (ht : ':' ∉ t) (ht' : ':' ∉ t')
    (h : l ++ ':' :: t = l' ++ ':' :: t') : l = l' ∧ t = t' := by
  rcases List.append_eq_append_iff.1 h with ⟨w, hw, hrest⟩ | ⟨w, hw, hrest⟩
  · cases w with
    | nil => simp_all
    | cons c w => exact absurd ((List.cons.inj hrest).2 ▸ by simp) ht
  · cases w with
    | nil => simp_all
    | cons c w => exact absurd ((List.cons.inj hrest).2 ▸ by simp) ht'

/-- An id tells the kind and the line, but not where the path ends and the name begins. -/
theorem entityId_eq_iff (k k' : EntityKind) (p p' n n' : String) (l l' : Rat) :
    entityId k p n l = entityId k' p' n' l' ↔
      k = k' ∧ p ++ ":" ++ n = p' ++ ":" ++ n' ∧ Number.text l = Number.text l' := by
  have hid (k : EntityKind) (p n : String) (l : Rat) :
      entityId k p n l = k.name ++ ":" ++ ((p ++ ":" ++ n) ++ ":" ++ Number.text l) := by
    simp only [entityId, String.append_assoc]
  constructor
  · intro h
    obtain rfl : k = k' := Entity.Formed.kind_eq (a := Entity.create ⟨k, p, n, l, l, none, none, []⟩)
      (b := Entity.create ⟨k', p', n', l', l', none, none, []⟩) rfl rfl h
    rw [hid, hid, String.append_right_inj] at h
    have hlist : (p ++ ":" ++ n).toList ++ ':' :: (Number.text l).toList
        = (p' ++ ":" ++ n').toList ++ ':' :: (Number.text l').toList := by
      simpa [String.toList_append] using congrArg String.toList h
    obtain ⟨hplace, hline⟩ := append_colon_inj (Number.colon_notMem_text l) (Number.colon_notMem_text l') hlist
    exact ⟨rfl, String.toList_inj.1 hplace, String.toList_inj.1 hline⟩
  · rintro ⟨rfl, hplace, hline⟩
    rw [hid, hid, hplace, hline]

/-! ## What the id of a relationship leaves open -/

/-- Is the text the id of an entity? -/
def IsEntityId (id : String) : Prop := ∃ kind path name line, id = entityId kind path name line

theorem IsEntityId.no_dash {id : String} (h : IsEntityId id) (l : List Char) : id.toList ≠ '-' :: l := by
  obtain ⟨kind, path, name, line, rfl⟩ := h
  cases kind <;> simp [entityId, EntityKind.name]

/-- What stands between the source and the target. -/
def RelationKind.arrow (k : RelationKind) : List Char := ("-" ++ k.name ++ "->").toList

theorem toList_relationshipId (s t : String) (k : RelationKind) :
    (relationshipId s k.name t).toList = s.toList ++ ' ' :: (k.arrow ++ ' ' :: t.toList) := by
  simp [relationshipId, RelationKind.arrow]

theorem RelationKind.blank_notMem_arrow (k : RelationKind) : ' ' ∉ k.arrow := by
  cases k <;> decide

/-- Where the longer of two sources goes on, the shorter one's id does, by an arrow or all of it. -/
theorem arrow_append_cases {k k' : RelationKind} {t t' w : List Char} (ht : ∀ l, t ≠ '-' :: l)
    (h : ' ' :: (k.arrow ++ ' ' :: t) = w ++ ' ' :: (k'.arrow ++ ' ' :: t')) :
    w = [] ∨ ∃ u, w = ' ' :: (k.arrow ++ ' ' :: u) ∧ t = u ++ ' ' :: (k'.arrow ++ ' ' :: t') := by
  have hdash : t ≠ k'.arrow ++ ' ' :: t' := by
    have harrow : k'.arrow = '-' :: (k'.name ++ "->").toList := by simp [RelationKind.arrow]
    rw [harrow]
    exact ht _
  cases w with
  | nil => exact .inl rfl
  | cons c w =>
      rw [List.cons_append, List.cons.injEq] at h
      obtain ⟨rfl, h⟩ := h
      right
      rcases List.append_eq_append_iff.1 h with ⟨v, rfl, hv⟩ | ⟨v, harrow, hv⟩
      · cases v with
        | nil => exact absurd (List.cons.inj hv).2 hdash
        | cons c v =>
            -- the source goes on past the arrow
            rw [List.cons_append, List.cons.injEq] at hv
            obtain ⟨rfl, rfl⟩ := hv
            exact ⟨v, rfl, rfl⟩
      · cases v with
        | nil => exact absurd (List.cons.inj hv).2.symm hdash
        | cons c v =>
            -- it would end at a blank inside the arrow
            rw [List.cons_append, List.cons.injEq] at hv
            obtain ⟨rfl, -⟩ := hv
            exact absurd (by simp [harrow]) k.blank_notMem_arrow

/-- An id tells the source, the kind and the target, unless one source is itself the id of a relationship that
    leaves the other. -/
theorem relationshipId_eq_iff {s t s' t' : String} (ht : IsEntityId t) (ht' : IsEntityId t') (k k' : RelationKind) :
    relationshipId s k.name t = relationshipId s' k'.name t' ↔
      (s = s' ∧ k = k' ∧ t = t') ∨
      (∃ u, s' = relationshipId s k.name u ∧ t = relationshipId u k'.name t') ∨
      (∃ u, s = relationshipId s' k'.name u ∧ t' = relationshipId u k.name t) := by
  constructor
  · intro h
    have hlist := congrArg String.toList h
    rw [toList_relationshipId, toList_relationshipId] at hlist
    rcases List.append_eq_append_iff.1 hlist with ⟨w, hs, hrest⟩ | ⟨w, hs, hrest⟩
    · rcases arrow_append_cases ht.no_dash hrest with rfl | ⟨u, rfl, htarget⟩
      · obtain rfl : s = s' := by rw [← String.toList_inj, hs, List.append_nil]
        exact .inl ⟨rfl, relationshipId_inj h⟩
      · refine .inr (.inl ⟨String.ofList u, ?_, ?_⟩) <;> rw [← String.toList_inj, toList_relationshipId] <;>
          simpa using ‹_›
    · rcases arrow_append_cases ht'.no_dash hrest with rfl | ⟨u, rfl, htarget⟩
      · obtain rfl : s = s' := by rw [← String.toList_inj, hs, List.append_nil]
        exact .inl ⟨rfl, relationshipId_inj h⟩
      · refine .inr (.inr ⟨String.ofList u, ?_, ?_⟩) <;> rw [← String.toList_inj, toList_relationshipId] <;>
          simpa using ‹_›
  · rintro (⟨rfl, rfl, rfl⟩ | ⟨u, rfl, rfl⟩ | ⟨u, rfl, rfl⟩)
    · rfl
    · simp only [relationshipId, String.append_assoc]
    · simp only [relationshipId, String.append_assoc]

end CodeAtlas
