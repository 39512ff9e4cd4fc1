import CodeAtlas.Config
import CodeAtlas.Proofs.Json.RoundTrip

set_option autoImplicit false

/-! # Layers of a configuration

What laying a plain layer over members does, name by name (`lookup_laid`). A layer is plain (`isPlainLayer`) if no
member in it says what an object inherits; plain layers merge to an object in which nothing is inherited
(`mergeLayers_flat`). -/

namespace CodeAtlas.Config

/-! ## Layers without inheritance -/

mutual

/-- Does no object of the value have two members of one name, which no text gives, or one that says what is
    inherited? -/
def isPlain : Json → Bool
  | .object ms => isPlainLayer ms
  | _ => true

/-- The same of the members of an object. -/
def isPlainLayer : Layer → Bool
  | [] => true
  | (name, v) :: rest => name ≠ inheritName ∧ name ∉ rest.map (·.1) ∧ isPlain v ∧ isPlainLayer rest

end

theorem isPlainLayer_cons {name : String} {v : Json} {rest : Layer} : isPlainLayer ((name, v) :: rest) = true ↔
    name ≠ inheritName ∧ name ∉ rest.map (·.1) ∧ isPlain v = true ∧ isPlainLayer rest = true := by
  rw [isPlainLayer, decide_eq_true_iff]

theorem isPlain_of_mem {m : String × Json} {o : Layer} (ho : isPlainLayer o = true) (h : m ∈ o) :
    isPlain m.2 = true := by
  induction o with
  | nil => cases h
  | cons first rest ih =>
      obtain ⟨-, -, hfirst, hrest⟩ := isPlainLayer_cons.1 ho
      rcases List.mem_cons.1 h with rfl | h
      exacts [hfirst, ih hrest h]

/-- No object in it inherits anything. -/
inductive Merged.Flat : Merged → Prop
  | value (v : Json) : Flat (.value v)
  | object {own : List (String × Merged)} (h : ∀ m ∈ own, Flat m.2) : Flat (.object own [])

/-! ## Members -/

/-- The members of a layer as merged ones. -/
def raw (ms : Layer) : List (String × Merged) := ms.map fun m => (m.1, .value m.2)

/-- The own members after a layer is laid over them. -/
def laid (own : List (String × Merged)) (o : Layer) : List (String × Merged) := (overlayMembers own [] o).1

section Lookup

variable {α β : Type}

theorem lookup_cons_eq_ite (name n : String) (v : α) (rest : List (String × α)) :
    List.lookup name ((n, v) :: rest) = if name = n then some v else rest.lookup name := by
  rw [List.lookup_cons]
  split <;> simp_all

theorem lookup_map (f : α → β) (name : String) (l : List (String × α)) :
    (l.map fun m => (m.1, f m.2)).lookup name = (l.lookup name).map f := by
  induction l with
  | nil => rfl
  | cons m rest ih =>
      rw [List.map_cons, lookup_cons_eq_ite, lookup_cons_eq_ite, ih]
      split <;> rfl

theorem lookup_of_notMem {name : String} {l : List (String × α)} (h : name ∉ l.map (·.1)) : l.lookup name = none := by
  refine List.lookup_eq_none_iff.2 fun m hm => ?_
  rw [bne_iff_ne]
  exact fun heq => h (heq ▸ List.mem_map_of_mem hm)

theorem mem_of_lookup {name : String} {v : α} {l : List (String × α)} (h : l.lookup name = some v) : (name, v) ∈ l := by
  obtain ⟨before, after, rfl, -⟩ := List.lookup_eq_some_iff.1 h
  exact List.mem_append_right _ (List.mem_cons_self ..)

theorem mem_of_mem_setMember {name : String} {v : α} {m : String × α} {ms : List (String × α)}
    (h : m ∈ Json.setMember name v ms) : m = (name, v) ∨ m ∈ ms := by
  induction ms with
  | nil => exact .inl (List.mem_singleton.1 h)
  | cons first rest ih =>
      rw [Json.setMember] at h
      split at h
      · next hn =>
          rcases List.mem_cons.1 h with rfl | h
          · exact .inl (by rw [hn])
          · exact .inr (List.mem_cons_of_mem _ h)
      · rcases List.mem_cons.1 h with rfl | h
        · exact .inr (List.mem_cons_self ..)
        · exact (ih h).imp_right (List.mem_cons_of_mem _)

theorem lookup_setMember (name name' : String) (v : α) (ms : List (String × α)) :
    (Json.setMember name v ms).lookup name' = if name' = name then some v else ms.lookup name' := by
  induction ms with
  | nil => rw [Json.setMember, lookup_cons_eq_ite]
  | cons m rest ih =>
      obtain ⟨n, w⟩ := m
      rw [Json.setMember]
      split
      · next hn => rw [lookup_cons_eq_ite, lookup_cons_eq_ite, hn]; split <;> rfl
      · next hn =>
          rw [lookup_cons_eq_ite, lookup_cons_eq_ite, ih]
          by_cases h : name' = n
          · rw [if_pos h, if_pos h, if_neg (h ▸ hn)]
          · rw [if_neg h, if_neg h]

end Lookup

theorem membersToJson_eq_map (l : List (String × Merged)) :
    Merged.membersToJson l = l.map fun m => (m.1, m.2.toJson) := by
  induction l with
  | nil => rfl
  | cons m rest ih => rw [Merged.membersToJson, ih, List.map_cons]

@[simp] theorem lookup_membersToJson (name : String) (l : List (String × Merged)) :
    (Merged.membersToJson l).lookup name = (l.lookup name).map Merged.toJson := by
  rw [membersToJson_eq_map, lookup_map]

theorem membersToJson_append (l l' : List (String × Merged)) :
    Merged.membersToJson (l ++ l') = Merged.membersToJson l ++ Merged.membersToJson l' := by
  simp only [membersToJson_eq_map, List.map_append]

@[simp] theorem lookup_raw (name : String) (ms : Layer) : (raw ms).lookup name = (ms.lookup name).map .value :=
  lookup_map _ _ _

@[simp] theorem membersToJson_raw (ms : Layer) : Merged.membersToJson (raw ms) = ms := by
  rw [membersToJson_eq_map, raw, List.map_map]
  exact List.map_id' ms

/-! ## Laying a plain layer over members -/

variable {own : List (String × Merged)} {o : Layer}

/-- A plain layer brings nothing that is inherited; its members are laid over one by one. -/
theorem overlayMembers_cons {name : String} {v : Json} (hname : name ≠ inheritName) :
    overlayMembers own [] ((name, v) :: o) =
      overlayMembers (Json.setMember name (overlayValue (own.lookup name) v) own) [] o := by
  rw [overlayMembers, if_neg (fun h => hname h.1), List.append_nil]

theorem overlayMembers_eq_laid (ho : isPlainLayer o = true) : overlayMembers own [] o = (laid own o, []) := by
  induction o generalizing own with
  | nil => rfl
  | cons m rest ih =>
      obtain ⟨name, v⟩ := m
      obtain ⟨hname, -, -, hrest⟩ := isPlainLayer_cons.1 ho
      rw [laid, overlayMembers_cons hname, ih hrest]

theorem overlayValue_object {m : Merged} (hown : m.own? = some own) (ho : isPlainLayer o = true) :
    overlayValue (some m) (.object o) = .object (laid own o) [] := by
  simp only [overlayValue, Option.bind_some, hown, overlayMembers_eq_laid ho]

/-- What stands at a name afterwards. -/
theorem lookup_laid (ho : isPlainLayer o = true) (name : String) :
    (laid own o).lookup name = match o.lookup name with
      | some v => some (overlayValue (own.lookup name) v)
      | none => own.lookup name := by
  induction o generalizing own with
  | nil => rfl
  | cons m rest ih =>
      obtain ⟨n, v⟩ := m
      obtain ⟨hname, hnew, -, hrest⟩ := isPlainLayer_cons.1 ho
      rw [laid, overlayMembers_cons hname, ← laid, ih hrest, lookup_setMember, lookup_cons_eq_ite]
      by_cases h : name = n
      · -- the name does not come a second time
        rw [lookup_of_notMem (h ▸ hnew), if_pos h, if_pos h, h]
      · rw [if_neg h, if_neg h]

theorem overlayValue_none (v : Json) : overlayValue none v = .value v := by
  cases v <;> rfl

/-- New members come after the others as they are. -/
theorem laid_of_disjoint (ho : isPlainLayer o = true) (h : ∀ name ∈ o.map (·.1), name ∉ own.map (·.1)) :
    laid own o = own ++ raw o := by
  induction o generalizing own with
  | nil => exact (List.append_nil own).symm
  | cons m rest ih =>
      obtain ⟨name, v⟩ := m
      obtain ⟨hname, hnew, -, hrest⟩ := isPlainLayer_cons.1 ho
      have hnotin : name ∉ own.map (·.1) := h name (List.mem_cons_self ..)
      rw [laid, overlayMembers_cons hname, lookup_of_notMem hnotin, overlayValue_none,
        Json.setMember_of_notMem _ hnotin, ← laid, ih hrest, List.append_assoc]
      · rfl
      · intro n hn
        rw [List.map_append, List.mem_append, List.map_singleton, List.mem_singleton, not_or]
        exact ⟨h n (List.mem_cons_of_mem _ hn), ne_of_mem_of_not_mem hn hnew⟩

theorem laid_nil (ho : isPlainLayer o = true) : laid [] o = raw o := laid_of_disjoint ho (by simp)

/-! ## Nothing inherited -/

theorem flat_raw (ms : Layer) : ∀ m ∈ raw ms, m.2.Flat := by
  intro m hm
  obtain ⟨_, -, rfl⟩ := List.mem_map.1 hm
  exact .value _

theorem flat_own {m : Merged} (h : m.Flat) (hown : m.own? = some own) : ∀ x ∈ own, x.2.Flat := by
  cases h with
  | value v =>
      cases v with
      | object ms => exact Option.some.inj hown ▸ flat_raw ms
      | _ => cases hown
  | object hflat => exact Option.some.inj hown ▸ hflat

theorem flat_of_lookup (h : ∀ m ∈ own, m.2.Flat) {name : String} : ∀ m ∈ own.lookup name, m.Flat :=
  fun _ hm => h _ (mem_of_lookup hm)

mutual

theorem flat_overlayValue : ∀ (v : Json) {base : Option Merged}, isPlain v = true → (∀ m ∈ base, m.Flat) →
    (overlayValue base v).Flat
  | .object upper, base, hv, hbase => by
      cases hown : base.bind Merged.own? with
      | none =>
          simp only [overlayValue, hown]
          exact .value _
      | some own =>
          obtain ⟨m, rfl, hm⟩ := Option.bind_eq_some_iff.1 hown
          rw [overlayValue_object hm hv]
          exact .object (flat_laid upper hv (flat_own (hbase m rfl) hm))
  | .null, _, _, _ | .bool _, _, _, _ | .number _, _, _, _ | .string _, _, _, _ | .array _, _, _, _ => by
      simp only [overlayValue]
      exact .value _

theorem flat_laid : ∀ (o : Layer) {own : List (String × Merged)}, isPlainLayer o = true → (∀ m ∈ own, m.2.Flat) →
    ∀ m ∈ laid own o, m.2.Flat
  | [], _, _, h => h
  | (name, v) :: rest, own, ho, h => by
      obtain ⟨hname, -, hv, hrest⟩ := isPlainLayer_cons.1 ho
      rw [laid, overlayMembers_cons hname, ← laid]
      refine flat_laid rest hrest fun m hm => ?_
      rcases mem_of_mem_setMember hm with rfl | hm
      · exact flat_overlayValue v hv (flat_of_lookup h)
      · exact h m hm

end

theorem mergeLayers_concat (layers : List Layer) (l : Layer) :
    mergeLayers (layers ++ [l]) = overlayValue (some (mergeLayers layers)) (.object l) := by
  rw [mergeLayers, List.foldl_concat, ← mergeLayers]

/-- Merged layers are an object. -/
theorem exists_mergeLayers_eq (layers : List Layer) : ∃ own inherited, mergeLayers layers = .object own inherited := by
  induction layers using List.reverseRecOn with
  | nil => exact ⟨[], [], rfl⟩
  | append_singleton layers l ih =>
      obtain ⟨own, inherited, h⟩ := ih
      rw [mergeLayers_concat, h]
      exact ⟨_, _, rfl⟩

/-- Plain layers merge to an object that inherits nothing. -/
theorem mergeLayers_flat {layers : List Layer} (h : ∀ l ∈ layers, isPlainLayer l = true) :
    ∃ own, mergeLayers layers = .object own [] ∧ ∀ m ∈ own, m.2.Flat := by
  induction layers using List.reverseRecOn with
  | nil => exact ⟨[], rfl, by simp⟩
  | append_singleton layers l ih =>
      obtain ⟨hlayers, hl⟩ := List.forall_mem_append.1 h
      obtain ⟨own, hown, hflat⟩ := ih hlayers
      have hplain : isPlainLayer l = true := hl l (List.mem_singleton_self l)
      refine ⟨laid own l, ?_, flat_laid l hplain hflat⟩
      rw [mergeLayers_concat, hown, overlayValue_object rfl hplain]

end CodeAtlas.Config
