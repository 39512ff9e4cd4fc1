import CodeAtlas.Dict
import Mathlib.Data.List.Induction
import Mathlib.Data.List.Nodup

set_option autoImplicit false
set_option linter.unusedSectionVars false

/-! # Laws of dictionaries

What each operation does to the value of a key, to the keys and to the values. A dictionary is *keyed*
by a function when every key is the function's value at the entry; the values then tell the keys, and
look-up is a search among the values. -/

namespace CodeAtlas.Dict

variable {κ ν : Type} [DecidableEq κ]

/-! ## Keys and membership -/

theorem contains_iff_mem_keys (d : Dict κ ν) (k : κ) : d.contains k = true ↔ k ∈ d.keys := by
  simp [contains, keys]

theorem get?_eq_none_iff (d : Dict κ ν) (k : κ) : d.get? k = none ↔ d.contains k = false := by
  simp [get?, contains]

theorem contains_eq_isSome_get? (d : Dict κ ν) (k : κ) : d.contains k = (d.get? k).isSome := by
  cases h : d.get? k with
  | none => simpa using (d.get?_eq_none_iff k).1 h
  | some v =>
      cases hc : d.contains k with
      | true => rfl
      | false => rw [(d.get?_eq_none_iff k).2 hc] at h; exact absurd h (by simp)

theorem mem_values_of_get? {d : Dict κ ν} {k : κ} {v : ν} (h : d.get? k = some v) : v ∈ d.values := by
  simp only [get?, Option.map_eq_some_iff] at h
  obtain ⟨e, he, rfl⟩ := h
  exact List.mem_map.2 ⟨e, List.mem_of_find?_eq_some he, rfl⟩

/-- An insertion brings in its value only. -/
theorem mem_values_insert {d : Dict κ ν} {k : κ} {v w : ν} (h : w ∈ (d.insert k v).values) :
    w = v ∨ w ∈ d.values := by
  obtain ⟨e, he, rfl⟩ := List.mem_map.1 h
  unfold insert at he
  split at he
  · obtain ⟨e', he', rfl⟩ := List.mem_map.1 he
    split
    · exact .inl rfl
    · exact .inr (List.mem_map_of_mem he')
  · rcases List.mem_append.1 he with he | he
    · exact .inr (List.mem_map_of_mem he)
    · exact .inl (by rw [List.mem_singleton.1 he])

/-! ## The value of a key after an operation -/

@[simp] theorem get?_empty (k : κ) : (empty : Dict κ ν).get? k = none := rfl

@[simp] theorem values_empty : (empty : Dict κ ν).values = [] := rfl

@[simp] theorem contains_empty (k : κ) : (empty : Dict κ ν).contains k = false := rfl

/-- Replacing the entries of one key does not change what a search for another key finds. -/
theorem find?_replace (l : List (κ × ν)) (k k' : κ) (v : ν) :
    (l.map fun e => if e.1 = k then (k, v) else e).find? (·.1 = k')
      = if k' = k then (l.find? (·.1 = k)).map fun _ => (k, v) else l.find? (·.1 = k') := by
  induction l with
  | nil => simp
  | cons e rest ih =>
      by_cases hk : e.1 = k <;> by_cases hk' : k' = k
      · subst hk hk'
        simp
      · have hne : ¬ k = k' := fun h => hk' h.symm
        simp [hk, hk', hne, ih]
      · subst hk'
        simp [hk, ih]
      · by_cases he : e.1 = k' <;> simp [hk, hk', he, ih]

theorem get?_insert (d : Dict κ ν) (k k' : κ) (v : ν) :
    (d.insert k v).get? k' = if k' = k then some v else d.get? k' := by
  by_cases hc : d.contains k = true
  · have hsome : (d.entries.find? (·.1 = k)).isSome := by simpa [contains] using hc
    obtain ⟨e, he⟩ := Option.isSome_iff_exists.1 hsome
    rw [insert, if_pos hc]
    simp only [get?, find?_replace]
    by_cases hk : k' = k <;> simp [hk, he]
  · have hnone : d.get? k = none := (d.get?_eq_none_iff k).2 (by simpa using hc)
    rw [insert, if_neg hc]
    simp only [get?, List.find?_append, Option.map_or] at hnone ⊢
    by_cases hk : k' = k
    · subst hk
      simp [hnone]
    · have hne : ¬ k = k' := fun h => hk h.symm
      simp [hk, hne]

@[simp] theorem get?_insert_self (d : Dict κ ν) (k : κ) (v : ν) : (d.insert k v).get? k = some v := by
  simp [get?_insert]

theorem get?_insertNew (d : Dict κ ν) (k k' : κ) (v : ν) :
    (d.insertNew k v).get? k' = if k' = k then some ((d.get? k).getD v) else d.get? k' := by
  by_cases hc : d.contains k = true
  · obtain ⟨w, hw⟩ := Option.isSome_iff_exists.1 (d.contains_eq_isSome_get? k ▸ hc)
    rw [insertNew, if_pos hc]
    by_cases hk : k' = k <;> simp [hk, hw]
  · have hnone : d.get? k = none := (d.get?_eq_none_iff k).2 (by simpa using hc)
    have hins : d.insertNew k v = d.insert k v := by rw [insertNew, insert, if_neg hc, if_neg hc]
    rw [hins, get?_insert, hnone]
    rfl

theorem get?_erase (d : Dict κ ν) (k k' : κ) :
    (d.erase k).get? k' = if k' = k then none else d.get? k' := by
  simp only [erase, get?, List.find?_filter]
  by_cases hk : k' = k
  · subst hk
    simp
  · have hsame : (fun e : κ × ν => !decide (e.1 = k) && decide (e.1 = k')) = fun e => decide (e.1 = k') := by
      funext e
      by_cases he : e.1 = k' <;> simp [he, hk]
    simp [hk, hsame]

theorem get?_update (d : Dict κ ν) (k k' : κ) (start : ν) (f : ν → ν) :
    (d.update k start f).get? k' = if k' = k then some (f ((d.get? k).getD start)) else d.get? k' :=
  d.get?_insert k k' _

theorem get?_map_values {ω : Type} (d : Dict κ ν) (f : ν → ω) (k : κ) :
    (⟨d.entries.map fun e => (e.1, f e.2)⟩ : Dict κ ω).get? k = (d.get? k).map f := by
  simp [get?, List.find?_map, Function.comp_def]

theorem contains_insert (d : Dict κ ν) (k k' : κ) (v : ν) :
    (d.insert k v).contains k' = (decide (k' = k) || d.contains k') := by
  rw [contains_eq_isSome_get?, get?_insert, contains_eq_isSome_get?]
  by_cases hk : k' = k <;> simp [hk]

theorem contains_insertNew (d : Dict κ ν) (k k' : κ) (v : ν) :
    (d.insertNew k v).contains k' = (decide (k' = k) || d.contains k') := by
  rw [contains_eq_isSome_get?, get?_insertNew, contains_eq_isSome_get?]
  by_cases hk : k' = k <;> simp [hk]

theorem contains_erase (d : Dict κ ν) (k k' : κ) :
    (d.erase k).contains k' = (!decide (k' = k) && d.contains k') := by
  rw [contains_eq_isSome_get?, get?_erase, contains_eq_isSome_get?]
  by_cases hk : k' = k <;> simp [hk]

/-! ## Keys and entries -/

theorem keys_insert (d : Dict κ ν) (k : κ) (v : ν) :
    (d.insert k v).keys = if d.contains k = true then d.keys else d.keys ++ [k] := by
  by_cases hc : d.contains k = true
  · rw [if_pos hc, insert, if_pos hc]
    simp only [keys, List.map_map]
    refine List.map_congr_left (fun e _ => ?_)
    by_cases he : e.1 = k <;> simp [he]
  · simp [insert, hc, keys]

theorem nodup_keys_insert {d : Dict κ ν} (h : d.keys.Nodup) (k : κ) (v : ν) : (d.insert k v).keys.Nodup := by
  rw [keys_insert]
  split
  · exact h
  · next hc =>
      refine h.append (List.nodup_singleton _) (List.disjoint_singleton.2 fun hm => hc ?_)
      exact (d.contains_iff_mem_keys k).2 hm

/-- Where no key comes twice, a search for a key finds the one entry that has it. -/
theorem find?_eq_some_iff_of_nodup {α : Type} {key : α → κ} {l : List α} (h : (l.map key).Nodup) (k : κ) (x : α) :
    l.find? (key · = k) = some x ↔ x ∈ l ∧ key x = k := by
  constructor
  · intro hx
    exact ⟨List.mem_of_find?_eq_some hx, by simpa using List.find?_some hx⟩
  · rintro ⟨hx, rfl⟩
    cases hf : l.find? (key · = key x) with
    | none => simpa using List.find?_eq_none.1 hf x hx
    | some y =>
        have hy : key y = key x := by simpa using List.find?_some hf
        rw [List.inj_on_of_nodup_map h (List.mem_of_find?_eq_some hf) hx hy]

/-- Where no key comes twice, look-up finds every entry. -/
theorem mem_entries_iff {d : Dict κ ν} (h : d.keys.Nodup) (k : κ) (v : ν) :
    (k, v) ∈ d.entries ↔ d.get? k = some v := by
  have hfind := @find?_eq_some_iff_of_nodup κ _ _ Prod.fst d.entries h
  rw [get?, Option.map_eq_some_iff]
  simp only [hfind]
  constructor
  · exact fun hmem => ⟨(k, v), ⟨hmem, rfl⟩, rfl⟩
  · rintro ⟨e, ⟨he, rfl⟩, rfl⟩
    exact he

theorem ofList_append_singleton (l : List (κ × ν)) (e : κ × ν) : ofList (l ++ [e]) = (ofList l).insert e.1 e.2 := by
  simp [ofList]

/-- Of the pairs of one key, the last one counts. -/
theorem get?_ofList (l : List (κ × ν)) (k : κ) : (ofList l).get? k = (l.reverse.find? (·.1 = k)).map (·.2) := by
  induction l using List.reverseRecOn with
  | nil => rfl
  | append_singleton l e ih =>
      rw [ofList_append_singleton, get?_insert, List.reverse_append, List.reverse_singleton, List.singleton_append,
        List.find?_cons, ih]
      by_cases he : e.1 = k
      · simp [he]
      · simp [he, Ne.symm he]

/-- Giving the keys of a list new values, one after another, gives each key at most one. -/
theorem get?_foldl_insert {α : Type} {key : α → κ} (f : Option ν → α → ν) {l : List α} (h : (l.map key).Nodup)
    (d : Dict κ ν) (k : κ) : (l.foldl (fun d x => d.insert (key x) (f (d.get? (key x)) x)) d).get? k =
      match l.find? (key · = k) with
      | none => d.get? k
      | some x => some (f (d.get? k) x) := by
  induction l generalizing d with
  | nil => rfl
  | cons x rest ih =>
      rw [List.map_cons, List.nodup_cons] at h
      rw [List.foldl_cons, ih h.2, List.find?_cons]
      by_cases hx : key x = k
      · -- no later member has the key
        subst hx
        have hnone : rest.find? (key · = key x) = none := List.find?_eq_none.2 fun y hy he => by
          exact h.1 (List.mem_map.2 ⟨y, hy, by simpa using he⟩)
        simp [hnone]
      · have hsame : (d.insert (key x) (f (d.get? (key x)) x)).get? k = d.get? k := by
          rw [get?_insert, if_neg fun hk => hx hk.symm]
        simp [hx, hsame]

theorem nodup_keys_foldl_insert {α : Type} (key : α → κ) (f : Option ν → α → ν) (l : List α) {d : Dict κ ν}
    (h : d.keys.Nodup) : (l.foldl (fun d x => d.insert (key x) (f (d.get? (key x)) x)) d).keys.Nodup := by
  induction l generalizing d with
  | nil => exact h
  | cons x rest ih => exact ih (nodup_keys_insert h _ _)

/-! ## Dictionaries keyed by a function of the value -/

/-- Every key is `key` of its value, and no key comes twice. -/
structure KeyedBy (key : ν → κ) (d : Dict κ ν) : Prop where
  keys_eq : d.keys = d.values.map key
  nodup : d.keys.Nodup

namespace KeyedBy

variable {key : ν → κ} {d : Dict κ ν}

theorem empty : KeyedBy key (empty : Dict κ ν) := ⟨rfl, List.nodup_nil⟩

theorem key_eq (h : KeyedBy key d) {e : κ × ν} (he : e ∈ d.entries) : e.1 = key e.2 := by
  have hmap : d.entries.map (·.1) = d.entries.map fun e => key e.2 := by
    simpa [keys, values] using h.keys_eq
  exact List.map_inj_left.1 hmap e he

/-- Look-up is a search among the values. -/
theorem get?_eq_find? (h : KeyedBy key d) (k : κ) : d.get? k = d.values.find? (key · = k) := by
  rw [get?, values, List.find?_map, ← List.head?_filter, ← List.head?_filter]
  congr 2
  refine List.filter_congr (fun e he => ?_)
  simp [h.key_eq he]

theorem nodup_values (h : KeyedBy key d) : (d.values.map key).Nodup := h.keys_eq ▸ h.nodup

theorem get?_eq_some_iff (h : KeyedBy key d) (k : κ) (v : ν) :
    d.get? k = some v ↔ v ∈ d.values ∧ key v = k := by
  rw [h.get?_eq_find?, find?_eq_some_iff_of_nodup h.nodup_values]

theorem contains_iff (h : KeyedBy key d) (k : κ) : d.contains k = true ↔ ∃ v ∈ d.values, key v = k := by
  rw [contains_iff_mem_keys, h.keys_eq, List.mem_map]

/-- A new value goes to the end. -/
theorem values_insert_new {k : κ} (v : ν) (hk : d.contains k = false) :
    (d.insert k v).values = d.values ++ [v] := by
  simp [insert, hk, values]

/-- A value under a known key takes the place of the one before it. -/
theorem values_insert_known (h : KeyedBy key d) {k : κ} (v : ν) (hk : d.contains k = true) :
    (d.insert k v).values = d.values.map fun w => if key w = k then v else w := by
  rw [insert, if_pos hk]
  simp only [values, List.map_map]
  refine List.map_congr_left (fun e he => ?_)
  have := h.key_eq he
  by_cases hek : e.1 = k <;> simp_all

theorem insert (h : KeyedBy key d) (v : ν) : KeyedBy key (d.insert (key v) v) := by
  refine ⟨?_, nodup_keys_insert h.nodup _ v⟩
  rw [keys_insert]
  split
  · next hc =>
      rw [h.values_insert_known v hc, h.keys_eq, List.map_map]
      refine List.map_congr_left (fun w _ => ?_)
      by_cases hw : key w = key v <;> simp [hw]
  · next hc =>
      rw [values_insert_new v (by simpa using hc), h.keys_eq]
      simp

theorem ofList (l : List ν) : KeyedBy key (ofList (l.map fun v => (key v, v))) := by
  induction l using List.reverseRecOn with
  | nil => exact empty
  | append_singleton l v ih =>
      rw [List.map_append, List.map_singleton, ofList_append_singleton]
      exact ih.insert v

theorem values_erase (h : KeyedBy key d) (k : κ) :
    (d.erase k).values = d.values.filter (fun v => ¬ key v = k) := by
  rw [erase, values, values, List.filter_map]
  congr 1
  refine List.filter_congr (fun e he => ?_)
  simp [h.key_eq he]

theorem erase (h : KeyedBy key d) (k : κ) : KeyedBy key (d.erase k) := by
  have hkeys : (d.erase k).keys = d.keys.filter (fun k' => ¬ k' = k) := by
    rw [Dict.erase, keys, keys, List.filter_map]
    rfl
  refine ⟨?_, hkeys ▸ h.nodup.filter _⟩
  rw [hkeys, h.values_erase, h.keys_eq, List.filter_map]
  rfl

end KeyedBy

/-! ## First and last of a key -/

/-- Values that are inserted where their keys are new: of each key, the first one is kept. -/
theorem values_foldl_insertNew {key : ν → κ} {d : Dict κ ν} (h : KeyedBy key d) (l : List ν) :
    (l.foldl (fun d v => d.insertNew (key v) v) d).values =
      List.eraseDupsBy.loop (fun a b => key a == key b) l d.values.reverse := by
  induction l generalizing d with
  | nil => simp [List.eraseDupsBy.loop]
  | cons v rest ih =>
      have hany : (d.values.reverse.any fun w => key v == key w) = d.contains (key v) := by
        rw [Bool.eq_iff_iff, h.contains_iff, List.any_reverse, List.any_eq_true]
        exact exists_congr fun w => and_congr_right fun _ => beq_iff_eq.trans eq_comm
      rw [List.foldl_cons, List.eraseDupsBy.loop, hany]
      cases hc : d.contains (key v) with
      | true => simpa [insertNew, hc] using ih h
      | false =>
          have hnew : d.insertNew (key v) v = d.insert (key v) v := by simp [insertNew, insert, hc]
          have hvalues := KeyedBy.values_insert_new (d := d) v hc
          simpa [hnew, hvalues] using ih (h.insert v)

theorem KeyedBy.insertNew {key : ν → κ} {d : Dict κ ν} (h : KeyedBy key d) (v : ν) :
    KeyedBy key (d.insertNew (key v) v) := by
  rw [Dict.insertNew]
  split
  · exact h
  · next hc => simpa [Dict.insert, hc] using h.insert v

theorem KeyedBy.foldl_insertNew {key : ν → κ} {d : Dict κ ν} (h : KeyedBy key d) (l : List ν) :
    KeyedBy key (l.foldl (fun d v => d.insertNew (key v) v) d) := by
  induction l generalizing d with
  | nil => exact h
  | cons v rest ih => exact ih (h.insertNew v)

/-- Pairs inserted one after another leave each key where it came first. -/
theorem keys_ofList (l : List (κ × ν)) : (ofList l).keys = (l.map Prod.fst).eraseDups := by
  induction l using List.reverseRecOn with
  | nil => rfl
  | append_singleton l e ih =>
      have hmem : (ofList l).contains e.1 = true ↔ e.1 ∈ l.map Prod.fst := by
        rw [contains_iff_mem_keys, ih, List.mem_eraseDups]
      rw [ofList_append_singleton, keys_insert, ih, List.map_append, List.map_singleton, List.eraseDups_append]
      by_cases he : e.1 ∈ l.map Prod.fst
      · simp [hmem.2 he, List.removeAll, he]
      · simp [hmem, he, List.removeAll, List.eraseDups_cons]

/-- Of the values of one key, the last one is kept. -/
theorem mem_values_ofList_iff {key : ν → κ} {l : List ν} {v : ν} :
    v ∈ (ofList (l.map fun v => (key v, v))).values ↔ l.reverse.find? (key · = key v) = some v := by
  have hkeyed : KeyedBy key (ofList (l.map fun v => (key v, v))) := KeyedBy.ofList l
  have hget := hkeyed.get?_eq_some_iff (key v) v
  rw [get?_ofList, ← List.map_reverse, List.find?_map, Option.map_map] at hget
  simpa [Function.comp_def] using hget.symm

/-- Values under keys of their own stay as they are. -/
theorem values_ofList_of_nodup {key : ν → κ} {l : List ν} (h : (l.map key).Nodup) :
    (ofList (l.map fun v => (key v, v))).values = l := by
  induction l using List.reverseRecOn with
  | nil => rfl
  | append_singleton l v ih =>
      rw [List.map_append, List.map_singleton, List.nodup_append] at h
      obtain ⟨hrest, -, hnew⟩ := h
      have hkey : (ofList (l.map fun v => (key v, v))).contains (key v) = false := by
        rw [← Bool.not_eq_true, (KeyedBy.ofList l).contains_iff, ih hrest]
        rintro ⟨w, hw, hkey⟩
        exact hnew _ (List.mem_map_of_mem hw) _ (List.mem_singleton_self _) hkey
      rw [List.map_append, List.map_singleton, ofList_append_singleton, KeyedBy.values_insert_new v hkey, ih hrest]

/-! ## Lists without repetitions -/

/-- Where one key tells entries apart, so does a finer one. -/
theorem nodup_map_of_imp {α β γ : Type} {f : α → β} {g : α → γ} {l : List α} (h : (l.map f).Nodup)
    (himp : ∀ a ∈ l, ∀ b ∈ l, g a = g b → f a = f b) : (l.map g).Nodup := by
  rw [List.nodup_iff_pairwise_ne, List.pairwise_map] at h ⊢
  exact h.imp_of_mem fun ha hb hne he => hne (himp _ ha _ hb he)

theorem mem_distinct {α : Type} [DecidableEq α] (l : List α) (x : α) : x ∈ distinct l ↔ x ∈ l := by
  have hfold : ∀ (l seen : List α),
      x ∈ l.foldl (fun seen y => if y ∈ seen then seen else y :: seen) seen ↔ x ∈ seen ∨ x ∈ l := by
    intro l
    induction l with
    | nil => intro seen; simp
    | cons y rest ih =>
        intro seen
        rw [List.foldl_cons, ih, List.mem_cons]
        by_cases hy : y ∈ seen
        · rw [if_pos hy]
          by_cases hxy : x = y
          · subst hxy; simp [hy]
          · simp [hxy]
        · rw [if_neg hy, List.mem_cons, or_assoc, or_left_comm]
  rw [distinct, List.mem_reverse, hfold]
  simp

theorem nodup_distinct {α : Type} [DecidableEq α] (l : List α) : (distinct l).Nodup := by
  have hfold : ∀ (l seen : List α), seen.Nodup →
      (l.foldl (fun seen y => if y ∈ seen then seen else y :: seen) seen).Nodup := by
    intro l
    induction l with
    | nil => intro seen h; exact h
    | cons y rest ih =>
        intro seen h
        rw [List.foldl_cons]
        split
        · exact ih seen h
        · next hy => exact ih _ (List.nodup_cons.2 ⟨hy, h⟩)
  exact List.nodup_reverse.2 (hfold l [] List.nodup_nil)

/-- The members of a list do not depend on its order. -/
theorem distinct_perm {α : Type} [DecidableEq α] {l l' : List α} (h : l.Perm l') :
    (distinct l).Perm (distinct l') := by
  rw [List.perm_ext_iff_of_nodup (nodup_distinct l) (nodup_distinct l')]
  intro x
  rw [mem_distinct, mem_distinct, h.mem_iff]

/-- After the members of one list come those of another that are new. -/
theorem distinct_append {α : Type} [DecidableEq α] (a b : List α) :
    distinct (a ++ b) = distinct a ++ (distinct b).filter (· ∉ a) := by
  have hfold : ∀ (before l seen : List α),
      l.foldl (fun seen x => if x ∈ seen then seen else x :: seen) (seen.filter (· ∉ before) ++ before)
        = (l.foldl (fun seen x => if x ∈ seen then seen else x :: seen) seen).filter (· ∉ before) ++ before := by
    intro before l
    induction l with
    | nil => intro seen; rfl
    | cons x rest ih =>
        intro seen
        rw [List.foldl_cons, List.foldl_cons, ← ih]
        congr 1
        by_cases hbefore : x ∈ before
        · by_cases hseen : x ∈ seen <;> simp [hbefore, hseen]
        · by_cases hseen : x ∈ seen <;> simp [hbefore, hseen]
  have hrest := hfold (a.foldl (fun seen x => if x ∈ seen then seen else x :: seen) []) b []
  have hmem (x : α) : x ∈ a.foldl (fun seen x => if x ∈ seen then seen else x :: seen) [] ↔ x ∈ a := by
    rw [← mem_distinct a x, distinct, List.mem_reverse]
  rw [List.filter_nil, List.nil_append] at hrest
  rw [distinct, List.foldl_append, hrest, List.reverse_append]
  simp only [hmem, distinct, List.filter_reverse]

theorem head?_distinct_cons {α : Type} [DecidableEq α] (x : α) (l : List α) : (distinct (x :: l)).head? = some x := by
  have hsplit := distinct_append [x] l
  rw [List.singleton_append] at hsplit
  rw [hsplit]
  rfl

/-- What one list has comes before what is new in another. -/
theorem pair_sublist_distinct_append {α : Type} [DecidableEq α] {a b : List α} {x y : α} (hx : x ∈ a) (hy : y ∈ b)
    (hnew : y ∉ a) : [x, y].Sublist (distinct (a ++ b)) := by
  rw [distinct_append]
  exact (List.singleton_sublist.2 ((mem_distinct a x).2 hx)).append
    (List.singleton_sublist.2 (List.mem_filter.2 ⟨(mem_distinct b y).2 hy, by simpa using hnew⟩))

/-! ## Grouping -/

/-- A value that joins the group of its key brings in what is made of it. -/
theorem flatMap_update_append_perm {β : Type} {d : Dict κ (List ν)} (h : d.keys.Nodup) (k : κ) (v : ν)
    (f : κ → ν → List β) :
    ((d.update k [] (· ++ [v])).entries.flatMap fun e => e.2.flatMap (f e.1)).Perm
      ((d.entries.flatMap fun e => e.2.flatMap (f e.1)) ++ f k v) := by
  by_cases hc : d.contains k = true
  · obtain ⟨⟨k, vs⟩, he, rfl⟩ := List.mem_map.1 ((d.contains_iff_mem_keys k).1 hc)
    have hget : d.get? k = some vs := (mem_entries_iff h k vs).1 he
    obtain ⟨before, after, hentries⟩ := List.append_of_mem he
    -- no other entry has the key
    rw [keys, hentries, List.map_append, List.map_cons, List.nodup_append, List.nodup_cons] at h
    have hreplace : ∀ l : List (κ × List ν), k ∉ l.map (·.1) →
        (l.map fun e => if e.1 = k then (k, vs ++ [v]) else e) = l := fun l hl => by
      conv_rhs => rw [← List.map_id l]
      refine List.map_congr_left fun e he => if_neg fun hk : e.1 = k => hl ?_
      exact hk ▸ List.mem_map_of_mem he
    have hbefore : k ∉ before.map (·.1) := fun hk => h.2.2 k hk k (List.mem_cons_self ..) rfl
    rw [update, hget, Option.getD_some, insert, if_pos hc]
    simp only [hentries, List.map_append, List.map_cons, if_true, hreplace _ hbefore, hreplace _ h.2.1.1,
      List.flatMap_append, List.flatMap_cons, List.flatMap_nil, List.append_nil, List.append_assoc]
    exact (List.perm_append_comm.append_left _).append_left _
  · have hget : d.get? k = none := (d.get?_eq_none_iff k).2 (by simpa using hc)
    rw [update, hget, insert, if_neg hc]
    simp

theorem nodup_keys_foldl_update {α : Type} (key : α → κ) (start : ν) (f : α → ν → ν) (l : List α) {d : Dict κ ν}
    (h : d.keys.Nodup) : (l.foldl (fun d x => d.update (key x) start (f x)) d).keys.Nodup :=
  nodup_keys_foldl_insert key (fun v x => f x (v.getD start)) l h

/-- A list put into groups holds what it held, up to order. -/
theorem flatMap_groups_perm {α β : Type} (key : α → κ) (value : α → ν) (f : κ → ν → List β) (l : List α) :
    ((l.foldl (fun d x => d.update (key x) [] (· ++ [value x])) (empty : Dict κ (List ν))).entries.flatMap
      fun e => e.2.flatMap (f e.1)).Perm (l.flatMap fun x => f (key x) (value x)) := by
  induction l using List.reverseRecOn with
  | nil => exact .refl _
  | append_singleton l x ih =>
      have hnodup := nodup_keys_foldl_update key [] (fun x vs => vs ++ [value x]) l
        (d := (empty : Dict κ (List ν))) List.nodup_nil
      rw [List.foldl_append, List.foldl_cons, List.foldl_nil, List.flatMap_append, List.flatMap_singleton]
      exact (flatMap_update_append_perm hnodup _ _ f).trans (ih.append_right _)

/-! ## Counting -/

/-- How often `f` takes each of its values on a list, values in the order they are first met. -/
theorem get?_tally {α : Type} (f : α → κ) (l : List α) (k : κ) :
    (l.foldl (fun d x => d.update (f x) 0 (· + 1)) (empty : Dict κ Nat)).get? k
      = if k ∈ l.map f then some ((l.map f).count k) else none := by
  induction l using List.reverseRecOn with
  | nil => rfl
  | append_singleton l x ih =>
      rw [List.foldl_append, List.foldl_cons, List.foldl_nil, get?_update]
      by_cases hk : k = f x
      · subst hk
        rw [if_pos rfl, ih]
        by_cases hmem : f x ∈ l.map f
        · simp [hmem]
        · simp [hmem, List.count_eq_zero_of_not_mem hmem]
      · simp [hk, Ne.symm hk, ih]

theorem nodup_keys_tally {α : Type} (f : α → κ) (l : List α) :
    (l.foldl (fun d x => d.update (f x) 0 (· + 1)) (empty : Dict κ Nat)).keys.Nodup :=
  nodup_keys_foldl_update f 0 (fun _ => (· + 1)) l List.nodup_nil

/-- Dictionaries that give every key the same value have the same entries. -/
theorem entries_perm {d d' : Dict κ ν} (h : d.keys.Nodup) (h' : d'.keys.Nodup)
    (hget : ∀ k, d.get? k = d'.get? k) : d.entries.Perm d'.entries := by
  refine (List.perm_ext_iff_of_nodup (List.Nodup.of_map _ h) (List.Nodup.of_map _ h')).2 fun e => ?_
  rw [mem_entries_iff h e.1 e.2, mem_entries_iff h' e.1 e.2, hget]

end CodeAtlas.Dict
