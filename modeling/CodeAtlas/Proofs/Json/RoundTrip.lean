import CodeAtlas.Proofs.Json.Numbers
import CodeAtlas.Proofs.Json.Strings

set_option autoImplicit false

/-! # Writing and reading JSON

The text of a value is read as the value (`parse?_render`), up to what writing leaves out: a number is read as the
decimal that its text shows, and the members of an object in the order that objects have. What cannot be read back is
not `Writable`: a number beyond the doubles, which is written as null, and a text with the halves of a character. -/

namespace CodeAtlas.Json

open Number

/-! ## What is read -/

mutual

/-- What is read of the text of a value. -/
def reread : Json → Json
  | null => null
  | bool b => bool b
  | number r => number (shown r)
  | string s => string s
  | array l => array (rereadItems l)
  | object ms => ofMembers (rereadMembers ms)

/-- What is read of the texts of items. -/
def rereadItems : List Json → List Json
  | [] => []
  | v :: rest => reread v :: rereadItems rest

/-- What is read of the texts of members. -/
def rereadMembers : List (String × Json) → List (String × Json)
  | [] => []
  | (n, v) :: rest => (n, reread v) :: rereadMembers rest

end

mutual

/-- Every number is a finite double and every text is composed. -/
def Writable : Json → Prop
  | null => True
  | bool _ => True
  | number r => (text? r).isSome = true
  | string s => Text.Composed s
  | array l => WritableItems l
  | object ms => WritableMembers ms

/-- So it is with all items. -/
def WritableItems : List Json → Prop
  | [] => True
  | v :: rest => Writable v ∧ WritableItems rest

/-- So it is with all members and their names. -/
def WritableMembers : List (String × Json) → Prop
  | [] => True
  | (n, v) :: rest => Text.Composed n ∧ Writable v ∧ WritableMembers rest

end

theorem rereadItems_eq (l : List Json) : rereadItems l = l.map reread := by
  induction l with
  | nil => rfl
  | cons v rest ih => rw [rereadItems, ih, List.map_cons]

theorem rereadMembers_eq (ms : List (String × Json)) : rereadMembers ms = ms.map fun m => (m.1, reread m.2) := by
  induction ms with
  | nil => rfl
  | cons m rest ih => rw [rereadMembers, ih, List.map_cons]

theorem writableItems_iff (l : List Json) : WritableItems l ↔ ∀ v ∈ l, Writable v := by
  induction l with
  | nil => simp [WritableItems]
  | cons v rest ih => simp [WritableItems, ih]

theorem writableMembers_iff (ms : List (String × Json)) :
    WritableMembers ms ↔ ∀ m ∈ ms, Text.Composed m.1 ∧ Writable m.2 := by
  induction ms with
  | nil => simp [WritableMembers]
  | cons m rest ih => simp [WritableMembers, ih, and_assoc]

theorem reread_array_map {β : Type} (f : β → Json) (l : List β) :
    reread (.array (l.map f)) = .array (l.map fun x => reread (f x)) := by
  rw [reread, rereadItems_eq, List.map_map]
  rfl

theorem reread_object_map {β : Type} (f : β → Json) (l : List (String × β)) :
    reread (.object (l.map fun e => (e.1, f e.2))) = ofMembers (l.map fun e => (e.1, reread (f e.2))) := by
  rw [reread, rereadMembers_eq, List.map_map]
  rfl

theorem writable_array_map {β : Type} {f : β → Json} {l : List β} (h : ∀ x ∈ l, Writable (f x)) :
    Writable (.array (l.map f)) := by
  rw [Writable, writableItems_iff, List.forall_mem_map]
  exact h

theorem writable_object_map {β : Type} {f : β → Json} {l : List (String × β)}
    (h : ∀ e ∈ l, Text.Composed e.1 ∧ Writable (f e.2)) : Writable (.object (l.map fun e => (e.1, f e.2))) := by
  rw [Writable, writableMembers_iff, List.forall_mem_map]
  exact h

/-! ## The first character -/

/-- A character that a number may begin with. -/
def BeginsNumber (c : Char) : Prop := c = '-' ∨ c.isDigit = true

theorem BeginsNumber.ne {c x : Char} (h : BeginsNumber c) (hminus : x ≠ '-') (hdigit : x.isDigit = false) : c ≠ x := by
  rintro rfl
  exact h.elim hminus fun hc => absurd hc (by simp [hdigit])

theorem BeginsNumber.isSpace_eq {c : Char} (h : BeginsNumber c) : isSpace c = false := by
  simp [isSpace, h.ne (x := ' ') (by decide) (by decide), h.ne (x := '\n') (by decide) (by decide),
    h.ne (x := '\r') (by decide) (by decide), h.ne (x := '\t') (by decide) (by decide)]

theorem number?_head {cs : List Char} {p : ℚ × List Char} (h : number? cs = some p) :
    ∃ c rest, cs = c :: rest ∧ BeginsNumber c := by
  cases cs with
  | nil => exact absurd h (by simp [number?, unsigned?])
  | cons c rest =>
      refine ⟨c, rest, rfl, ?_⟩
      unfold number? at h
      split at h
      · next heq => exact .inl (List.cons.inj heq).1
      · refine .inr (Bool.of_not_eq_false fun hno => ?_)
        simp [unsigned?, hno] at h

/-- A number is read wherever a value is. -/
theorem value?_number {cs rest : List Char} {r : ℚ} (h : number? cs = some (r, rest)) (fuel : ℕ) :
    value? (fuel + 1) cs = some (number r, rest) := by
  obtain ⟨c, tail, rfl, hc⟩ := number?_head h
  have hdrop : (c :: tail).dropWhile isSpace = c :: tail := by simp [hc.isSpace_eq]
  rw [value?, hdrop]
  split
  · next heq => exact absurd (List.cons.inj heq).1 (hc.ne (by decide) (by decide))
  · next heq => exact absurd (List.cons.inj heq).1 (hc.ne (by decide) (by decide))
  · next heq => exact absurd (List.cons.inj heq).1 (hc.ne (by decide) (by decide))
  · next heq => exact absurd (List.cons.inj heq).1 (hc.ne (by decide) (by decide))
  · next heq => exact absurd (List.cons.inj heq).1 (hc.ne (by decide) (by decide))
  · next heq => exact absurd (List.cons.inj heq).1 (hc.ne (by decide) (by decide))
  · rw [h]
    rfl

/-- The text of a value begins with a character that is no blank and closes nothing. -/
theorem head_render {v : Json} (h : Writable v) :
    ∃ c rest, v.render.toList = c :: rest ∧ isSpace c = false ∧ c ≠ ']' := by
  cases v with
  | null => exact ⟨_, _, rfl, by decide, by decide⟩
  | bool b => cases b <;> exact ⟨_, _, rfl, by decide, by decide⟩
  | number r =>
      obtain ⟨t, ht⟩ := Option.isSome_iff_exists.1 h
      have hread := @number?_text _ _ ht [] (by simp [Stops])
      obtain ⟨c, rest, hcs, hc⟩ := number?_head hread
      refine ⟨c, rest, ?_, hc.isSpace_eq, hc.ne (by decide) (by decide)⟩
      rw [render, ht, Option.getD_some, ← hcs, List.append_nil]
  | string s => exact ⟨_, _, toList_quote s, by decide, by decide⟩
  | array l => exact ⟨'[', (",".intercalate (renderItems l) ++ "]").toList, by simp [render], by decide, by decide⟩
  | object ms =>
      exact ⟨'\x7b', (",".intercalate (renderMembers ms) ++ "\x7d").toList, by simp [render], by decide, by decide⟩

/-! ## Values -/

theorem stops_cons {c : Char} (h : c = ',' ∨ c = ']' ∨ c = '\x7d') (rest : List Char) : Stops (c :: rest) := by
  intro d hd
  obtain rfl : c = d := by simpa using hd
  rcases h with rfl | rfl | rfl <;> decide

section Steps

variable {fuel : ℕ} {v : Json} {name : String} {body cs rest : List Char}

theorem value?_array {c : Char} {tail : List Char} (hcs : cs = c :: tail) (hblank : isSpace c = false)
    (hclose : c ≠ ']') : value? (fuel + 1) ('[' :: cs) = items? fuel [] cs := by
  have hdrop : cs.dropWhile isSpace = c :: tail := by simp [hcs, hblank]
  rw [value?, show ('[' :: cs).dropWhile isSpace = '[' :: cs from rfl]
  simp only [hdrop]
  split
  · next heq => exact absurd (List.cons.inj heq).1 hclose
  · rfl

theorem value?_object : value? (fuel + 1) ('\x7b' :: '"' :: body) = members? fuel [] ('"' :: body) := by
  simp [value?, isSpace]

theorem items?_last {out : List Json} (h : value? fuel cs = some (v, ']' :: rest)) :
    items? (fuel + 1) out cs = some (array (v :: out).reverse, rest) := by
  simp [items?, h, isSpace]

theorem items?_next {out : List Json} (h : value? fuel cs = some (v, ',' :: rest)) :
    items? (fuel + 1) out cs = items? fuel (v :: out) rest := by
  simp [items?, h, isSpace]

theorem members?_last {out : List (String × Json)}
    (hname : stringBody (body.length + 1) [] body = some (name, ':' :: cs))
    (h : value? fuel cs = some (v, '\x7d' :: rest)) :
    members? (fuel + 1) out ('"' :: body) = some (ofMembers ((name, v) :: out).reverse, rest) := by
  simp [members?, hname, h, isSpace]

theorem members?_next {out : List (String × Json)}
    (hname : stringBody (body.length + 1) [] body = some (name, ':' :: cs))
    (h : value? fuel cs = some (v, ',' :: rest)) :
    members? (fuel + 1) out ('"' :: body) = members? fuel ((name, v) :: out) rest := by
  simp [members?, hname, h, isSpace]

end Steps

theorem toList_intercalate_cons (a : String) {l : List String} (h : l ≠ []) :
    (",".intercalate (a :: l)).toList = a.toList ++ ',' :: (",".intercalate l).toList := by
  simp [String.intercalate_cons_of_ne_nil h]

theorem toList_render_array (l : List Json) :
    (array l).render.toList = '[' :: ((",".intercalate (renderItems l)).toList ++ [']']) := by
  rw [render, String.toList_append, String.toList_append]
  rfl

theorem toList_render_object (ms : List (String × Json)) :
    (object ms).render.toList = '\x7b' :: ((",".intercalate (renderMembers ms)).toList ++ ['\x7d']) := by
  rw [render, String.toList_append, String.toList_append]
  rfl

/-- The text of items begins as that of the first item. -/
theorem head_renderItems {v : Json} (h : Writable v) (l : List Json) (rest : List Char) :
    ∃ c tail, (",".intercalate (renderItems (v :: l))).toList ++ rest = c :: tail ∧ isSpace c = false ∧ c ≠ ']' := by
  obtain ⟨c, tail, hhead, hblank, hclose⟩ := head_render h
  cases l with
  | nil => exact ⟨c, _, by rw [renderItems, renderItems, String.intercalate_singleton, hhead]; rfl, hblank, hclose⟩
  | cons w l =>
      refine ⟨c, tail ++ ',' :: (",".intercalate (renderItems (w :: l))).toList ++ rest, ?_, hblank, hclose⟩
      rw [renderItems, toList_intercalate_cons _ (by simp [renderItems]), hhead]
      rfl

theorem toList_member (n : String) (v : Json) :
    (quote n ++ ":" ++ v.render).toList = (quote n).toList ++ ':' :: v.render.toList := by
  simp

/-- The text of members begins with a quote. -/
theorem head_renderMembers (n : String) (v : Json) (ms : List (String × Json)) (rest : List Char) :
    ∃ body, (",".intercalate (renderMembers ((n, v) :: ms))).toList ++ rest = '"' :: body := by
  rcases eq_or_ne (renderMembers ms) [] with hnil | hne
  · rw [renderMembers, hnil, String.intercalate_singleton, toList_member, toList_quote]
    exact ⟨_, rfl⟩
  · rw [renderMembers, toList_intercalate_cons _ hne, toList_member, toList_quote]
    exact ⟨_, rfl⟩

-- The fuel is never less than the length of the text: each step takes one unit of it and a character at least. What
-- follows must not go on with a number, which the comma and the brackets see to.
mutual

theorem value?_render : (v : Json) → (h : Writable v) → (fuel : ℕ) → (hfuel : v.render.toList.length ≤ fuel) →
    (rest : List Char) → (hrest : Stops rest) → value? fuel (v.render.toList ++ rest) = some (reread v, rest)
  | v, h, 0, hfuel, _, _ => by
      obtain ⟨c, rest, heq, -⟩ := head_render h
      rw [heq] at hfuel
      exact absurd hfuel (by simp)
  | null, _, fuel + 1, _, rest, _ => by
      simp [render, value?, isSpace, reread]
  | bool b, _, fuel + 1, _, rest, _ => by
      cases b <;> simp [render, value?, isSpace, reread]
  | number r, h, fuel + 1, _, rest, hrest => by
      obtain ⟨t, ht⟩ := Option.isSome_iff_exists.1 h
      rw [render, ht, Option.getD_some, value?_number (number?_text ht hrest), reread]
  | string s, h, fuel + 1, _, rest, _ => by
      obtain ⟨body, hbody, hread⟩ := stringBody_quote h rest
      rw [render, hbody, value?]
      simp [isSpace, hread, reread]
  | array [], _, fuel + 1, _, rest, _ => by
      simp [render, renderItems, value?, isSpace, reread, rereadItems]
  | array (v :: l), h, fuel + 1, hfuel, rest, _ => by
      rw [toList_render_array, List.length_cons, List.length_append, List.length_singleton] at hfuel
      obtain ⟨c, tail, hhead, hblank, hclose⟩ := head_renderItems h.1 l (']' :: rest)
      have hread := items?_render (v :: l) (by simp) h fuel (by omega) [] rest
      rw [toList_render_array, List.cons_append, List.append_assoc, List.singleton_append,
        value?_array hhead hblank hclose, hread, reread]
      rfl
  | object [], _, fuel + 1, _, rest, _ => by
      simp [render, renderMembers, value?, isSpace, reread, rereadMembers, ofMembers]
  | object ((n, v) :: ms), h, fuel + 1, hfuel, rest, _ => by
      rw [toList_render_object, List.length_cons, List.length_append, List.length_singleton] at hfuel
      obtain ⟨body, hhead⟩ := head_renderMembers n v ms ('\x7d' :: rest)
      have hread := members?_render ((n, v) :: ms) (by simp) h fuel (by omega) [] rest
      rw [hhead] at hread
      rw [toList_render_object, List.cons_append, List.append_assoc, List.singleton_append, hhead, value?_object, hread,
        reread]
      rfl

theorem items?_render : (l : List Json) → (hne : l ≠ []) → (h : WritableItems l) → (fuel : ℕ) →
    (hfuel : (",".intercalate (renderItems l)).toList.length < fuel) → (out : List Json) → (rest : List Char) →
    items? fuel out ((",".intercalate (renderItems l)).toList ++ ']' :: rest)
      = some (array (out.reverse ++ rereadItems l), rest)
  | [], hne, _, _, _, _, _ => absurd rfl hne
  | _ :: _, _, _, 0, hfuel, _, _ => absurd hfuel (Nat.not_lt_zero _)
  | [v], _, h, fuel + 1, hfuel, out, rest => by
      rw [renderItems, renderItems, String.intercalate_singleton] at hfuel ⊢
      have hread := value?_render v h.1 fuel (by omega) (']' :: rest) (stops_cons (.inr (.inl rfl)) _)
      rw [items?_last hread, List.reverse_cons, rereadItems, rereadItems]
  | v :: w :: l, _, h, fuel + 1, hfuel, out, rest => by
      rw [renderItems, toList_intercalate_cons _ (by simp [renderItems])] at hfuel ⊢
      rw [List.length_append, List.length_cons] at hfuel
      have hread := value?_render v h.1 fuel (by omega)
        (',' :: ((",".intercalate (renderItems (w :: l))).toList ++ ']' :: rest)) (stops_cons (.inl rfl) _)
      have hrest := items?_render (w :: l) (by simp) h.2 fuel (by omega) (reread v :: out) rest
      rw [List.append_assoc, List.cons_append, items?_next hread, hrest, List.reverse_cons, List.append_assoc,
        rereadItems.eq_2 v]
      rfl

theorem members?_render : (ms : List (String × Json)) → (hne : ms ≠ []) → (h : WritableMembers ms) → (fuel : ℕ) →
    (hfuel : (",".intercalate (renderMembers ms)).toList.length < fuel) → (out : List (String × Json)) →
    (rest : List Char) → members? fuel out ((",".intercalate (renderMembers ms)).toList ++ '\x7d' :: rest)
      = some (ofMembers (out.reverse ++ rereadMembers ms), rest)
  | [], hne, _, _, _, _, _ => absurd rfl hne
  | _ :: _, _, _, 0, hfuel, _, _ => absurd hfuel (Nat.not_lt_zero _)
  | [(n, v)], _, h, fuel + 1, hfuel, out, rest => by
      rw [renderMembers, renderMembers, String.intercalate_singleton, toList_member] at hfuel ⊢
      rw [List.length_append, List.length_cons] at hfuel
      have hread := value?_render v h.2.1 fuel (by omega) ('\x7d' :: rest) (stops_cons (.inr (.inr rfl)) _)
      obtain ⟨body, hbody, hname⟩ := stringBody_quote h.1 (':' :: (v.render.toList ++ '\x7d' :: rest))
      rw [List.append_assoc, List.cons_append, hbody, members?_last hname hread, List.reverse_cons, rereadMembers,
        rereadMembers]
  | (n, v) :: m :: ms, _, h, fuel + 1, hfuel, out, rest => by
      rw [renderMembers, toList_intercalate_cons _ (by simp [renderMembers]), toList_member] at hfuel ⊢
      rw [List.length_append, List.length_append, List.length_cons, List.length_cons] at hfuel
      obtain ⟨more, hmore⟩ : ∃ more, more = (",".intercalate (renderMembers (m :: ms))).toList ++ '\x7d' :: rest :=
        ⟨_, rfl⟩
      have hread := value?_render v h.2.1 fuel (by omega) (',' :: more) (stops_cons (.inl rfl) _)
      have hrest := members?_render (m :: ms) (by simp) h.2.2 fuel (by omega) ((n, reread v) :: out) rest
      obtain ⟨body, hbody, hname⟩ := stringBody_quote h.1 (':' :: (v.render.toList ++ ',' :: more))
      rw [← hmore] at hrest
      rw [List.append_assoc, List.append_assoc, List.cons_append, List.cons_append, ← hmore, hbody,
        members?_next hname hread, hrest, List.reverse_cons, List.append_assoc, rereadMembers.eq_2 n]
      rfl

end

/-- **The text of a value is read as the value.** -/
theorem parse?_render {v : Json} (h : Writable v) : parse? v.render = some (reread v) := by
  have hread := value?_render v h (v.render.length + 1) (by rw [String.length_toList]; omega) [] (by simp [Stops])
  rw [List.append_nil] at hread
  simp [parse?, hread]

/-! ## Objects -/

theorem setMember_of_notMem {α : Type} {name : String} (v : α) {ms : List (String × α)} (h : name ∉ ms.map (·.1)) :
    setMember name v ms = ms ++ [(name, v)] := by
  induction ms with
  | nil => rfl
  | cons m rest ih =>
      rw [List.map_cons, List.mem_cons, not_or] at h
      rw [setMember, if_neg (Ne.symm h.1), ih h.2, List.cons_append]

/-- Members with different names are all kept. -/
theorem foldl_setMember {ms acc : List (String × Json)} (h : ((acc ++ ms).map (·.1)).Nodup) :
    ms.foldl (fun acc m => setMember m.1 m.2 acc) acc = acc ++ ms := by
  induction ms generalizing acc with
  | nil => simp
  | cons m rest ih =>
      have hnew : m.1 ∉ acc.map (·.1) := by
        rw [List.map_append, List.map_cons] at h
        exact fun hmem => (List.nodup_append.1 h).2.2 _ hmem _ (List.mem_cons_self ..) rfl
      have heq : acc ++ [(m.1, m.2)] ++ rest = acc ++ m :: rest := by rw [List.append_assoc, List.singleton_append]
      rw [List.foldl_cons, setMember_of_notMem _ hnew, ih (by rwa [heq]), heq]

theorem map_snd_filterMap_index (ms : List (String × Json)) :
    (ms.filterMap fun m => (indexName? m.1).map fun i => (i, m)).map (·.2)
      = ms.filter fun m => (indexName? m.1).isSome := by
  induction ms with
  | nil => rfl
  | cons m rest ih => cases h : indexName? m.1 <;> simp [h, ih]

/-- Members with different names are put in order and nothing else. -/
theorem ofMembers_perm {ms : List (String × Json)} (h : (ms.map (·.1)).Nodup) :
    ∃ ms', ofMembers ms = object ms' ∧ ms'.Perm ms := by
  have hmerged := @foldl_setMember ms [] h
  rw [List.nil_append] at hmerged
  unfold ofMembers
  simp only [hmerged]
  split_ifs
  · exact ⟨ms, rfl, .rfl⟩
  · refine ⟨_, rfl, .trans (.append_right _ ((List.mergeSort_perm _ _).map _)) ?_⟩
    rw [map_snd_filterMap_index]
    simpa using List.filter_append_perm (fun m : String × Json => (indexName? m.1).isSome) ms

/-- Where no name is an index, they are in order already. -/
theorem ofMembers_of_names {ms : List (String × Json)} (h : (ms.map (·.1)).Nodup)
    (hnames : ∀ m ∈ ms, indexName? m.1 = none) : ofMembers ms = object ms := by
  have hmerged := @foldl_setMember ms [] h
  have hindexed : (ms.filterMap fun m => (indexName? m.1).map fun i => (i, m)) = [] :=
    List.filterMap_eq_nil_iff.2 fun m hm => by rw [hnames m hm, Option.map_none]
  rw [List.nil_append] at hmerged
  unfold ofMembers
  simp only [hmerged, hindexed]
  rfl

end CodeAtlas.Json
