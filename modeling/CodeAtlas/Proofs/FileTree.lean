import CodeAtlas.FileTree
import CodeAtlas.Proofs.Path

set_option autoImplicit false

/-! # What stands where in a tree of files

`FileTree.at?` is the node that a list of names leads to; the bytes of the files and the places of the
folders are read off it. In a well-formed tree the entries of a folder have names, no two the same, so an
entry is found under its name. A tree is compared with another one by these views only. -/

namespace CodeAtlas.FileTree

open CodeAtlas.Path

/-- What holds of files, and of folders if it holds of their entries, holds of every tree. -/
theorem induction {P : FileTree → Prop} (file : ∀ bytes, P (.file bytes))
    (folder : ∀ size entries, (∀ e ∈ entries, P e.2) → P (.folder size entries)) : ∀ t, P t
  | .file bytes => file bytes
  | .folder size entries => folder size entries fun e he =>
      have : sizeOf e.2 < 1 + sizeOf entries := by
        have hlt := List.sizeOf_lt_of_mem he
        have hpair : sizeOf e = 1 + sizeOf e.1 + sizeOf e.2 := rfl
        omega
      induction file folder e.2
termination_by t => sizeOf t

/-- Entries have names, and different entries of a folder different ones. -/
inductive WellFormed : FileTree → Prop where
  | file (bytes : ByteArray) : WellFormed (.file bytes)
  | folder {size : Nat} {entries : List (String × FileTree)} (names : ∀ e ∈ entries, IsName e.1)
      (distinct : (entries.map (·.1)).Nodup) (inside : ∀ e ∈ entries, WellFormed e.2) :
      WellFormed (.folder size entries)

/-! ## The node at a list of names -/

/-- The node that a list of names leads to. -/
def at? (t : FileTree) (l : List String) : Option FileTree :=
  match t.lookup l with
  | .node u => some u
  | _ => none

/-- The bytes of the file that a list of names leads to. -/
def fileAt? (t : FileTree) (l : List String) : Option ByteArray :=
  match t.at? l with
  | some (.file bytes) => some bytes
  | _ => none

/-- Does a list of names lead to a folder? -/
def isFolderAt (t : FileTree) (l : List String) : Bool :=
  match t.at? l with
  | some (.folder _ _) => true
  | _ => false

@[simp] theorem at?_nil (t : FileTree) : t.at? [] = some t := by
  cases t <;> simp [at?, lookup]

@[simp] theorem at?_file_cons (bytes : ByteArray) (s : String) (l : List String) :
    (file bytes).at? (s :: l) = none := rfl

theorem at?_folder_cons (size : Nat) (entries : List (String × FileTree)) (s : String) (l : List String) :
    (folder size entries).at? (s :: l) = (entries.lookup s).bind (·.at? l) := by
  simp only [at?, lookup]
  cases entries.lookup s <;> rfl

/-- To follow two lists of names is to follow one after the other. -/
theorem at?_append (t : FileTree) (l m : List String) : t.at? (l ++ m) = (t.at? l).bind (·.at? m) := by
  induction l generalizing t with
  | nil => simp
  | cons s rest ih =>
      cases t with
      | file bytes => rfl
      | folder size entries =>
          rw [List.cons_append, at?_folder_cons, at?_folder_cons]
          cases entries.lookup s with
          | none => rfl
          | some u => exact ih u

theorem fileAt?_eq_some_iff (t : FileTree) (l : List String) (bytes : ByteArray) :
    t.fileAt? l = some bytes ↔ t.at? l = some (.file bytes) := by
  unfold fileAt?
  split
  · next b h => simp [h]
  · next h =>
      constructor
      · exact fun he => absurd he (by simp)
      · exact fun he => absurd he (h bytes)

theorem isFolderAt_iff (t : FileTree) (l : List String) :
    t.isFolderAt l = true ↔ ∃ size entries, t.at? l = some (.folder size entries) := by
  unfold isFolderAt
  split
  · next size entries h => simp [h]
  · next h =>
      constructor
      · exact fun he => absurd he (by simp)
      · exact fun ⟨size, entries, he⟩ => absurd he (h size entries)

/-- Above whatever there is stands a folder. -/
theorem isFolderAt_of_append {t : FileTree} {l m : List String} (hm : m ≠ [])
    (h : (t.at? (l ++ m)).isSome) : t.isFolderAt l = true := by
  rw [at?_append] at h
  cases hl : t.at? l with
  | none => simp [hl] at h
  | some u =>
      cases u with
      | file bytes =>
          cases m with
          | nil => exact absurd rfl hm
          | cons s rest => simp [hl] at h
      | folder size entries => exact (isFolderAt_iff t l).2 ⟨size, entries, hl⟩

/-! ## Well-formed trees -/

/-- Where keys do not repeat, look-up finds every entry. -/
theorem lookup_eq_some_iff_mem {α : Type} {l : List (String × α)} (h : (l.map (·.1)).Nodup) (s : String)
    (a : α) : l.lookup s = some a ↔ (s, a) ∈ l := by
  induction l with
  | nil => simp
  | cons e rest ih =>
      obtain ⟨n, b⟩ := e
      rw [List.map_cons, List.nodup_cons] at h
      rw [List.lookup_cons]
      by_cases hs : s = n
      · subst hs
        have hrest : ∀ c, (s, c) ∉ rest := fun c hc => h.1 (List.mem_map.2 ⟨_, hc, rfl⟩)
        simp [hrest, eq_comm]
      · have hbeq : (s == n) = false := by simpa using hs
        simp [hbeq, hs, ih h.2]

namespace WellFormed

theorem nodup_names {size : Nat} {entries : List (String × FileTree)} (h : WellFormed (.folder size entries)) :
    (entries.map (·.1)).Nodup := by
  cases h with
  | folder _ distinct _ => exact distinct

theorem entry {size : Nat} {entries : List (String × FileTree)} (h : WellFormed (.folder size entries))
    {e : String × FileTree} (he : e ∈ entries) : IsName e.1 ∧ WellFormed e.2 := by
  cases h with
  | folder names _ inside => exact ⟨names e he, inside e he⟩

theorem lookup_eq_some_iff {size : Nat} {entries : List (String × FileTree)} (h : WellFormed (.folder size entries))
    (s : String) (u : FileTree) : entries.lookup s = some u ↔ (s, u) ∈ entries :=
  lookup_eq_some_iff_mem h.nodup_names s u

/-- What is found in a well-formed tree is found under names, and is well formed itself. -/
theorem at? {t u : FileTree} (h : WellFormed t) {l : List String} (hu : t.at? l = some u) :
    AllNames l ∧ WellFormed u := by
  induction l generalizing t with
  | nil =>
      rw [at?_nil, Option.some.injEq] at hu
      exact ⟨by simp [AllNames], hu ▸ h⟩
  | cons s rest ih =>
      cases t with
      | file bytes => exact absurd hu (by simp)
      | folder size entries =>
          rw [at?_folder_cons, Option.bind_eq_some_iff] at hu
          obtain ⟨v, hv, hu⟩ := hu
          have he := h.entry ((h.lookup_eq_some_iff s v).1 hv)
          obtain ⟨hnames, hwf⟩ := ih he.2 hu
          exact ⟨List.forall_mem_cons.2 ⟨he.1, hnames⟩, hwf⟩

/-- Below a folder, what names lead to is what all but the first lead to in the entry of the first. -/
theorem at?_cons_iff {size : Nat} {entries : List (String × FileTree)} (h : WellFormed (.folder size entries))
    (s : String) (l : List String) (u : FileTree) :
    (FileTree.folder size entries).at? (s :: l) = some u ↔ ∃ v, (s, v) ∈ entries ∧ v.at? l = some u := by
  rw [at?_folder_cons, Option.bind_eq_some_iff]
  simp only [h.lookup_eq_some_iff]

end WellFormed

/-! ## Writing and deleting -/

/-- What stands at a list of names: a file of some bytes, a folder, or nothing. -/
def standsAt (t : FileTree) (l : List String) : Option (Option ByteArray) :=
  (t.at? l).map fun
    | file bytes => some bytes
    | folder _ _ => none

theorem fileAt?_eq_some_iff_standsAt (t : FileTree) (l : List String) (bytes : ByteArray) :
    t.fileAt? l = some bytes ↔ t.standsAt l = some (some bytes) := by
  rw [fileAt?_eq_some_iff, standsAt]
  cases t.at? l with
  | none => simp
  | some u => cases u <;> simp

theorem isFolderAt_iff_standsAt (t : FileTree) (l : List String) :
    t.isFolderAt l = true ↔ t.standsAt l = some none := by
  rw [isFolderAt_iff, standsAt]
  cases t.at? l with
  | none => simp
  | some u => cases u <;> simp

@[simp] theorem standsAt_file_cons (bytes : ByteArray) (s : String) (l : List String) :
    (file bytes).standsAt (s :: l) = none := rfl

theorem standsAt_folder_cons (size : Nat) (entries : List (String × FileTree)) (s : String) (l : List String) :
    (folder size entries).standsAt (s :: l) = (entries.lookup s).bind (·.standsAt l) := by
  rw [standsAt, at?_folder_cons]
  cases entries.lookup s <;> rfl

/-- Below a file and below nothing there is nothing. -/
theorem standsAt_append_eq_none {t : FileTree} {l m : List String} (h : t.standsAt l ≠ some none) (hm : m ≠ []) :
    t.standsAt (l ++ m) = none := by
  have hnone : t.at? (l ++ m) = none := by
    rw [← Option.not_isSome_iff_eq_none]
    exact fun hsome => h ((isFolderAt_iff_standsAt t l).1 (isFolderAt_of_append hm hsome))
  rw [standsAt, hnone, Option.map_none]

theorem lookup_entry_cons (k : String) (v : FileTree) (rest : List (String × FileTree)) (n : String) :
    ((k, v) :: rest).lookup n = if n = k then some v else rest.lookup n := by
  rw [List.lookup_cons]
  cases h : n == k with
  | true => rw [if_pos (by simpa using h)]
  | false => rw [if_neg (by simpa using h)]

theorem lookup_map_setEntry (entries : List (String × FileTree)) (s : String) (u : FileTree) (n : String) :
    (entries.map fun e => if e.1 == s then (s, u) else e).lookup n
      = if n = s then (entries.lookup s).map fun _ => u else entries.lookup n := by
  induction entries with
  | nil => simp
  | cons e rest ih =>
      obtain ⟨k, v⟩ := e
      have hhead : (if (k, v).1 == s then (s, u) else (k, v)) = (k, if k = s then u else v) := by
        by_cases hk : k = s <;> simp [hk]
      rw [List.map_cons, hhead, lookup_entry_cons, ih, lookup_entry_cons, lookup_entry_cons]
      by_cases hk : k = s <;> by_cases hn : n = s <;> grind

theorem lookup_setEntry (entries : List (String × FileTree)) (s : String) (u : FileTree) (n : String) :
    (setEntry entries s u).lookup n = if n = s then some u else entries.lookup n := by
  unfold setEntry
  cases hs : entries.lookup s with
  | some v =>
      have hany : entries.any (·.1 == s) = true := by
        have hsome : (entries.lookup s).isSome = true := by rw [hs]; rfl
        obtain ⟨e, he, hes⟩ := List.lookup_isSome_iff.1 hsome
        exact List.any_eq_true.2 ⟨e, he, beq_iff_eq.2 (beq_iff_eq.1 hes).symm⟩
      rw [if_pos hany, lookup_map_setEntry, hs, Option.map_some]
  | none =>
      have hany : ¬ entries.any (·.1 == s) = true := fun hany => by
        obtain ⟨e, he, hes⟩ := List.any_eq_true.1 hany
        have hne := List.lookup_eq_none_iff.1 hs e he
        simp_all
      rw [if_neg hany, List.lookup_append, lookup_entry_cons]
      by_cases hn : n = s
      · rw [if_pos hn, if_pos hn, hn, hs, Option.none_or]
      · rw [if_neg hn, if_neg hn, List.lookup_nil, Option.or_none]

theorem lookup_filter_ne (entries : List (String × FileTree)) (s n : String) :
    (entries.filter (·.1 != s)).lookup n = if n = s then none else entries.lookup n := by
  induction entries with
  | nil => simp
  | cons e rest ih =>
      obtain ⟨k, v⟩ := e
      rw [List.filter_cons, lookup_entry_cons]
      by_cases hk : k = s
      · rw [if_neg (by simpa using hk), ih]
        by_cases hn : n = s <;> simp [hn, hk]
      · rw [if_pos (by simpa using hk), lookup_entry_cons, ih]
        by_cases hn : n = k
        · simp [hn, hk]
        · simp [hn]

/-- A file that is placed stands where it was placed, below folders; elsewhere nothing changes. -/
theorem standsAt_place {fresh : Nat} {bytes : ByteArray} {l : List String} :
    ∀ {t t' : FileTree}, place fresh (file bytes) t l = .ok t' → ∀ m, t'.standsAt m =
      if m = l then some (some bytes) else if l <+: m then none else if m <+: l then some none
      else t.standsAt m := by
  induction l with
  | nil =>
      intro t t' h m
      rw [place] at h
      obtain rfl := Except.ok.inj h
      cases m with
      | nil => rfl
      | cons n m => simp
  | cons s rest ih =>
      intro t t' h m
      cases t with
      | file _ => exact absurd h (by simp [place])
      | folder size entries =>
          simp only [place] at h
          cases hchild : place fresh (file bytes) ((entries.lookup s).getD (empty fresh)) rest with
          | error k => simp [hchild] at h
          | ok u =>
              rw [hchild] at h
              obtain rfl := Except.ok.inj h
              cases m with
              | nil => simp [standsAt]
              | cons n m =>
                  rw [standsAt_folder_cons, lookup_setEntry, standsAt_folder_cons]
                  by_cases hn : n = s
                  · subst hn
                    rw [if_pos rfl, Option.bind_some, ih hchild]
                    simp only [List.cons.injEq, true_and, List.cons_prefix_cons]
                    cases hl : entries.lookup n with
                    | some v => simp
                    | none =>
                        cases m with
                        | nil => simp
                        | cons _ _ => simp [empty, standsAt_folder_cons]
                  · simp [hn, Ne.symm hn]

/-- A file is placed below folders only. -/
theorem not_file_above_place {fresh : Nat} {bytes : ByteArray} {l : List String} :
    ∀ {t t' : FileTree}, place fresh (file bytes) t l = .ok t' →
      ∀ m, m <+: l → m ≠ l → ∀ b, t.standsAt m ≠ some (some b) := by
  induction l with
  | nil => exact fun _ m hm hne => absurd (List.prefix_nil.1 hm) hne
  | cons s rest ih =>
      intro t t' h m hm hne b
      cases t with
      | file _ => exact absurd h (by simp [place])
      | folder size entries =>
          cases m with
          | nil => simp [standsAt]
          | cons n m =>
              obtain ⟨rfl, hmrest⟩ := List.cons_prefix_cons.1 hm
              simp only [place] at h
              cases hchild : place fresh (file bytes) ((entries.lookup n).getD (empty fresh)) rest with
              | error k => simp [hchild] at h
              | ok u =>
                  have hrest := ih hchild m hmrest (fun he => hne (by rw [he])) b
                  rw [standsAt_folder_cons]
                  cases hl : entries.lookup n with
                  | none => simp
                  | some v => simpa [hl] using hrest

/-- Below what is removed there is nothing left; elsewhere nothing changes. -/
theorem standsAt_removeAt {l : List String} (hl : l ≠ []) :
    ∀ (t : FileTree) (m : List String), (t.removeAt l).standsAt m = if l <+: m then none else t.standsAt m := by
  induction l with
  | nil => exact absurd rfl hl
  | cons s rest ih =>
      intro t m
      cases t with
      | file bytes =>
          have hsame : (file bytes).removeAt (s :: rest) = file bytes := by cases rest <;> rfl
          rw [hsame]
          cases m with
          | nil => simp
          | cons n m => simp
      | folder size entries =>
          cases rest with
          | nil =>
              rw [removeAt]
              cases m with
              | nil => simp [standsAt]
              | cons n m =>
                  rw [standsAt_folder_cons, lookup_filter_ne, standsAt_folder_cons]
                  by_cases hn : n = s
                  · simp [hn]
                  · simp [hn, Ne.symm hn]
          | cons r rest =>
              cases hv : entries.lookup s with
              | none =>
                  rw [removeAt, hv]
                  cases m with
                  | nil => simp
                  | cons n m =>
                      rw [standsAt_folder_cons]
                      by_cases hn : n = s
                      · simp [hn, hv]
                      · simp [Ne.symm hn]
              | some v =>
                  rw [removeAt, hv]
                  cases m with
                  | nil => simp [standsAt]
                  | cons n m =>
                      simp only [standsAt_folder_cons, lookup_setEntry]
                      by_cases hn : n = s
                      · subst hn
                        simp [hv, ih (by simp) v m]
                      · simp [hn, Ne.symm hn]

/-! ## What stays -/

/-- Below a place where no folder stands there is nothing. -/
theorem standsAt_eq_none_below {t : FileTree} {l m : List String} (hl : t.isFolderAt l = false) (hlm : l <+: m)
    (hm : m ≠ l) : t.standsAt m = none := by
  obtain ⟨k, rfl⟩ := hlm
  refine standsAt_append_eq_none (fun h => ?_) (by simpa using hm)
  rw [(isFolderAt_iff_standsAt t l).2 h] at hl
  cases hl

section Place

variable {fresh : Nat} {t t' : FileTree} {l : List String} {bytes : ByteArray}

theorem fileAt?_place (h : place fresh (file bytes) t l = .ok t') : t'.fileAt? l = some bytes := by
  rw [fileAt?_eq_some_iff_standsAt, standsAt_place h, if_pos rfl]

theorem not_isFolderAt_place (h : place fresh (file bytes) t l = .ok t') : t'.isFolderAt l = false := by
  rw [← Bool.not_eq_true, isFolderAt_iff_standsAt, standsAt_place h, if_pos rfl]
  simp

/-- A file placed where no folder stands leaves the other files. -/
theorem fileAt?_place_of_ne (h : place fresh (file bytes) t l = .ok t') (hl : t.isFolderAt l = false) {m : List String}
    (hm : m ≠ l) : t'.fileAt? m = t.fileAt? m := by
  refine Option.ext fun b => ?_
  rw [fileAt?_eq_some_iff_standsAt, fileAt?_eq_some_iff_standsAt, standsAt_place h, if_neg hm]
  by_cases hlm : l <+: m
  · rw [if_pos hlm, standsAt_eq_none_below hl hlm hm]
  · by_cases hml : m <+: l
    · rw [if_neg hlm, if_pos hml]
      exact iff_of_false (by simp) (not_file_above_place h m hml hm b)
    · rw [if_neg hlm, if_neg hml]

/-- Its folders are the old ones and those above the file. -/
theorem isFolderAt_place_iff (h : place fresh (file bytes) t l = .ok t') (hl : t.isFolderAt l = false) {m : List String}
    (hm : m ≠ l) : t'.isFolderAt m = true ↔ t.isFolderAt m = true ∨ m <+: l := by
  rw [isFolderAt_iff_standsAt, isFolderAt_iff_standsAt, standsAt_place h, if_neg hm]
  by_cases hlm : l <+: m
  · have hml : ¬ m <+: l := fun hml => hm (hml.eq_of_length_le hlm.length_le)
    simp [hlm, hml, standsAt_eq_none_below hl hlm hm]
  · by_cases hml : m <+: l <;> simp [hlm, hml]

end Place

section Remove

variable {t : FileTree} {l : List String}

/-- To delete what is no folder leaves everything else. -/
theorem standsAt_removeAt_of_ne (hne : l ≠ []) (hl : t.isFolderAt l = false) {m : List String} (hm : m ≠ l) :
    (t.removeAt l).standsAt m = t.standsAt m := by
  rw [standsAt_removeAt hne]
  split
  · next hlm => rw [standsAt_eq_none_below hl hlm hm]
  · rfl

theorem fileAt?_removeAt_of_ne (hne : l ≠ []) (hl : t.isFolderAt l = false) {m : List String} (hm : m ≠ l) :
    (t.removeAt l).fileAt? m = t.fileAt? m := by
  refine Option.ext fun b => ?_
  rw [fileAt?_eq_some_iff_standsAt, fileAt?_eq_some_iff_standsAt, standsAt_removeAt_of_ne hne hl hm]

theorem not_isFolderAt_removeAt (hne : l ≠ []) (t : FileTree) : (t.removeAt l).isFolderAt l = false := by
  rw [← Bool.not_eq_true, isFolderAt_iff_standsAt, standsAt_removeAt hne, if_pos (List.prefix_refl l)]
  simp

theorem isFolderAt_removeAt (hne : l ≠ []) (hl : t.isFolderAt l = false) (m : List String) :
    (t.removeAt l).isFolderAt m = t.isFolderAt m := by
  by_cases hm : m = l
  · rw [hm, not_isFolderAt_removeAt hne, hl]
  · rw [Bool.eq_iff_iff, isFolderAt_iff_standsAt, isFolderAt_iff_standsAt, standsAt_removeAt_of_ne hne hl hm]

end Remove

/-! ## Operations on single paths -/

theorem find_eq (t : FileTree) (p : String) : t.find p = t.lookup (absoluteSegments p) := rfl

theorem isFolderAt_eq_false_of_find {t : FileTree} {p : String}
    (h : ∀ size entries, t.find p ≠ .node (.folder size entries)) :
    t.isFolderAt (absoluteSegments p) = false := by
  rw [← Bool.not_eq_true, isFolderAt_iff]
  rintro ⟨size, entries, he⟩
  rw [at?, ← find_eq] at he
  split at he
  · next u hu => exact h size entries (hu.trans (congrArg Found.node (Option.some.inj he)))
  · cases he

/-- What is written is placed where no folder stands. -/
theorem place_of_write {t t' : FileTree} {p : String} {bytes : ByteArray} (h : t.write p bytes = .ok t') :
    t.isFolderAt (absoluteSegments p) = false ∧ place t.size (file bytes) t (absoluteSegments p) = .ok t' := by
  unfold write at h
  split at h
  · split at h
    · cases h
    · next hno =>
        split at h
        · next u hu => exact ⟨isFolderAt_eq_false_of_find hno, hu.trans (congrArg Except.ok (Except.ok.inj h))⟩
        · cases h
  · cases h
  · cases h

theorem fileAt?_write {t t' : FileTree} {p : String} {bytes : ByteArray} (h : t.write p bytes = .ok t') :
    t'.fileAt? (absoluteSegments p) = some bytes := fileAt?_place (place_of_write h).2

/-- Writing a file leaves the others. -/
theorem fileAt?_write_of_ne {t t' : FileTree} {p : String} {bytes : ByteArray} (h : t.write p bytes = .ok t')
    {m : List String} (hm : m ≠ absoluteSegments p) : t'.fileAt? m = t.fileAt? m :=
  fileAt?_place_of_ne (place_of_write h).2 (place_of_write h).1 hm

/-- Moving a file is deleting it and writing its bytes under the other name. -/
theorem write_of_rename {t t' : FileTree} {a b : String} (h : t.rename a b = .ok t') :
    ∃ bytes, t.at? (absoluteSegments a) = some (.file bytes) ∧ (t.remove a).write b bytes = .ok t' := by
  unfold rename at h
  split at h
  · next bytes hfile =>
      refine ⟨bytes, by rw [at?, ← find_eq, hfile], ?_⟩
      split at h
      · cases h
      · exact h
  · cases h
  · cases h

theorem fileAt?_rename {t t' : FileTree} {a b : String} (h : t.rename a b = .ok t') :
    t'.fileAt? (absoluteSegments b) = t.fileAt? (absoluteSegments a) := by
  obtain ⟨bytes, hfile, hwrite⟩ := write_of_rename h
  rw [fileAt?_write hwrite, (fileAt?_eq_some_iff ..).2 hfile]

/-- Moving a file leaves the others. -/
theorem fileAt?_rename_of_ne {t t' : FileTree} {a b : String} (h : t.rename a b = .ok t') {m : List String}
    (ha : m ≠ absoluteSegments a) (hb : m ≠ absoluteSegments b) : t'.fileAt? m = t.fileAt? m := by
  obtain ⟨bytes, hfile, hwrite⟩ := write_of_rename h
  rw [fileAt?_write_of_ne hwrite hb, remove]
  by_cases hroot : absoluteSegments a = []
  · rw [hroot]
    cases t <;> rfl
  · exact fileAt?_removeAt_of_ne hroot (by simp [isFolderAt, hfile]) ha

/-- Where a folder stands, making it changes nothing. -/
theorem makeFolder_eq_self {t : FileTree} {p : String} (h : t.isFolderAt (absoluteSegments p) = true) :
    t.makeFolder p = .ok t := by
  obtain ⟨size, entries, he⟩ := (isFolderAt_iff ..).1 h
  rw [at?, ← find_eq] at he
  unfold makeFolder
  split at he
  · next u hu =>
      obtain rfl := Option.some.inj he
      rw [hu]
  · cases he

/-! ## Reading -/

/-- A file is read where its path leads to it. -/
theorem read_eq_ok_iff {t : FileTree} {p : String} (hp : p.endsWith "/" = false) (bytes : ByteArray) :
    t.read p = .ok bytes ↔ t.fileAt? (absoluteSegments p) = some bytes := by
  rw [fileAt?_eq_some_iff, at?, read, find_eq, hp]
  cases t.lookup (absoluteSegments p) with
  | node u => cases u <;> simp
  | missing => simp
  | belowFile => simp

end CodeAtlas.FileTree
