import CodeAtlas.Path
import CodeAtlas.Scan
import Mathlib.Data.List.Nodup

set_option autoImplicit false

/-! # Paths as lists of names

Below a folder, a file is reached by a list of names: not empty, without a slash, neither `.` nor `..`.
`Path.ofNames` writes such a list as a path from the repository root. Splitting, the parent folder, the
last segment, resolving against the root and the way back from an absolute path are all determined on
lists of names; the lemmas below say how, and later proofs use names only. -/

namespace CodeAtlas

/-! ## Splitting at slashes -/

namespace Text

theorem splitList_of_forall {α : Type} {p : α → Bool} {l : List α} (h : ∀ c ∈ l, p c = false) :
    splitList p l = [l] := by
  induction l with
  | nil => rfl
  | cons c rest ih =>
      rw [splitList, h c (List.mem_cons_self ..), ih fun c' hc' => h c' (List.mem_cons_of_mem _ hc')]
      rfl

theorem splitList_ne_nil {α : Type} (p : α → Bool) (l : List α) : splitList p l ≠ [] := by
  cases l with
  | nil => simp [splitList]
  | cons c rest =>
      rw [splitList]
      split
      · simp
      · split <;> simp

/-- The pieces of two lists with a separator between them. -/
theorem splitList_append {α : Type} {p : α → Bool} {c : α} (hc : p c = true) (a b : List α) :
    splitList p (a ++ c :: b) = splitList p a ++ splitList p b := by
  induction a with
  | nil => simp [splitList, hc]
  | cons d rest ih =>
      rw [List.cons_append, splitList, splitList, ih]
      by_cases hd : p d = true
      · simp [hd]
      · rw [if_neg hd, if_neg hd]
        cases hr : splitList p rest with
        | nil => exact absurd hr (splitList_ne_nil p rest)
        | cons w ws => rfl

/-- No piece holds a separator. -/
theorem not_of_mem_splitList {α : Type} {p : α → Bool} {l : List α} :
    ∀ w ∈ splitList p l, ∀ c ∈ w, p c = false := by
  induction l with
  | nil => simp [splitList]
  | cons c rest ih =>
      rw [splitList]
      split
      · intro w hw
        rcases List.mem_cons.1 hw with rfl | hw
        · simp
        · exact ih w hw
      · next hc =>
          cases hr : splitList p rest with
          | nil => exact absurd hr (splitList_ne_nil p rest)
          | cons w ws =>
              rw [hr] at ih
              intro w' hw'
              rcases List.mem_cons.1 hw' with rfl | hw'
              · intro d hd
                rcases List.mem_cons.1 hd with rfl | hd
                · simpa using hc
                · exact ih w (List.mem_cons_self ..) d hd
              · exact ih w' (List.mem_cons_of_mem _ hw')

theorem split_append {c : Char} {sep : String} (hsep : sep.toList = [c]) (a b : String) :
    split (· == c) (a ++ sep ++ b) = split (· == c) a ++ split (· == c) b := by
  unfold split
  rw [String.toList_append, String.toList_append, hsep, List.append_assoc, List.singleton_append,
    splitList_append (by simp), List.map_append]

theorem split_of_not_mem {c : Char} {s : String} (h : c ∉ s.toList) : split (· == c) s = [s] := by
  rw [split, splitList_of_forall fun d hd => ?_]
  · simp
  · rw [beq_eq_false_iff_ne]
    rintro rfl
    exact h hd

/-- Splitting undoes joining. -/
theorem split_intercalate {c : Char} {sep : String} (hsep : sep.toList = [c]) {l : List String}
    (h : ∀ s ∈ l, c ∉ s.toList) (hl : l ≠ []) : split (· == c) (sep.intercalate l) = l := by
  induction l with
  | nil => exact absurd rfl hl
  | cons s rest ih =>
      have hs := split_of_not_mem (h s (List.mem_cons_self ..))
      by_cases hr : rest = []
      · rw [hr, String.intercalate_singleton, hs]
      · rw [String.intercalate_cons_of_ne_nil hr, split_append hsep, hs,
          ih (fun s' hs' => h s' (List.mem_cons_of_mem _ hs')) hr]
        rfl

end Text

namespace Path

/-! ## Names -/

/-- What an entry of a folder can be called. -/
structure IsName (s : String) : Prop where
  ne_empty : s ≠ ""
  ne_dot : s ≠ "."
  ne_dots : s ≠ ".."
  no_slash : '/' ∉ s.toList

instance (s : String) : Decidable (IsName s) :=
  decidable_of_iff (s ≠ "" ∧ s ≠ "." ∧ s ≠ ".." ∧ '/' ∉ s.toList)
    ⟨fun ⟨a, b, c, d⟩ => ⟨a, b, c, d⟩, fun ⟨a, b, c, d⟩ => ⟨a, b, c, d⟩⟩

/-- Every member of the list is a name. -/
def AllNames (l : List String) : Prop := ∀ s ∈ l, IsName s

instance (l : List String) : Decidable (AllNames l) := inferInstanceAs (Decidable (∀ s ∈ l, IsName s))

theorem AllNames.nil : AllNames [] := by simp [AllNames]

theorem AllNames.singleton {s : String} (h : IsName s) : AllNames [s] := by simpa [AllNames] using h

theorem AllNames.append {l m : List String} (hl : AllNames l) (hm : AllNames m) : AllNames (l ++ m) :=
  fun s hs => (List.mem_append.1 hs).elim (hl s) (hm s)

theorem AllNames.of_append_left {l m : List String} (h : AllNames (l ++ m)) : AllNames l :=
  fun s hs => h s (List.mem_append_left _ hs)

theorem AllNames.of_append_right {l m : List String} (h : AllNames (l ++ m)) : AllNames m :=
  fun s hs => h s (List.mem_append_right _ hs)

theorem IsName.toList_ne_nil {s : String} (h : IsName s) : s.toList ≠ [] := by
  simpa using h.ne_empty

/-! ## Segments -/

theorem segments_append (a b : String) : segments (a ++ "/" ++ b) = segments a ++ segments b :=
  Text.split_append rfl a b

theorem segments_of_no_slash {s : String} (h : '/' ∉ s.toList) : segments s = [s] :=
  Text.split_of_not_mem h

@[simp] theorem ofSegments_nil : ofSegments [] = "" := String.intercalate_nil

@[simp] theorem ofSegments_singleton (s : String) : ofSegments [s] = s := String.intercalate_singleton

theorem ofSegments_append {l m : List String} (hl : l ≠ []) (hm : m ≠ []) :
    ofSegments (l ++ m) = ofSegments l ++ "/" ++ ofSegments m :=
  String.intercalate_append_of_ne_nil hl hm

theorem ofSegments_cons {l : List String} (s : String) (hl : l ≠ []) :
    ofSegments (s :: l) = s ++ "/" ++ ofSegments l :=
  String.intercalate_cons_of_ne_nil hl

theorem segments_ofSegments_of_no_slash {l : List String} (h : ∀ s ∈ l, '/' ∉ s.toList) (hl : l ≠ []) :
    segments (ofSegments l) = l :=
  Text.split_intercalate rfl h hl

theorem segments_ofSegments {l : List String} (h : AllNames l) (hl : l ≠ []) :
    segments (ofSegments l) = l :=
  segments_ofSegments_of_no_slash (fun s hs => (h s hs).no_slash) hl

/-- No segment holds a slash. -/
theorem not_slash_of_mem_segments {p s : String} (h : s ∈ segments p) : '/' ∉ s.toList := by
  intro hmem
  obtain ⟨w, hw, rfl⟩ := List.mem_map.1 h
  simpa using Text.not_of_mem_splitList w hw '/' (by simpa using hmem)

theorem isAbsolute_iff (p : String) : isAbsolute p = true ↔ ∃ t, p = "/" ++ t := by
  rw [isAbsolute, String.startsWith_string_iff]
  constructor
  · rintro ⟨t, ht⟩
    exact ⟨String.ofList t, String.toList_injective (by simpa using ht.symm)⟩
  · rintro ⟨t, rfl⟩
    exact ⟨t.toList, by simp⟩

/-- A path of names has segments to tell it from absolute paths, and from those that climb. -/
theorem head?_segments_ofSegments {l : List String} (h : AllNames l) (hl : l ≠ []) :
    ∃ s, (segments (ofSegments l)).head? = some s ∧ IsName s := by
  rw [segments_ofSegments h hl]
  cases l with
  | nil => exact absurd rfl hl
  | cons s rest => exact ⟨s, rfl, h s (List.mem_cons_self ..)⟩

theorem segments_slash_append (t : String) : segments ("/" ++ t) = "" :: segments t := by
  have hsplit := segments_append "" t
  rwa [String.empty_append, segments_of_no_slash (s := "") (by simp)] at hsplit

theorem isAbsolute_ofSegments {l : List String} (h : AllNames l) (hl : l ≠ []) :
    isAbsolute (ofSegments l) = false := by
  rw [← Bool.not_eq_true, isAbsolute_iff]
  rintro ⟨t, ht⟩
  obtain ⟨s, hs, hn⟩ := head?_segments_ofSegments h hl
  rw [ht, segments_slash_append] at hs
  exact hn.ne_empty (by simpa using hs.symm)

/-! ## Resolving -/

theorem push_name {s : String} (h : IsName s) (climbs : Bool) (done : List String) :
    push climbs done s = s :: done := by
  simp [push, h.ne_empty, h.ne_dot, h.ne_dots]

/-- Names stay, empty segments go. -/
theorem resolveSegments_of_names (climbs : Bool) {l : List String} (h : ∀ s ∈ l, s = "" ∨ IsName s) :
    resolveSegments climbs l = l.filter (· ≠ "") := by
  have hfold : ∀ (l done : List String), (∀ s ∈ l, s = "" ∨ IsName s) →
      l.foldl (push climbs) done = (l.filter (· ≠ "")).reverse ++ done := by
    intro l
    induction l with
    | nil => intro done _; rfl
    | cons s rest ih =>
        intro done h
        have hrest := ih (push climbs done s) fun s' hs' => h s' (List.mem_cons_of_mem _ hs')
        rw [List.foldl_cons, hrest]
        rcases h s (List.mem_cons_self ..) with rfl | hs
        · simp [push]
        · simp [push_name hs, hs.ne_empty]
  rw [resolveSegments, hfold l [] h]
  simp

theorem filter_ne_empty_of_names {l : List String} (h : AllNames l) : l.filter (· ≠ "") = l :=
  List.filter_eq_self.2 fun s hs => by simpa using (h s hs).ne_empty

/-- Pushing leaves nothing but names. -/
theorem allNames_foldl_push {l done : List String} (hl : ∀ s ∈ l, '/' ∉ s.toList) (hd : AllNames done) :
    AllNames (l.foldl (push false) done) := by
  induction l generalizing done with
  | nil => exact hd
  | cons s rest ih =>
      refine ih (fun s' hs' => hl s' (List.mem_cons_of_mem _ hs')) ?_
      unfold push
      split
      · exact hd
      · next hs =>
          push Not at hs
          split
          · cases done with
            | nil => exact hd
            | cons d before =>
                simp only [(hd d (List.mem_cons_self ..)).ne_dots, if_false]
                exact fun s' hs' => hd s' (List.mem_cons_of_mem _ hs')
          · next hdots =>
              intro s' hs'
              rcases List.mem_cons.1 hs' with rfl | hs'
              · exact ⟨hs.1, hs.2, hdots, hl _ (List.mem_cons_self ..)⟩
              · exact hd s' hs'

/-- Resolving leaves nothing but names. -/
theorem allNames_absoluteSegments (p : String) : AllNames (absoluteSegments p) := fun s hs =>
  allNames_foldl_push (fun _ => not_slash_of_mem_segments) .nil s (List.mem_reverse.1 hs)

theorem absolute_eq (p : String) : absolute p = "/" ++ ofSegments (absoluteSegments p) := rfl

/-- An absolute path of names, with further names below it. -/
theorem absoluteSegments_slash {l : List String} (h : AllNames l) :
    absoluteSegments ("/" ++ ofSegments l) = l := by
  rw [absoluteSegments, segments_slash_append]
  by_cases hl : l = []
  · subst hl
    rw [ofSegments_nil, segments_of_no_slash (by simp)]
    rfl
  · rw [segments_ofSegments h hl, resolveSegments_of_names]
    · simpa using filter_ne_empty_of_names h
    · intro s hs
      rcases List.mem_cons.1 hs with rfl | hs
      · exact .inl rfl
      · exact .inr (h s hs)

@[simp] theorem absoluteSegments_absolute (p : String) :
    absoluteSegments (absolute p) = absoluteSegments p := by
  rw [absolute_eq, absoluteSegments_slash (allNames_absoluteSegments p)]

@[simp] theorem absolute_absolute (p : String) : absolute (absolute p) = absolute p := by
  rw [absolute_eq, absoluteSegments_absolute, absolute_eq]

/-- Resolving gives an absolute path that is its own resolution. -/
theorem resolve_eq (root p : String) : resolve root p = "/" ++ ofSegments (absoluteSegments (resolve root p)) := by
  unfold resolve
  split <;> rw [absoluteSegments_absolute, absolute_eq]

/-! ## Below a root -/

/-- Below a root stands what the names below it say. -/
theorem relative_slash {root : String} {l : List String} (h : AllNames l) :
    relative (absolute root) ("/" ++ ofSegments (absoluteSegments root ++ l)) = ofSegments l := by
  have hdrop : ∀ a : List String, dropCommon a (a ++ l) = ([], l) := by
    intro a
    induction a with
    | nil => cases l <;> rfl
    | cons s rest ih => simp [dropCommon, ih]
  rw [relative, absoluteSegments_absolute,
    absoluteSegments_slash ((allNames_absoluteSegments root).append h), hdrop]
  simp

theorem ofSegments_ne_dot {l : List String} (h : AllNames l) (hl : l ≠ []) : ofSegments l ≠ "." := by
  intro he
  obtain ⟨s, hs, hn⟩ := head?_segments_ofSegments h hl
  rw [he, segments_of_no_slash (s := ".") (by decide)] at hs
  exact hn.ne_dot (by simpa using hs.symm)

theorem ofSegments_ne_empty {l : List String} (h : AllNames l) (hl : l ≠ []) : ofSegments l ≠ "" := by
  intro he
  obtain ⟨s, hs, hn⟩ := head?_segments_ofSegments h hl
  rw [he, segments_of_no_slash (s := "") (by simp)] at hs
  exact hn.ne_empty (by simpa using hs.symm)

/-- The first segment of a path that climbs. -/
theorem head?_segments_of_climbs {p : String} (h : p = ".." ∨ p.startsWith "../" = true) :
    (segments p).head? = some ".." := by
  rcases h with rfl | hclimbs
  · rw [segments_of_no_slash (by decide)]
    rfl
  · obtain ⟨t, ht⟩ := String.startsWith_string_iff.1 hclimbs
    have he : p = ".." ++ "/" ++ String.ofList t := String.toList_injective (by simpa using ht.symm)
    rw [he, segments_append, segments_of_no_slash (s := "..") (by decide)]
    rfl

/-- A path of names does not climb. -/
theorem not_climbs_ofSegments {l : List String} (h : AllNames l) (hl : l ≠ []) :
    ¬ (ofSegments l = ".." ∨ (ofSegments l).startsWith "../" = true) := by
  intro hclimbs
  obtain ⟨s, hs, hn⟩ := head?_segments_ofSegments h hl
  rw [head?_segments_of_climbs hclimbs] at hs
  exact hn.ne_dots (by simpa using hs.symm)

theorem toRepository_slash {root : String} {l : List String} (h : AllNames l) (hl : l ≠ []) :
    toRepository (absolute root) ("/" ++ ofSegments (absoluteSegments root ++ l)) = ofSegments l := by
  rw [toRepository, relative_slash h, if_neg (ofSegments_ne_empty h hl), if_neg (not_climbs_ofSegments h hl)]

theorem endsWith_iff_suffix (p ending : String) : p.endsWith ending = true ↔ ending.toList <:+ p.toList := by
  rw [String.endsWith_eq_endsWith_toSlice, String.Slice.endsWith_string_iff, String.copy_toSlice]

/-- A list of names as its folder's names and the last one. -/
theorem eq_append_singleton {l : List String} (hl : l ≠ []) : ∃ dir name, l = dir ++ [name] :=
  ⟨l.dropLast, l.getLast hl, (List.dropLast_append_getLast hl).symm⟩

/-- What ends with a name ends with no slash. -/
theorem not_endsWith_slash_of_name (before : String) {name : String} (h : IsName name) :
    (before ++ name).endsWith "/" = false := by
  rw [← Bool.not_eq_true, endsWith_iff_suffix, String.toList_append]
  intro hsuffix
  change ['/'] <:+ before.toList ++ name.toList at hsuffix
  rcases List.suffix_or_suffix_of_suffix hsuffix (List.suffix_append _ name.toList) with hs | hs
  · exact h.no_slash (hs.subset (by simp))
  · rcases List.suffix_cons_iff.1 hs with hs | hs
    · exact h.no_slash (by simp [hs])
    · exact h.toList_ne_nil (List.suffix_nil.1 hs)

/-- The text of a list of segments ends with the last one. -/
theorem ofSegments_append_singleton (l : List String) :
    ∃ before, ∀ name, ofSegments (l ++ [name]) = before ++ name := by
  by_cases hl : l = []
  · exact ⟨"", fun name => by rw [hl, List.nil_append, ofSegments_singleton, String.empty_append]⟩
  · exact ⟨ofSegments l ++ "/", fun name => by rw [ofSegments_append hl (by simp), ofSegments_singleton]⟩

theorem not_endsWith_slash {p : String} {l : List String} (h : AllNames l) (hl : l ≠ []) :
    (p ++ "/" ++ ofSegments l).endsWith "/" = false := by
  obtain ⟨dir, name, rfl⟩ := eq_append_singleton hl
  obtain ⟨before, hbefore⟩ := ofSegments_append_singleton dir
  rw [hbefore, ← String.append_assoc]
  exact not_endsWith_slash_of_name _ (h name (by simp))

/-- Names below a root, seen from the top of the file system. -/
theorem absoluteSegments_below {root : String} {l : List String} (h : AllNames l) (hl : l ≠ []) :
    absoluteSegments (absolute root ++ "/" ++ ofSegments l) = absoluteSegments root ++ l := by
  by_cases hr : absoluteSegments root = []
  · have hslash : segments "/" = ["", ""] := by decide
    rw [absolute_eq, hr, ofSegments_nil, String.append_empty, absoluteSegments, segments_append,
      segments_ofSegments h hl, hslash, resolveSegments_of_names]
    · simpa using filter_ne_empty_of_names h
    · intro s hs
      rcases List.mem_append.1 hs with hs | hs
      · exact .inl (by simpa using hs)
      · exact .inr (h s hs)
  · have hjoin : absolute root ++ "/" ++ ofSegments l = "/" ++ ofSegments (absoluteSegments root ++ l) := by
      rw [absolute_eq, ofSegments_append hr hl]
      simp only [String.append_assoc]
    rw [hjoin, absoluteSegments_slash ((allNames_absoluteSegments root).append h)]

theorem join_root {root : String} {l : List String} (h : AllNames l) (hl : l ≠ []) :
    join (absolute root) (ofSegments l) = "/" ++ ofSegments (absoluteSegments root ++ l) := by
  have hroot : absolute root ≠ "" := fun he => by
    simpa [absolute_eq] using congrArg String.toList he
  have hq : absolute root ++ "/" ++ ofSegments l ≠ "" := fun he => by
    simpa using congrArg String.toList he
  have habs : isAbsolute (absolute root ++ "/" ++ ofSegments l) = true :=
    (isAbsolute_iff _).2 ⟨ofSegments (absoluteSegments root) ++ "/" ++ ofSegments l, by
      rw [absolute_eq]; simp only [String.append_assoc]⟩
  have hsegs : resolveSegments (!true) (segments (absolute root ++ "/" ++ ofSegments l))
      = absoluteSegments root ++ l := absoluteSegments_below h hl
  rw [join, if_neg hroot, if_neg (ofSegments_ne_empty h hl), normalize, if_neg hq]
  simp only [habs, hsegs, not_endsWith_slash h hl]
  cases hl' : absoluteSegments root ++ l with
  | nil => exact absurd (List.append_eq_nil_iff.1 hl').2 hl
  | cons s rest => simp

/-! ## A name joined to a path -/

theorem resolveSegments_append_name (climbs : Bool) (l : List String) {s : String} (h : IsName s) :
    resolveSegments climbs (l ++ [s]) = resolveSegments climbs l ++ [s] := by
  simp [resolveSegments, push_name h]

/-- Where climbing is kept, what is resolved are the same names, after some steps up. -/
theorem foldl_push_climbs (climbs : Bool) {l done : List String} (hl : ∀ s ∈ l, '/' ∉ s.toList)
    (hd : AllNames done) (k : Nat) :
    ∃ k', l.foldl (push climbs) (done ++ List.replicate k "..")
      = l.foldl (push false) done ++ List.replicate k' ".." := by
  induction l generalizing done k with
  | nil => exact ⟨k, rfl⟩
  | cons s rest ih =>
      have hrest := fun s' hs' => hl s' (List.mem_cons_of_mem _ hs')
      -- one segment changes the names in the same way, and the steps up only where no name is left
      have hstep : ∃ k', push climbs (done ++ List.replicate k "..") s
          = push false done s ++ List.replicate k' ".." := by
        unfold push
        by_cases hskip : s = "" ∨ s = "."
        · exact ⟨k, by rw [if_pos hskip, if_pos hskip]⟩
        · rw [if_neg hskip, if_neg hskip]
          by_cases hdots : s = ".."
          · rw [if_pos hdots, if_pos hdots]
            cases done with
            | cons d before =>
                have hd' := (hd d (List.mem_cons_self ..)).ne_dots
                exact ⟨k, by simp [hd']⟩
            | nil =>
                cases k with
                | succ k => exact ⟨k + 2, by simp [List.replicate_succ]⟩
                | zero => cases climbs with
                  | true => exact ⟨1, rfl⟩
                  | false => exact ⟨0, rfl⟩
          · exact ⟨k, by rw [if_neg hdots, if_neg hdots, List.cons_append]⟩
      obtain ⟨k', hk'⟩ := hstep
      rw [List.foldl_cons, List.foldl_cons, hk']
      refine ih hrest ?_ k'
      exact allNames_foldl_push (l := [s]) (by simpa using hl s (List.mem_cons_self ..)) hd

/-- What is resolved are names after some steps up; without climbing, the names alone. -/
theorem resolveSegments_eq (climbs : Bool) {l : List String} (hl : ∀ s ∈ l, '/' ∉ s.toList) :
    AllNames (resolveSegments false l) ∧
      ∃ k, resolveSegments climbs l = List.replicate k ".." ++ resolveSegments false l := by
  obtain ⟨k, hk⟩ := foldl_push_climbs climbs hl .nil 0
  refine ⟨fun s hs => allNames_foldl_push hl .nil s (List.mem_reverse.1 hs), k, ?_⟩
  rw [List.replicate_zero, List.append_nil] at hk
  rw [resolveSegments, hk, List.reverse_append, List.reverse_replicate, resolveSegments]

/-- Resolving once more from the top of the file system, where there is no climbing, drops the steps up. -/
theorem resolveSegments_resolveSegments (climbs : Bool) {l : List String} (hl : ∀ s ∈ l, '/' ∉ s.toList) :
    resolveSegments false (resolveSegments climbs l) = resolveSegments false l := by
  have hup : ∀ k, (List.replicate k "..").foldl (push false) [] = [] := by
    intro k
    induction k with
    | zero => rfl
    | succ k ih => simpa [List.replicate_succ, push] using ih
  obtain ⟨hnames, k, hk⟩ := resolveSegments_eq climbs hl
  have hagain := resolveSegments_of_names false fun s hs => Or.inr (hnames s hs)
  rw [filter_ne_empty_of_names hnames] at hagain
  rw [hk, resolveSegments, List.foldl_append, hup]
  exact hagain

theorem not_slash_of_mem_resolveSegments {climbs : Bool} {l : List String} (hl : ∀ s ∈ l, '/' ∉ s.toList) :
    ∀ s ∈ resolveSegments climbs l, '/' ∉ s.toList := by
  obtain ⟨hnames, k, hk⟩ := resolveSegments_eq climbs hl
  intro s hs
  rcases List.mem_append.1 (hk ▸ hs) with hs | hs
  · rw [List.eq_of_mem_replicate hs]
    decide
  · exact (hnames s hs).no_slash

theorem isAbsolute_append {p : String} (hp : p ≠ "") (q : String) : isAbsolute (p ++ q) = isAbsolute p := by
  have hlist : p.toList ≠ [] := by simpa using hp
  rw [Bool.eq_iff_iff, isAbsolute, isAbsolute, String.startsWith_string_iff, String.startsWith_string_iff,
    String.toList_append]
  cases hp' : p.toList with
  | nil => exact absurd hp' hlist
  | cons c rest => simp [List.cons_prefix_cons]

/-- A name joined to a path stands at the end of what the path is resolved to. -/
theorem join_name (p : String) {name : String} (h : IsName name) :
    join p name = (if isAbsolute p then "/" else "")
      ++ ofSegments (resolveSegments (!isAbsolute p) (segments p) ++ [name]) := by
  have hsegs : segments name = [name] := segments_of_no_slash h.no_slash
  by_cases hp : p = ""
  · subst hp
    have habs : isAbsolute name = false := by
      simpa using isAbsolute_ofSegments (AllNames.singleton h) (by simp)
    have hname : resolveSegments true [name] = [name] := by
      simpa [resolveSegments] using push_name h true []
    have hends : name.endsWith "/" = false := by simpa using not_endsWith_slash_of_name "" h
    rw [join, if_pos rfl, normalize, if_neg h.ne_empty]
    simp only [habs, hends, hsegs, Bool.not_false, hname]
    simp [isAbsolute, resolveSegments, push, segments_of_no_slash (s := "") (by simp)]
  · have hq : p ++ "/" ++ name ≠ "" := fun he => hp (by simpa using congrArg String.toList he)
    have habs : isAbsolute (p ++ "/" ++ name) = isAbsolute p := by
      rw [String.append_assoc, isAbsolute_append hp]
    rw [join, if_neg hp, if_neg h.ne_empty, normalize, if_neg hq]
    simp only [habs, segments_append, hsegs, resolveSegments_append_name _ _ h, not_endsWith_slash_of_name _ h]
    split
    · next he => exact absurd he (by simp)
    · simp

/-- A name joined to a path names an entry of the folder that the path names. -/
theorem absoluteSegments_join (p : String) {name : String} (h : IsName name) :
    absoluteSegments (join p name) = absoluteSegments p ++ [name] := by
  have hslash := fun s (hs : s ∈ segments p) => not_slash_of_mem_segments hs
  have hsplit : segments (ofSegments (resolveSegments (!isAbsolute p) (segments p) ++ [name]))
      = resolveSegments (!isAbsolute p) (segments p) ++ [name] :=
    segments_ofSegments_of_no_slash (fun s hs => (List.mem_append.1 hs).elim
      (not_slash_of_mem_resolveSegments hslash s) (fun hs => List.mem_singleton.1 hs ▸ h.no_slash)) (by simp)
  have hagain : resolveSegments false (resolveSegments (!isAbsolute p) (segments p) ++ [name])
      = absoluteSegments p ++ [name] := by
    rw [resolveSegments_append_name _ _ h, resolveSegments_resolveSegments _ hslash, absoluteSegments]
  rw [join_name p h, absoluteSegments]
  split
  · -- the empty segment before the first slash is skipped
    rw [segments_slash_append, hsplit]
    exact hagain
  · rw [String.empty_append, hsplit, hagain]

theorem not_endsWith_slash_join (p : String) {name : String} (h : IsName name) :
    (join p name).endsWith "/" = false := by
  obtain ⟨before, hbefore⟩ := ofSegments_append_singleton (resolveSegments (!isAbsolute p) (segments p))
  rw [join_name p h, hbefore, ← String.append_assoc]
  exact not_endsWith_slash_of_name _ h

/-- What is appended to a joined path is appended to its last name. -/
theorem join_append (p : String) {name ext : String} (h : IsName name) (hext : IsName (name ++ ext)) :
    join p name ++ ext = join p (name ++ ext) := by
  obtain ⟨before, hbefore⟩ := ofSegments_append_singleton (resolveSegments (!isAbsolute p) (segments p))
  rw [join_name p h, join_name p hext, hbefore, hbefore]
  simp only [String.append_assoc]

/-! ## The path that a list of names leads to -/

/-- The path of the entry that names lead to; `.` for the root itself. -/
def ofNames (l : List String) : String := if l = [] then "." else ofSegments l

@[simp] theorem ofNames_nil : ofNames [] = "." := rfl

theorem ofNames_of_ne_nil {l : List String} (hl : l ≠ []) : ofNames l = ofSegments l := if_neg hl

theorem ofNames_eq_dot_iff {l : List String} (h : AllNames l) : ofNames l = "." ↔ l = [] := by
  constructor
  · intro he
    by_contra hl
    exact ofSegments_ne_dot h hl (ofNames_of_ne_nil hl ▸ he)
  · rintro rfl
    rfl

/-- Names are resolved to what they name below the root. -/
theorem absoluteSegments_resolve {root : String} {l : List String} (h : AllNames l) (hl : l ≠ []) :
    absoluteSegments (resolve (absolute root) (ofNames l)) = absoluteSegments root ++ l := by
  rw [ofNames_of_ne_nil hl, resolve, isAbsolute_ofSegments h hl, if_neg (by simp), absoluteSegments_absolute,
    absoluteSegments_below h hl]

/-- Different lists of names lead to different paths. -/
theorem ofNames_inj {l m : List String} (hl : AllNames l) (hm : AllNames m) (he : ofNames l = ofNames m) :
    l = m := by
  by_cases hl' : l = []
  · subst hl'
    exact ((ofNames_eq_dot_iff hm).1 he.symm).symm
  · by_cases hm' : m = []
    · subst hm'
      exact (ofNames_eq_dot_iff hl).1 he
    · rw [ofNames_of_ne_nil hl', ofNames_of_ne_nil hm'] at he
      rw [← segments_ofSegments hl hl', he, segments_ofSegments hm hm']

/-- What stands before the last name, read backwards from its slash. -/
def slashBefore (dir : List String) : List Char :=
  if dir = [] then [] else '/' :: (ofSegments dir).toList.reverse

theorem reverse_toList_ofNames (dir : List String) (name : String) :
    (ofNames (dir ++ [name])).toList.reverse = name.toList.reverse ++ slashBefore dir := by
  by_cases hd : dir = []
  · subst hd
    simp [ofNames, slashBefore]
  · rw [ofNames_of_ne_nil (by simp), ofSegments_append hd (by simp), slashBefore, if_neg hd]
    simp

/-- Read backwards, a path begins with the characters of its last name, up to the slash before it. -/
theorem dropWhile_slash_reverse {name : String} (h : IsName name) (rest : List Char) :
    (name.toList.reverse ++ rest).dropWhile (· == '/') = name.toList.reverse ++ rest := by
  cases hr : name.toList.reverse with
  | nil => exact absurd (List.reverse_eq_nil_iff.1 hr) h.toList_ne_nil
  | cons c cs =>
      have hc : c ≠ '/' := by
        rintro rfl
        exact h.no_slash (List.mem_reverse.1 (hr ▸ List.mem_cons_self ..))
      simp [hc]

theorem not_slash_of_mem_reverse {name : String} (h : IsName name) :
    ∀ c ∈ name.toList.reverse, (c != '/') = true := by
  intro c hc
  rw [bne_iff_ne]
  rintro rfl
  exact h.no_slash (List.mem_reverse.1 hc)

/-- The folder of an entry is what all names but the last lead to. -/
theorem dirname_ofNames {dir : List String} {name : String} (hd : AllNames dir) (h : IsName name) :
    dirname (ofNames (dir ++ [name])) = ofNames dir := by
  have hall : AllNames (dir ++ [name]) := hd.append (.singleton h)
  have hdrop : (name.toList.reverse ++ slashBefore dir).dropWhile (· != '/') = slashBefore dir := by
    rw [List.dropWhile_append_of_pos (not_slash_of_mem_reverse h), slashBefore]
    split <;> simp
  have habs : isAbsolute (ofNames (dir ++ [name])) = false := by
    rw [ofNames_of_ne_nil (by simp)]
    exact isAbsolute_ofSegments hall (by simp)
  rw [dirname, reverse_toList_ofNames, dropWhile_slash_reverse h, hdrop, habs]
  by_cases hd' : dir = []
  · subst hd'
    rfl
  · have hne : (ofSegments dir).toList.reverse ≠ ['/'] := fun he => by
      have hslash : ofSegments dir = "/" ++ "" :=
        String.toList_injective (by simpa using congrArg List.reverse he)
      exact absurd ((isAbsolute_iff _).2 ⟨"", hslash⟩) (by simp [isAbsolute_ofSegments hd hd'])
    rw [slashBefore, if_neg hd', List.drop_succ_cons, List.drop_zero, ofNames_of_ne_nil hd']
    split
    · next he =>
        exact absurd (by simpa using he) (ofSegments_ne_empty hd hd')
    · next he => exact absurd he hne
    · rw [List.reverse_reverse, String.ofList_toList]

/-- Read from its end, a path begins with its last name. -/
theorem takeWhile_reverse_ofNames (dir : List String) {name : String} (h : IsName name) :
    (ofNames (dir ++ [name])).toList.reverse.takeWhile (· != '/') = name.toList.reverse := by
  have hstop : (slashBefore dir).takeWhile (· != '/') = [] := by
    rw [slashBefore]
    split <;> simp
  rw [reverse_toList_ofNames, List.takeWhile_append_of_pos (not_slash_of_mem_reverse h), hstop, List.append_nil]

/-- The name of an entry is the last one. -/
theorem basename_ofNames (dir : List String) {name : String} (h : IsName name) :
    basename (ofNames (dir ++ [name])) = name := by
  rw [basename, reverse_toList_ofNames, dropWhile_slash_reverse h, ← reverse_toList_ofNames,
    takeWhile_reverse_ofNames dir h, List.reverse_reverse, String.ofList_toList]

/-! ## Outside a root -/

theorem dropCommon_fst_eq_nil_iff (a b : List String) : (dropCommon a b).1 = [] ↔ a <+: b := by
  induction a generalizing b with
  | nil => cases b <;> simp [dropCommon]
  | cons x as ih =>
      cases b with
      | nil => simp [dropCommon]
      | cons y bs =>
          by_cases hxy : x = y
          · subst hxy
            simp [dropCommon, ih]
          · simp [dropCommon, hxy, List.cons_prefix_cons]

/-- What starts with a step up climbs. -/
theorem climbs_ofSegments_dots (rest : List String) :
    ofSegments (".." :: rest) = ".." ∨ (ofSegments (".." :: rest)).startsWith "../" = true := by
  by_cases hrest : rest = []
  · exact .inl (by rw [hrest, ofSegments_singleton])
  · refine .inr (String.startsWith_string_iff.2 ⟨(ofSegments rest).toList, ?_⟩)
    rw [ofSegments_cons _ hrest]
    simp

/-- What climbs is no path of names. -/
theorem ofSegments_dots_ne_ofNames (rest : List String) {l : List String} (h : AllNames l) :
    ofSegments (".." :: rest) ≠ ofNames l := by
  intro he
  have hhead := head?_segments_of_climbs (climbs_ofSegments_dots rest)
  rw [he] at hhead
  by_cases hl : l = []
  · subst hl
    rw [ofNames_nil, segments_of_no_slash (s := ".") (by decide)] at hhead
    exact absurd hhead (by decide)
  · rw [ofNames_of_ne_nil hl] at hhead
    obtain ⟨s, hs, hn⟩ := head?_segments_ofSegments h hl
    exact hn.ne_dots (Option.some.inj (hs.symm.trans hhead))

/-- The way to what does not lie below a root climbs. -/
theorem relative_outside {root : String} {l : List String} (hl : AllNames l) (h : ¬ absoluteSegments root <+: l) :
    ∃ rest, relative (absolute root) ("/" ++ ofSegments l) = ofSegments (".." :: rest) := by
  rw [relative, absoluteSegments_absolute, absoluteSegments_slash hl]
  rw [← dropCommon_fst_eq_nil_iff] at h
  cases hdrop : dropCommon (absoluteSegments root) l with
  | mk up down =>
      cases up with
      | nil => exact absurd (by rw [hdrop]) h
      | cons s up => exact ⟨List.replicate up.length ".." ++ down, by simp [List.replicate_succ]⟩

/-- From a root the root itself is seen as `.`. -/
theorem toRepository_root (root : String) : toRepository (absolute root) (absolute root) = "." := by
  have hsame := @relative_slash root [] AllNames.nil
  rw [List.append_nil, ← absolute_eq, ofSegments_nil] at hsame
  rw [toRepository, if_pos hsame]

/-- What does not lie below a root stays as it is. -/
theorem toRepository_outside {root : String} {l : List String} (hl : AllNames l) (h : ¬ absoluteSegments root <+: l) :
    toRepository (absolute root) ("/" ++ ofSegments l) = "/" ++ ofSegments l := by
  obtain ⟨rest, hrel⟩ := relative_outside hl h
  have hclimbs := climbs_ofSegments_dots rest
  have hne : ofSegments (".." :: rest) ≠ "" := by
    intro he
    have hhead := head?_segments_of_climbs hclimbs
    rw [he, segments_of_no_slash (s := "") (by simp)] at hhead
    exact absurd hhead (by decide)
  rw [toRepository, hrel, if_neg hne, if_pos hclimbs]

/-- A path that is not strictly below a root is no path of names seen from there, and is taken as the root or as
    an absolute path. -/
theorem not_below {root : String} {l : List String} (hl : AllNames l)
    (h : ¬ ∃ f, f ≠ [] ∧ l = absoluteSegments root ++ f) :
    (∀ m, AllNames m → relative (absolute root) ("/" ++ ofSegments l) ≠ ofNames m) ∧
      (isAbsolute (toRepository (absolute root) ("/" ++ ofSegments l)) = true ∨
        toRepository (absolute root) ("/" ++ ofSegments l) = ".") := by
  by_cases hroot : l = absoluteSegments root
  · have hsame : relative (absolute root) ("/" ++ ofSegments l) = "" := by
      have hrel := @relative_slash root [] AllNames.nil
      rwa [List.append_nil, ← hroot, ofSegments_nil] at hrel
    refine ⟨fun m hm he => ?_, .inr (by rw [hroot, ← absolute_eq, toRepository_root])⟩
    rw [hsame] at he
    by_cases hnil : m = []
    · rw [hnil] at he
      exact absurd he (by decide)
    · rw [ofNames_of_ne_nil hnil] at he
      exact ofSegments_ne_empty hm hnil he.symm
  · have hout : ¬ absoluteSegments root <+: l := by
      rintro ⟨f, rfl⟩
      exact h ⟨f, fun hf => hroot (by rw [hf, List.append_nil]), rfl⟩
    obtain ⟨rest, hrel⟩ := relative_outside hl hout
    refine ⟨fun m hm => hrel ▸ ofSegments_dots_ne_ofNames rest hm, .inl ?_⟩
    rw [toRepository_outside hl hout, isAbsolute_iff]
    exact ⟨_, rfl⟩

end Path

/-! ## Paths of a scan -/

namespace Scan

open CodeAtlas.Path

theorem childPath_ofNames {dir : List String} (hd : AllNames dir) (name : String) :
    childPath (ofNames dir) name = ofNames (dir ++ [name]) := by
  rw [ofNames_of_ne_nil (l := dir ++ [name]) (by simp)]
  by_cases hd' : dir = []
  · subst hd'
    simp [childPath]
  · rw [childPath, if_neg ((ofNames_eq_dot_iff hd).not.2 hd'), ofNames_of_ne_nil hd',
      ofSegments_append hd' (by simp), ofSegments_singleton]

theorem depthOf_ofNames {l : List String} (h : AllNames l) : depthOf (ofNames l) = l.length := by
  by_cases hl : l = []
  · subst hl
    rfl
  · rw [depthOf, if_neg ((ofNames_eq_dot_iff h).not.2 hl), ofNames_of_ne_nil hl, segments_ofSegments h hl]

theorem prefixes_ofNames {l : List String} (h : AllNames l) (hl : l ≠ []) :
    prefixes (ofNames l) = (List.range l.length).map fun i => ofNames (l.take (i + 1)) := by
  rw [prefixes, ofNames_of_ne_nil hl, segments_ofSegments h hl]
  exact List.map_congr_left fun i _ => (ofNames_of_ne_nil (by simp [hl])).symm

/-- The beginnings of a path of names are the paths of the list's beginnings. -/
theorem mem_prefixes_iff {l : List String} (h : AllNames l) (hl : l ≠ []) (p : String) :
    p ∈ prefixes (ofNames l) ↔ ∃ q, q ≠ [] ∧ q <+: l ∧ p = ofNames q := by
  rw [prefixes_ofNames h hl]
  simp only [List.mem_map, List.mem_range]
  constructor
  · rintro ⟨i, hi, rfl⟩
    exact ⟨l.take (i + 1), by simp [hl], List.take_prefix _ _, rfl⟩
  · rintro ⟨q, hq, hql, rfl⟩
    have hlen := List.length_pos_iff.2 hq
    have hle := hql.length_le
    refine ⟨q.length - 1, by omega, ?_⟩
    rw [Nat.sub_add_cancel hlen, ← List.prefix_iff_eq_take.1 hql]

end Scan

end CodeAtlas
