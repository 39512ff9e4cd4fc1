import CodeAtlas.Proofs.Candidates

set_option autoImplicit false

/-! # Module names with leading dots

A module name with leading dots is seen from the folder of its file: one dot is that folder, each further one the folder
above, and the parts after the dots are names below. So it leads to one path, or to none if the dots climb out of the
repository or nothing is left (`candidates_modulePath`). -/

namespace CodeAtlas.Link

open CodeAtlas.Path

/-! ## Dots and parts -/

/-- What stands between the dots of a module name. -/
structure IsPart (s : String) : Prop where
  ne_empty : s ≠ ""
  no_dot : '.' ∉ s.toList
  no_slash : '/' ∉ s.toList

theorem IsPart.isName {s : String} (h : IsPart s) : IsName s where
  ne_empty := h.ne_empty
  ne_dot := by rintro rfl; exact h.no_dot (by decide)
  ne_dots := by rintro rfl; exact h.no_dot (by decide)
  no_slash := h.no_slash

theorem allNames_of_isPart {parts : List String} (h : ∀ s ∈ parts, IsPart s) : AllNames parts :=
  fun s hs => (h s hs).isName

/-- The name of the module that the parts lead to from so many folders above a file's own. -/
def relativeModule (climb : ℕ) (parts : List String) : String :=
  String.ofList (List.replicate (climb + 1) '.') ++ ".".intercalate parts

/-- The names that it stands for in a folder. -/
def moduleNames (dir : List String) (climb : ℕ) (parts : List String) : List String :=
  dir.take (dir.length - climb) ++ parts

variable {parts dir : List String} {climb : ℕ}

theorem takeWhile_dot_intercalate (h : ∀ s ∈ parts, IsPart s) :
    (".".intercalate parts).toList.takeWhile (· == '.') = [] := by
  cases parts with
  | nil => rfl
  | cons s rest =>
      obtain ⟨after, hafter⟩ : ∃ after, ".".intercalate (s :: rest) = s ++ after := by
        by_cases hrest : rest = []
        · exact ⟨"", by rw [hrest, String.intercalate_singleton, String.append_empty]⟩
        · exact ⟨"." ++ ".".intercalate rest, by
            rw [String.intercalate_cons_of_ne_nil hrest, String.append_assoc]⟩
      have hs := h s (List.mem_cons_self ..)
      cases hlist : s.toList with
      | nil => exact absurd hlist hs.isName.toList_ne_nil
      | cons c cs =>
          have hc : c ≠ '.' := by
            rintro rfl
            exact hs.no_dot (hlist ▸ List.mem_cons_self ..)
          simp [hafter, hlist, hc]

/-- The leading dots are told apart from the parts. -/
theorem takeWhile_dot_relativeModule (climb : ℕ) (h : ∀ s ∈ parts, IsPart s) :
    (relativeModule climb parts).toList.takeWhile (· == '.') = List.replicate (climb + 1) '.' := by
  rw [relativeModule, String.toList_append, String.toList_ofList,
    List.takeWhile_append_of_pos fun c hc => by simp [List.eq_of_mem_replicate hc], takeWhile_dot_intercalate h,
    List.append_nil]

theorem split_parts (h : ∀ s ∈ parts, IsPart s) :
    (Text.split (· == '.') (".".intercalate parts)).filter (· ≠ "") = parts := by
  by_cases hp : parts = []
  · subst hp
    decide
  · rw [Text.split_intercalate rfl (fun s hs => (h s hs).no_dot) hp,
      filter_ne_empty_of_names (allNames_of_isPart h)]

/-- Each dot after the first is a step up. -/
theorem modulePath_relativeModule (climb : ℕ) (h : ∀ s ∈ parts, IsPart s) :
    modulePath (relativeModule climb parts)
      = (if climb = 0 then "./" else String.join (List.replicate climb "../")) ++ ofSegments parts := by
  have hdrop : String.ofList ((relativeModule climb parts).toList.drop (climb + 1)) = ".".intercalate parts := by
    rw [relativeModule, String.toList_append, String.toList_ofList, List.drop_left' (by simp), String.ofList_toList]
  simp only [modulePath, takeWhile_dot_relativeModule climb h, List.length_replicate, hdrop, split_parts h]
  cases climb <;> simp

theorem segments_steps (k : ℕ) (p : String) :
    segments (String.join (List.replicate k "../") ++ p) = List.replicate k ".." ++ segments p := by
  induction k with
  | zero => simp [String.join]
  | succ k ih =>
      have hstep : String.join (List.replicate (k + 1) "../") ++ p
          = ".." ++ "/" ++ (String.join (List.replicate k "../") ++ p) := by
        rw [List.replicate_succ, String.join_cons, String.append_assoc]
        rfl
      rw [hstep, segments_append, ih, segments_of_no_slash (s := "..") (by decide)]
      rfl

theorem resolveSegments_append_ofSegments (l : List String) {m : List String} (h : AllNames m) :
    resolveSegments true (l ++ segments (ofSegments m)) = resolveSegments true (l ++ m) := by
  by_cases hm : m = []
  · rw [hm, ofSegments_nil, segments_of_no_slash (by simp), resolveSegments_append_empty, List.append_nil]
  · rw [segments_ofSegments h hm]

/-- Seen from a folder, it is the names of the folder, the steps up and the parts. -/
theorem resolveSegments_modulePath (dir : List String) (climb : ℕ) (h : ∀ s ∈ parts, IsPart s) :
    resolveSegments true (dir ++ segments (modulePath (relativeModule climb parts)))
      = resolveSegments true (dir ++ List.replicate climb ".." ++ parts) := by
  rw [modulePath_relativeModule climb h]
  split
  · next hzero =>
      have hhere : "./" ++ ofSegments parts = "." ++ "/" ++ ofSegments parts := rfl
      rw [hzero, hhere, segments_append, segments_of_no_slash (s := ".") (by decide), List.singleton_append,
        resolveSegments_skip true (.inr rfl), resolveSegments_append_ofSegments _ (allNames_of_isPart h)]
      simp
  · rw [segments_steps, ← List.append_assoc, resolveSegments_append_ofSegments _ (allNames_of_isPart h)]

theorem startsWith_dot_modulePath (climb : ℕ) (h : ∀ s ∈ parts, IsPart s) :
    (modulePath (relativeModule climb parts)).startsWith "." = true := by
  rw [modulePath_relativeModule climb h, String.startsWith_string_iff]
  cases climb with
  | zero => exact ⟨'/' :: (ofSegments parts).toList, by simp⟩
  | succ k => exact ⟨_, by simp [List.replicate_succ, String.join_cons]; rfl⟩

/-! ## The one path -/

theorem roots_modulePath (hdir : AllNames dir) (climb : ℕ) (h : ∀ s ∈ parts, IsPart s) :
    roots (modulePath (relativeModule climb parts)) (ofNames dir)
      = if climb ≤ dir.length ∧ moduleNames dir climb parts ≠ [] then [ofNames (moduleNames dir climb parts)]
        else [] := by
  have hnames : AllNames (moduleNames dir climb parts) :=
    AllNames.append (fun s hs => hdir s (List.mem_of_mem_take hs)) (allNames_of_isPart h)
  have hin := isWithinRoot_iff (climb - dir.length) hnames
  rw [Nat.sub_eq_zero_iff_le] at hin
  rw [roots_eq hdir, destinations, if_pos (startsWith_dot_modulePath climb h), resolveSegments_modulePath dir climb h,
    resolveSegments_steps hdir climb (allNames_of_isPart h), List.append_assoc, List.map_singleton]
  change [ofNames (List.replicate (climb - dir.length) ".." ++ moduleNames dir climb parts)].filter _ = _
  split
  · next hstays =>
      have hkeep := hin.2 hstays
      rw [List.filter_eq_self.2 fun p hp => ?_, Nat.sub_eq_zero_of_le hstays.1]
      · rfl
      · rw [List.mem_singleton.1 hp]
        simpa [and_assoc] using hkeep
  · next hleaves =>
      refine List.filter_eq_nil_iff.2 fun p hp hkeep => hleaves (hin.1 ?_)
      rw [List.mem_singleton.1 hp] at hkeep
      simpa [and_assoc] using hkeep

/-- **A relative module name leads to one path or to none.** For all extensions, every folder of names and every module
    name of `climb + 1` dots and any parts: if the dots take back no more names than the folder has and some name is
    left, the path of the names left and the parts is tried first, and what is tried is what comes from that path in one
    of the forms; otherwise nothing is tried. -/
theorem candidates_modulePath (extensions : List String) {dir parts : List String} (hdir : AllNames dir)
    (hparts : ∀ s ∈ parts, IsPart s) (climb : ℕ) :
    (climb ≤ dir.length ∧ moduleNames dir climb parts ≠ [] →
      (candidates extensions (modulePath (relativeModule climb parts)) (ofNames dir)).head?
          = some (ofNames (moduleNames dir climb parts)) ∧
        ∀ p, p ∈ candidates extensions (modulePath (relativeModule climb parts)) (ofNames dir) ↔
          ∃ form, Form.Derives extensions (ofNames (moduleNames dir climb parts)) form p) ∧
    (¬ (climb ≤ dir.length ∧ moduleNames dir climb parts ≠ []) →
      candidates extensions (modulePath (relativeModule climb parts)) (ofNames dir) = []) := by
  have hroots := roots_modulePath hdir climb hparts
  refine ⟨fun hstays => ⟨?_, fun p => ?_⟩, fun hleaves => ?_⟩
  · rw [if_pos hstays] at hroots
    rw [candidates_eq, hroots]
    exact Dict.head?_distinct_cons _ _
  · rw [if_pos hstays] at hroots
    simp [mem_candidates_iff, hroots]
  · rw [if_neg hleaves] at hroots
    rw [candidates_eq, hroots]
    rfl

/-- One folder up from `x/y` there is a path; two folders up from `x` there is none. -/
theorem candidates_modulePath_cousin : (AllNames ["x", "y"] ∧ AllNames ["x"] ∧ ∀ s ∈ ["b", "c"], IsPart s) ∧
    modulePath (relativeModule 1 ["b", "c"]) = "../b/c" ∧
    (candidates [".py"] (modulePath (relativeModule 1 ["b", "c"])) (ofNames ["x", "y"])).head? = some "x/b/c" ∧
    candidates [".py"] (modulePath (relativeModule 2 ["b", "c"])) (ofNames ["x"]) = [] := by
  have hdir : AllNames ["x", "y"] := by decide
  have htop : AllNames ["x"] := by decide
  have hparts : ∀ s ∈ ["b", "c"], IsPart s := by
    intro s hs
    simp only [List.mem_cons, List.not_mem_nil, or_false] at hs
    rcases hs with rfl | rfl <;> exact ⟨by decide, by decide, by decide⟩
  refine ⟨⟨hdir, htop, hparts⟩, by decide +kernel, ?_, ?_⟩
  · exact ((candidates_modulePath [".py"] hdir hparts 1).1 (by decide)).1
  · exact (candidates_modulePath [".py"] htop hparts 2).2 (by decide)

end CodeAtlas.Link
