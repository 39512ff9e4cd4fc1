import CodeAtlas.Proofs.Path

set_option autoImplicit false

/-! # Relative paths

Seen from a folder that is not known, a path can climb: a `..` that has no name to take back stays, in front of all
names. So what a relative path comes down to are some steps up and then names, and resolving that once more changes
nothing (`resolveSegments_steps`). The shortest form of a relative path is written from these segments, with a slash at
its end if it had one (`normalize_eq`). -/

namespace CodeAtlas.Path

/-! ## Segments that lead nowhere -/

theorem resolveSegments_skip (climbs : Bool) {s : String} (hs : s = "" ∨ s = ".") (l m : List String) :
    resolveSegments climbs (l ++ s :: m) = resolveSegments climbs (l ++ m) := by
  simp [resolveSegments, push, hs]

/-- A slash at the end adds no segment. -/
@[simp] theorem resolveSegments_append_empty (climbs : Bool) (l : List String) :
    resolveSegments climbs (l ++ [""]) = resolveSegments climbs l := by
  simpa using resolveSegments_skip climbs (.inl rfl) l []

/-! ## Steps up and names -/

theorem foldl_push_names (climbs : Bool) {l : List String} (h : AllNames l) (done : List String) :
    l.foldl (push climbs) done = l.reverse ++ done := by
  induction l generalizing done with
  | nil => rfl
  | cons s rest ih =>
      rw [List.foldl_cons, push_name (h s (List.mem_cons_self ..)),
        ih (fun s' hs' => h s' (List.mem_cons_of_mem _ hs'))]
      simp

/-- Each step up takes back the last name, and stays where no name is left. -/
theorem foldl_push_steps (k : ℕ) {done : List String} (h : AllNames done) (j : ℕ) :
    (List.replicate k "..").foldl (push true) (done ++ List.replicate j "..")
      = done.drop k ++ List.replicate (k - done.length + j) ".." := by
  induction k generalizing done j with
  | zero => simp
  | succ k ih =>
      rw [List.replicate_succ, List.foldl_cons]
      cases done with
      | nil =>
          have hstep : push true (List.replicate j "..") ".." = List.replicate (j + 1) ".." := by
            cases j with
            | zero => rfl
            | succ j => simp [push, List.replicate_succ]
          have hrest := ih AllNames.nil (j + 1)
          rw [List.nil_append] at hrest ⊢
          rw [hstep, hrest]
          simp only [List.drop_nil, List.nil_append, List.length_nil, Nat.sub_zero]
          congr 1
          omega
      | cons s before =>
          have hstep : push true (s :: before ++ List.replicate j "..") ".." = before ++ List.replicate j ".." := by
            simp [push, (h s (List.mem_cons_self ..)).ne_dots]
          rw [hstep, ih fun s' hs' => h s' (List.mem_cons_of_mem _ hs')]
          simp

/-- **Names, steps up and names again:** the steps take back as many names, and those left over stay in front. -/
theorem resolveSegments_steps {dir rest : List String} (hdir : AllNames dir) (k : ℕ) (hrest : AllNames rest) :
    resolveSegments true (dir ++ List.replicate k ".." ++ rest)
      = List.replicate (k - dir.length) ".." ++ dir.take (dir.length - k) ++ rest := by
  have hback : AllNames dir.reverse := fun s hs => hdir s (List.mem_reverse.1 hs)
  have hsteps := foldl_push_steps k hback 0
  rw [List.replicate_zero, List.append_nil, Nat.add_zero, List.length_reverse] at hsteps
  rw [resolveSegments, List.foldl_append, List.foldl_append, foldl_push_names true hdir, List.append_nil, hsteps,
    foldl_push_names true hrest]
  simp [List.drop_reverse]

theorem resolveSegments_resolved (k : ℕ) {l : List String} (h : AllNames l) :
    resolveSegments true (List.replicate k ".." ++ l) = List.replicate k ".." ++ l := by
  simpa using resolveSegments_steps AllNames.nil k h

/-! ## The text of segments -/

/-- What a relative path comes down to. -/
def relativeSegments (p : String) : List String := resolveSegments true (segments p)

/-- Some steps up, and then names. -/
theorem relativeSegments_eq (p : String) :
    ∃ k l, AllNames l ∧ relativeSegments p = List.replicate k ".." ++ l := by
  obtain ⟨hnames, k, hk⟩ := resolveSegments_eq true fun s (hs : s ∈ segments p) => not_slash_of_mem_segments hs
  exact ⟨k, _, hnames, hk⟩

theorem not_slash_of_mem_relativeSegments {p s : String} (h : s ∈ relativeSegments p) : '/' ∉ s.toList :=
  not_slash_of_mem_resolveSegments (fun _ => not_slash_of_mem_segments) s h

theorem ne_empty_of_mem_relativeSegments {p s : String} (h : s ∈ relativeSegments p) : s ≠ "" := by
  obtain ⟨k, l, hl, he⟩ := relativeSegments_eq p
  rcases List.mem_append.1 (he ▸ h) with hs | hs
  · rw [List.eq_of_mem_replicate hs]
    decide
  · exact (hl s hs).ne_empty

/-- A written list of segments is read back, and `.` stands for none. -/
theorem segments_ofNames {l : List String} (h : ∀ s ∈ l, '/' ∉ s.toList) :
    segments (ofNames l) = if l = [] then ["."] else l := by
  split
  · next hl => rw [hl, ofNames_nil, segments_of_no_slash (by decide)]
  · next hl => rw [ofNames_of_ne_nil hl, segments_ofSegments_of_no_slash h hl]

theorem resolveSegments_ofNames_append (climbs : Bool) {l : List String} (h : ∀ s ∈ l, '/' ∉ s.toList)
    (m : List String) :
    resolveSegments climbs (segments (ofNames l) ++ m) = resolveSegments climbs (l ++ m) := by
  rw [segments_ofNames h]
  split
  · next hl => rw [hl, ← resolveSegments_skip climbs (.inr rfl) [] m, List.nil_append, List.singleton_append]
  · rfl

theorem segments_append_slash (p : String) : segments (p ++ "/") = segments p ++ [""] := by
  have hsplit := segments_append p ""
  rwa [String.append_empty, segments_of_no_slash (s := "") (by simp)] at hsplit

/-- The text of segments, none of them empty, ends with no slash. -/
theorem ofNames_eq_append {l : List String} (hslash : ∀ s ∈ l, '/' ∉ s.toList) (hne : ∀ s ∈ l, s ≠ "") :
    ∃ before last, last ≠ "" ∧ '/' ∉ last.toList ∧ ofNames l = before ++ last := by
  by_cases hl : l = []
  · exact ⟨"", ".", by decide, by decide, by rw [hl, ofNames_nil, String.empty_append]⟩
  · obtain ⟨dir, last, rfl⟩ := eq_append_singleton hl
    obtain ⟨before, hbefore⟩ := ofSegments_append_singleton dir
    exact ⟨before, last, hne last (by simp), hslash last (by simp), by rw [ofNames_of_ne_nil hl, hbefore]⟩

/-- The text of segments, none of them empty, does not start with a slash. -/
theorem isAbsolute_ofNames_append {l : List String} (hslash : ∀ s ∈ l, '/' ∉ s.toList) (hne : ∀ s ∈ l, s ≠ "")
    (ending : String) : isAbsolute (ofNames l ++ ending) = false := by
  obtain ⟨before, last, hlast, -, he⟩ := ofNames_eq_append hslash hne
  have hsome : ofNames l ≠ "" := by
    rw [he, Ne, String.append_eq_empty_iff]
    exact fun h => hlast h.2
  rw [isAbsolute_append hsome, ← Bool.not_eq_true, isAbsolute_iff]
  rintro ⟨t, ht⟩
  have hsegs := congrArg segments ht
  rw [segments_slash_append, segments_ofNames hslash] at hsegs
  split at hsegs
  · exact absurd (List.cons_eq_cons.1 hsegs).1 (by decide)
  · exact hne "" (hsegs ▸ List.mem_cons_self ..) rfl

/-- Slashes at the end go, and nothing else. -/
theorem dropTrailingSlashes_append (before : String) {last slashes : String} (hne : last ≠ "")
    (hslash : '/' ∉ last.toList) (hall : ∀ c ∈ slashes.toList, c = '/') :
    dropTrailingSlashes (before ++ last ++ slashes) = before ++ last := by
  have hstop : (last.toList.reverse ++ before.toList.reverse).dropWhile (· == '/')
      = last.toList.reverse ++ before.toList.reverse := by
    cases hr : last.toList.reverse with
    | nil => exact absurd (List.reverse_eq_nil_iff.1 hr) (by simpa using hne)
    | cons c rest =>
        have hc : c ≠ '/' := by
          rintro rfl
          exact hslash (List.mem_reverse.1 (hr ▸ List.mem_cons_self ..))
        simp [hc]
  have hgo : ∀ c ∈ slashes.toList.reverse, (c == '/') = true := fun c hc => by
    simpa using hall c (List.mem_reverse.1 hc)
  rw [dropTrailingSlashes, String.toList_append, String.toList_append, List.reverse_append,
    List.dropWhile_append_of_pos hgo, List.reverse_append, hstop]
  simp [String.ofList_append]

/-! ## The shortest form -/

/-- The slash that a path ends with. -/
def slashAtEnd (p : String) : String := if p.endsWith "/" then "/" else ""

theorem eq_slash_of_mem_slashAtEnd {p : String} : ∀ c ∈ (slashAtEnd p).toList, c = '/' := by
  unfold slashAtEnd
  split <;> simp

/-- **The shortest form of a relative path** writes what it comes down to, and keeps a slash at the end. -/
theorem normalize_eq {p : String} (h : isAbsolute p = false) :
    normalize p = ofNames (relativeSegments p) ++ slashAtEnd p := by
  by_cases hp : p = ""
  · subst hp
    rfl
  · rw [normalize, if_neg hp]
    simp only [h, Bool.not_false, slashAtEnd, relativeSegments]
    cases hl : resolveSegments true (segments p) with
    | nil => cases p.endsWith "/" <;> rfl
    | cons s rest => rw [ofNames_of_ne_nil (by simp)]; simp

theorem isAbsolute_normalize {p : String} (h : isAbsolute p = false) : isAbsolute (normalize p) = false := by
  rw [normalize_eq h]
  exact isAbsolute_ofNames_append (fun _ => not_slash_of_mem_relativeSegments)
    (fun _ => ne_empty_of_mem_relativeSegments) _

/-- The shortest form comes down to the same. -/
theorem relativeSegments_normalize {p : String} (h : isAbsolute p = false) :
    relativeSegments (normalize p) = relativeSegments p := by
  have hslash := fun s (hs : s ∈ relativeSegments p) => not_slash_of_mem_relativeSegments hs
  have hplain : resolveSegments true (segments (ofNames (relativeSegments p))) = relativeSegments p := by
    have hagain := resolveSegments_ofNames_append true hslash []
    obtain ⟨k, l, hl, he⟩ := relativeSegments_eq p
    rw [List.append_nil, List.append_nil] at hagain
    rw [hagain, he, resolveSegments_resolved k hl]
  rw [normalize_eq h, relativeSegments, slashAtEnd]
  split
  · rw [segments_append_slash, resolveSegments_append_empty, hplain]
  · rw [String.append_empty, hplain]

/-- Without slashes at its end it is the text of what the path comes down to. -/
theorem dropTrailingSlashes_normalize {p : String} (h : isAbsolute p = false) :
    dropTrailingSlashes (normalize p) = ofNames (relativeSegments p) := by
  obtain ⟨before, last, hne, hslash, he⟩ := ofNames_eq_append (l := relativeSegments p)
    (fun _ => not_slash_of_mem_relativeSegments) (fun _ => ne_empty_of_mem_relativeSegments)
  rw [normalize_eq h, he, dropTrailingSlashes_append before hne hslash eq_slash_of_mem_slashAtEnd]

/-- A path seen from a relative one is relative, and comes down to what both come down to one after the other. -/
theorem join_relative {p : String} (hp : p ≠ "") (h : isAbsolute p = false) (q : String) :
    isAbsolute (join p q) = false ∧ relativeSegments (join p q) = resolveSegments true (segments p ++ segments q) := by
  by_cases hq : q = ""
  · subst hq
    rw [join, if_neg hp, if_pos rfl, relativeSegments_normalize h, segments_of_no_slash (s := "") (by simp),
      resolveSegments_append_empty]
    exact ⟨isAbsolute_normalize h, rfl⟩
  · have hboth : isAbsolute (p ++ "/" ++ q) = false := by
      rw [String.append_assoc, isAbsolute_append hp, h]
    rw [join, if_neg hp, if_neg hq, relativeSegments_normalize hboth, relativeSegments, segments_append]
    exact ⟨isAbsolute_normalize hboth, rfl⟩

theorem isAbsolute_ofList_cons (c : Char) (rest : List Char) :
    isAbsolute (String.ofList (c :: rest)) = decide (c = '/') := by
  rw [Bool.eq_iff_iff, isAbsolute_iff, decide_eq_true_iff]
  constructor
  · rintro ⟨t, ht⟩
    have hlist : c :: rest = '/' :: t.toList := by simpa using congrArg String.toList ht
    exact (List.cons_eq_cons.1 hlist).1
  · rintro rfl
    exact ⟨String.ofList rest, String.toList_injective (by simp)⟩

/-- Without the slashes at its start a path is relative, and comes down to the same. -/
theorem dropWhile_slash (cs : List Char) :
    isAbsolute (String.ofList (cs.dropWhile (· == '/'))) = false ∧
      relativeSegments (String.ofList (cs.dropWhile (· == '/'))) = relativeSegments (String.ofList cs) := by
  induction cs with
  | nil => exact ⟨by decide, rfl⟩
  | cons c rest ih =>
      by_cases hc : c = '/'
      · subst hc
        have hslash : String.ofList ('/' :: rest) = "/" ++ String.ofList rest :=
          String.toList_injective (by simp)
        have hsame : relativeSegments (String.ofList ('/' :: rest)) = relativeSegments (String.ofList rest) := by
          rw [hslash, relativeSegments, segments_slash_append, relativeSegments]
          exact resolveSegments_skip true (.inl rfl) [] _
        rw [List.dropWhile_cons_of_pos (by rfl), hsame]
        exact ih
      · rw [List.dropWhile_cons_of_neg (by simpa using hc), isAbsolute_ofList_cons]
        exact ⟨by simpa using hc, rfl⟩

end CodeAtlas.Path
