import CodeAtlas.Link
import CodeAtlas.Proofs.Dict
import CodeAtlas.Proofs.RelativePath

set_option autoImplicit false

/-! # The paths that a reference may name

Seen from the folder of the referring file, and from the root unless it starts with a dot, a specifier comes down to
steps up and names. Only what has a name and no step up names a path in the repository, and from each such path others
are tried: the source of a compiled script, an extension added, the index file of a folder. None of them leaves the
repository, each is tried once, and a form is tried for all paths before the next one (`candidates_inside`). -/

namespace CodeAtlas

namespace Text

/-- What is written after a list without a separator goes to its last piece. -/
theorem splitList_append_ending {α : Type} (p : α → Bool) (l : List α) :
    ∃ before last, ∀ m : List α, (∀ c ∈ m, p c = false) → splitList p (l ++ m) = before ++ [last ++ m] := by
  induction l with
  | nil => exact ⟨[], [], fun m hm => by simpa using splitList_of_forall hm⟩
  | cons c rest ih =>
      obtain ⟨before, last, hrest⟩ := ih
      by_cases hc : p c = true
      · refine ⟨[] :: before, last, fun m hm => ?_⟩
        rw [List.cons_append, splitList, if_pos hc, hrest m hm, List.cons_append]
      · cases before with
        | nil =>
            refine ⟨[], c :: last, fun m hm => ?_⟩
            rw [List.cons_append, splitList, if_neg hc, hrest m hm]
            rfl
        | cons w ws =>
            refine ⟨(c :: w) :: ws, last, fun m hm => ?_⟩
            rw [List.cons_append, splitList, if_neg hc, hrest m hm]
            rfl

end Text

namespace Path

/-! ## Paths in the repository -/

/-- A relative path without empty segments, `.` or `..`. -/
structure IsInside (p : String) : Prop where
  ne_empty : p ≠ ""
  relative : isAbsolute p = false
  names : AllNames (segments p)

/-- Names in every segment are enough. -/
theorem isInside_of_names {p : String} (h : AllNames (segments p)) : IsInside p where
  ne_empty := by
    rintro rfl
    exact (h "" (by simp [segments_of_no_slash])).ne_empty rfl
  relative := by
    rw [← Bool.not_eq_true, isAbsolute_iff]
    rintro ⟨t, rfl⟩
    exact (h "" (by simp [segments_slash_append])).ne_empty rfl
  names := h

theorem isInside_ofNames {l : List String} (h : AllNames l) (hl : l ≠ []) : IsInside (ofNames l) :=
  isInside_of_names (by rwa [ofNames_of_ne_nil hl, segments_ofSegments h hl])

/-- What is written after a path without a slash goes to its last segment. -/
theorem segments_append_ending (p : String) :
    ∃ before last, ∀ ending : String, '/' ∉ ending.toList → segments (p ++ ending) = before ++ [last ++ ending] := by
  obtain ⟨before, last, hsplit⟩ := Text.splitList_append_ending (· == '/') p.toList
  refine ⟨before.map String.ofList, String.ofList last, fun ending hslash => ?_⟩
  have hno : ∀ c ∈ ending.toList, (c == '/') = false := by
    intro c hc
    rw [beq_eq_false_iff_ne]
    rintro rfl
    exact hslash hc
  rw [segments, Text.split, String.toList_append, hsplit _ hno]
  simp [String.ofList_append]

theorem isName_of_length {s : String} (hlen : 3 ≤ s.length) (h : '/' ∉ s.toList) : IsName s where
  ne_empty := by rintro rfl; exact absurd hlen (by decide)
  ne_dot := by rintro rfl; exact absurd hlen (by decide)
  ne_dots := by rintro rfl; exact absurd hlen (by decide)
  no_slash := h

theorem endsWith_iff (p ending : String) : p.endsWith ending = true ↔ ∃ stem, p = stem ++ ending := by
  rw [endsWith_iff_suffix]
  constructor
  · rintro ⟨t, ht⟩
    exact ⟨String.ofList t, String.toList_injective (by simpa using ht.symm)⟩
  · rintro ⟨stem, rfl⟩
    exact ⟨stem.toList, by simp⟩

/-- What a name becomes when a dot and more is written after it. -/
theorem IsName.append_ending {name ending : String} (h : IsName name) (hdot : ending.startsWith "." = true)
    (hslash : '/' ∉ ending.toList) : IsName (name ++ ending) := by
  obtain ⟨rest, hrest⟩ := String.startsWith_string_iff.1 hdot
  have hending : ending.toList = '.' :: rest := hrest.symm
  cases hname : name.toList with
  | nil => exact absurd hname h.toList_ne_nil
  | cons c cs =>
      have hlist : (name ++ ending).toList = c :: (cs ++ '.' :: rest) := by simp [hname, hending]
      refine ⟨fun he => ?_, fun he => ?_, fun he => ?_, ?_⟩
      · simp [he] at hlist
      · rw [he] at hlist
        simp at hlist
      · -- only `.` becomes `..`
        rw [he] at hlist
        obtain ⟨rfl, hcs⟩ : '.' = c ∧ ['.'] = cs ++ '.' :: rest := by simpa using hlist
        obtain rfl : cs = [] := by
          have hlen : 1 = cs.length + (rest.length + 1) := by
            rw [← List.length_cons (a := '.'), ← List.length_append, ← hcs, List.length_singleton]
          exact List.length_eq_zero_iff.1 (by omega)
        exact h.ne_dot (String.toList_injective (by simpa using hname))
      · rw [String.toList_append, List.mem_append]
        exact fun hmem => hmem.elim h.no_slash hslash

end Path

namespace Link

open CodeAtlas.Path

/-! ## Extensions -/

/-- A dot, and whatever else has no slash, such as letters and digits. -/
structure IsExtension (e : String) : Prop where
  dot : e.startsWith "." = true
  no_slash : '/' ∉ e.toList

theorem compiledExtensions_fit : ∀ e ∈ compiledExtensions, '/' ∉ e.toList := by decide

theorem sourceExtensions_fit : ∀ e ∈ sourceExtensions, '/' ∉ e.toList ∧ 3 ≤ e.length := by decide

/-! ## Forms -/

/-- How a path that is tried comes from one that is named. -/
inductive Form where
  /-- The path itself. -/
  | literal
  /-- The extension of a compiled script replaced by that of a source. -/
  | source
  /-- An extension added. -/
  | extended
  /-- An index file in the folder. -/
  | index

namespace Form

/-- The forms, in the order they are tried. -/
def all : List Form := [literal, source, extended, index]

/-- The place of a form in that order. -/
def rank : Form → ℕ
  | literal => 0
  | source => 1
  | extended => 2
  | index => 3

/-- Is a path of this form of another one? -/
def Derives (extensions : List String) (base : String) : Form → String → Prop
  | literal, p => p = base
  | source, p => ∃ stem, (∃ e ∈ compiledExtensions, base = stem ++ e) ∧ ∃ e ∈ sourceExtensions, p = stem ++ e
  | extended, p => ∃ e ∈ extensions, p = base ++ e
  | index, p => (∃ e ∈ extensions, p = base ++ "/index" ++ e) ∨ p = base ++ "/__init__.py"

/-- The paths of one form, for several others. -/
def paths (extensions bases : List String) : Form → List String
  | literal => bases
  | source => bases.flatMap fun p => (compiledStem? p).toList.flatMap fun stem => sourceExtensions.map (stem ++ ·)
  | extended => bases.flatMap fun p => extensions.map (p ++ ·)
  | index => bases.flatMap fun p => extensions.map (fun e => p ++ "/index" ++ e) ++ [p ++ "/__init__.py"]

theorem mem_all (form : Form) : form ∈ all := by cases form <;> simp [all]

theorem mem_take_all_iff (form later : Form) : form ∈ all.take later.rank ↔ form.rank < later.rank := by
  cases later <;> cases form <;> simp [all, rank]

theorem mem_drop_all (form : Form) : form ∈ all.drop form.rank := by cases form <;> simp [all, rank]

end Form

theorem eq_of_suffix_of_compiledExtensions : ∀ e ∈ compiledExtensions, ∀ e' ∈ compiledExtensions,
    e.toList <:+ e'.toList → e = e' := by decide

/-- A path has at most one stem. -/
theorem compiledStem?_eq_some_iff (p stem : String) :
    compiledStem? p = some stem ↔ ∃ e ∈ compiledExtensions, p = stem ++ e := by
  have hstem (stem e : String) :
      String.ofList ((stem ++ e).toList.take ((stem ++ e).length - e.length)) = stem := by
    rw [String.toList_append, List.take_left' (by simp [String.length_append, String.length_toList]),
      String.ofList_toList]
  rw [compiledStem?, Option.map_eq_some_iff]
  constructor
  · rintro ⟨e, he, rfl⟩
    obtain ⟨stem, rfl⟩ := (endsWith_iff p e).1 (by simpa using List.find?_some he)
    exact ⟨e, List.mem_of_find?_eq_some he, by rw [hstem]⟩
  · rintro ⟨e, he, rfl⟩
    have hends : (stem ++ e).endsWith e = true := (endsWith_iff _ e).2 ⟨stem, rfl⟩
    cases hfind : compiledExtensions.find? ((stem ++ e).endsWith ·) with
    | none => exact absurd hends (List.find?_eq_none.1 hfind e he)
    | some e' =>
        -- of two extensions at the end of one path, one ends with the other
        have he' := List.mem_of_find?_eq_some hfind
        obtain ⟨stem', hstem'⟩ := (endsWith_iff _ e').1 (by simpa using List.find?_some hfind)
        have hsuffix : e'.toList <:+ (stem ++ e).toList := ⟨stem'.toList, by rw [hstem']; simp⟩
        have hsuffix' : e.toList <:+ (stem ++ e).toList := ⟨stem.toList, by simp⟩
        obtain rfl : e' = e := by
          rcases List.suffix_or_suffix_of_suffix hsuffix hsuffix' with h | h
          · exact eq_of_suffix_of_compiledExtensions e' he' e he h
          · exact (eq_of_suffix_of_compiledExtensions e he e' he' h).symm
        exact ⟨e', rfl, hstem stem e'⟩

theorem Form.mem_paths_iff (extensions bases : List String) (form : Form) (p : String) :
    p ∈ form.paths extensions bases ↔ ∃ base ∈ bases, form.Derives extensions base p := by
  cases form with
  | literal => simp [paths, Derives]
  | source =>
      simp only [paths, Derives, List.mem_flatMap, Option.mem_toList, compiledStem?_eq_some_iff, List.mem_map,
        eq_comm (b := p)]
  | extended => simp [paths, Derives, eq_comm]
  | index => simp [paths, Derives, eq_comm]

theorem candidates_eq (extensions : List String) (specifier fromDir : String) :
    candidates extensions specifier fromDir
      = distinct (Form.all.flatMap (Form.paths extensions (roots specifier fromDir))) := by
  simp [candidates, Form.all, Form.paths]

theorem mem_candidates_iff (extensions : List String) (specifier fromDir p : String) :
    p ∈ candidates extensions specifier fromDir ↔
      ∃ form, ∃ base ∈ roots specifier fromDir, Form.Derives extensions base form p := by
  rw [candidates_eq, Dict.mem_distinct, List.mem_flatMap]
  constructor
  · rintro ⟨form, -, hp⟩
    exact ⟨form, (form.mem_paths_iff ..).1 hp⟩
  · rintro ⟨form, hp⟩
    exact ⟨form, form.mem_all, (form.mem_paths_iff ..).2 hp⟩

/-! ## Where a specifier leads -/

/-- What a specifier comes down to, seen from a folder and, unless it starts with a dot, from the root. -/
def destinations (specifier : String) (dir : List String) : List (List String) :=
  if specifier.startsWith "." then [resolveSegments true (dir ++ segments specifier)]
  else [resolveSegments true (dir ++ segments specifier), resolveSegments true (segments specifier)]

/-- A specifier leads from a folder to names if they are what it comes down to, without a step up. -/
structure LeadsTo (specifier : String) (dir names : List String) : Prop where
  destination : names ∈ destinations specifier dir
  allNames : AllNames names
  ne_nil : names ≠ []

/-- Steps up and names are a path in the repository if there is no step up, and a name. -/
theorem isWithinRoot_iff (k : ℕ) {l : List String} (h : AllNames l) :
    (ofNames (List.replicate k ".." ++ l) ≠ "" ∧ ofNames (List.replicate k ".." ++ l) ≠ "."
      ∧ isWithinRoot (ofNames (List.replicate k ".." ++ l)) = true) ↔ k = 0 ∧ l ≠ [] := by
  cases k with
  | zero =>
      rw [List.replicate_zero, List.nil_append]
      by_cases hl : l = []
      · simp [hl]
      · have hclimbs := not_climbs_ofSegments h hl
        push Not at hclimbs
        rw [ofNames_of_ne_nil hl]
        simp [ofSegments_ne_empty h hl, ofSegments_ne_dot h hl, isWithinRoot, hclimbs, isAbsolute_ofSegments h hl, hl]
  | succ k =>
      refine iff_of_false (fun hin => ?_) (by simp)
      have hclimbs := climbs_ofSegments_dots (List.replicate k ".." ++ l)
      rw [List.replicate_succ, List.cons_append, ofNames_of_ne_nil (by simp)] at hin
      rcases hclimbs with he | hs
      · simp [isWithinRoot, he] at hin
      · simp [isWithinRoot, hs] at hin

/-- From a folder of names, a specifier names the texts of its destinations, as far as they are paths in the
    repository. -/
theorem roots_eq {dir : List String} (hdir : AllNames dir) (specifier : String) :
    roots specifier (ofNames dir) = (distinct ((destinations specifier dir).map ofNames)).filter
      fun p => p ≠ "" && p ≠ "." && isWithinRoot p := by
  have hslash := fun s (hs : s ∈ dir) => (hdir s hs).no_slash
  have hrelative : isAbsolute (ofNames dir) = false := by
    simpa using isAbsolute_ofNames_append hslash (fun s hs => (hdir s hs).ne_empty) ""
  have hne : ofNames dir ≠ "" := by
    by_cases hd : dir = []
    · rw [hd]
      decide
    · rw [ofNames_of_ne_nil hd]
      exact ofSegments_ne_empty hdir hd
  obtain ⟨hjoin, hsegs⟩ := join_relative hne hrelative specifier
  rw [resolveSegments_ofNames_append true hslash] at hsegs
  have hnear : dropTrailingSlashes (normalize (join (ofNames dir) specifier))
      = ofNames (resolveSegments true (dir ++ segments specifier)) := by
    rw [dropTrailingSlashes_normalize hjoin, hsegs]
  obtain ⟨habs, hsame⟩ := dropWhile_slash specifier.toList
  have htop : dropTrailingSlashes (normalize (String.ofList (specifier.toList.dropWhile (· == '/'))))
      = ofNames (resolveSegments true (segments specifier)) := by
    rw [dropTrailingSlashes_normalize habs, hsame, String.ofList_toList, relativeSegments]
  unfold roots destinations
  split <;> simp only [List.map_cons, List.map_nil, hnear, htop]

/-- Every destination is some steps up and then names. -/
theorem destinations_eq {specifier : String} {dir m : List String} (hdir : AllNames dir)
    (h : m ∈ destinations specifier dir) : ∃ k l, AllNames l ∧ m = List.replicate k ".." ++ l := by
  have hslash : ∀ s ∈ dir ++ segments specifier, '/' ∉ s.toList := fun s hs =>
    (List.mem_append.1 hs).elim (fun hs => (hdir s hs).no_slash) not_slash_of_mem_segments
  have hresolved : ∃ l, (∀ s ∈ l, '/' ∉ s.toList) ∧ m = resolveSegments true l := by
    unfold destinations at h
    split at h
    · exact ⟨_, hslash, List.mem_singleton.1 h⟩
    · rcases List.mem_cons.1 h with hm | hm
      · exact ⟨_, hslash, hm⟩
      · exact ⟨_, fun _ => not_slash_of_mem_segments, List.mem_singleton.1 hm⟩
  obtain ⟨l, hl, rfl⟩ := hresolved
  obtain ⟨hnames, k, hk⟩ := resolveSegments_eq true hl
  exact ⟨k, _, hnames, hk⟩

/-- The paths that a specifier names are those of the names that it leads to. -/
theorem mem_roots_iff {dir : List String} (hdir : AllNames dir) (specifier p : String) :
    p ∈ roots specifier (ofNames dir) ↔ ∃ names, LeadsTo specifier dir names ∧ p = ofNames names := by
  rw [roots_eq hdir, List.mem_filter, Dict.mem_distinct, List.mem_map]
  simp only [Bool.and_eq_true, decide_eq_true_eq, and_assoc]
  constructor
  · rintro ⟨⟨m, hm, rfl⟩, hin⟩
    obtain ⟨k, l, hl, rfl⟩ := destinations_eq hdir hm
    obtain ⟨rfl, hne⟩ := (isWithinRoot_iff k hl).1 hin
    rw [List.replicate_zero, List.nil_append] at hm ⊢
    exact ⟨l, ⟨hm, hl, hne⟩, rfl⟩
  · rintro ⟨names, h, rfl⟩
    exact ⟨⟨names, h.destination, rfl⟩, (isWithinRoot_iff 0 h.allNames).2 ⟨rfl, h.ne_nil⟩⟩

/-! ## What is tried -/

/-- A path is tried in a form for a specifier in a folder. -/
def Form.Covers (extensions : List String) (specifier : String) (dir : List String) (form : Form) (p : String) :
    Prop :=
  ∃ names, LeadsTo specifier dir names ∧ form.Derives extensions (ofNames names) p

/-- The first form in which a path is tried. -/
def Form.IsFirst (extensions : List String) (specifier : String) (dir : List String) (form : Form) (p : String) :
    Prop :=
  form.Covers extensions specifier dir p ∧ ∀ earlier : Form, earlier.rank < form.rank →
    ¬ earlier.Covers extensions specifier dir p

section

variable {extensions dir : List String} {specifier p q : String}

theorem Form.mem_paths_roots_iff (hdir : AllNames dir) (form : Form) :
    p ∈ form.paths extensions (roots specifier (ofNames dir)) ↔ form.Covers extensions specifier dir p := by
  rw [Form.mem_paths_iff, Form.Covers]
  constructor
  · rintro ⟨base, hbase, hp⟩
    obtain ⟨names, h, rfl⟩ := (mem_roots_iff hdir ..).1 hbase
    exact ⟨names, h, hp⟩
  · rintro ⟨names, h, hp⟩
    exact ⟨_, (mem_roots_iff hdir ..).2 ⟨names, h, rfl⟩, hp⟩

/-- What is tried is what some form covers. -/
theorem mem_candidates_ofNames_iff (hdir : AllNames dir) :
    p ∈ candidates extensions specifier (ofNames dir) ↔ ∃ form : Form, form.Covers extensions specifier dir p := by
  simp only [mem_candidates_iff, ← Form.mem_paths_iff, Form.mem_paths_roots_iff hdir]

/-- A path of an earlier form is tried before one whose first form is a later one. -/
theorem precedes_of_rank_lt (hdir : AllNames dir) {form later : Form} (hrank : form.rank < later.rank)
    (hp : form.Covers extensions specifier dir p) (hq : later.IsFirst extensions specifier dir q) :
    [p, q].Sublist (candidates extensions specifier (ofNames dir)) := by
  have hsplit := List.take_append_drop later.rank Form.all
  rw [candidates_eq, ← hsplit, List.flatMap_append]
  refine Dict.pair_sublist_distinct_append ?_ ?_ ?_
  · exact List.mem_flatMap.2 ⟨form, (form.mem_take_all_iff later).2 hrank, (form.mem_paths_roots_iff hdir).2 hp⟩
  · exact List.mem_flatMap.2 ⟨later, later.mem_drop_all, (later.mem_paths_roots_iff hdir).2 hq.1⟩
  · intro hmem
    obtain ⟨earlier, hearlier, hq'⟩ := List.mem_flatMap.1 hmem
    exact hq.2 earlier ((earlier.mem_take_all_iff later).1 hearlier) ((earlier.mem_paths_roots_iff hdir).1 hq')

/-- Every form keeps a path in the repository. -/
theorem Form.isInside_of_derives (hext : ∀ e ∈ extensions, IsExtension e) {base : String} (hbase : IsInside base)
    {form : Form} (h : form.Derives extensions base p) : IsInside p := by
  cases form with
  | literal => exact (show p = base from h) ▸ hbase
  | source =>
      obtain ⟨stem, ⟨e, he, rfl⟩, e', he', rfl⟩ := h
      have hslash := compiledExtensions_fit e he
      obtain ⟨hslash', hlong⟩ := sourceExtensions_fit e' he'
      obtain ⟨before, last, hsegs⟩ := segments_append_ending stem
      have hnames := hbase.names
      rw [hsegs e hslash] at hnames
      have hlast := (hnames (last ++ e) (by simp)).no_slash
      refine isInside_of_names ?_
      rw [hsegs e' hslash']
      refine hnames.of_append_left.append (.singleton (isName_of_length ?_ ?_))
      · rw [String.length_append]
        omega
      · rw [String.toList_append, List.mem_append] at hlast ⊢
        exact fun hmem => hmem.elim (fun h => hlast (.inl h)) hslash'
  | extended =>
      obtain ⟨e, he, rfl⟩ := h
      obtain ⟨before, last, hsegs⟩ := segments_append_ending base
      have hnames := hbase.names
      rw [← String.append_empty (s := base), hsegs "" (by simp), String.append_empty] at hnames
      refine isInside_of_names ?_
      rw [hsegs e (hext e he).no_slash]
      exact hnames.of_append_left.append
        (.singleton ((hnames last (by simp)).append_ending (hext e he).dot (hext e he).no_slash))
  | index =>
      have hbelow (name : String) (hname : IsName name) : IsInside (base ++ "/" ++ name) := by
        refine isInside_of_names ?_
        rw [segments_append, segments_of_no_slash hname.no_slash]
        exact hbase.names.append (.singleton hname)
      rcases h with ⟨e, he, rfl⟩ | rfl
      · have hname : IsName "index" := by decide
        have hjoin : base ++ "/index" ++ e = base ++ "/" ++ ("index" ++ e) :=
          String.toList_injective (by simp)
        rw [hjoin]
        exact hbelow _ (hname.append_ending (hext e he).dot (hext e he).no_slash)
      · have hjoin : base ++ "/__init__.py" = base ++ "/" ++ "__init__.py" := String.toList_injective (by simp)
        rw [hjoin]
        exact hbelow _ (by decide)

end

/-- **What is tried stays in the repository, in order.** For every specifier, every folder of names and all extensions,
    each path that is tried is not empty, relative and without empty segments, `.` and `..`; no path is tried twice; what
    is tried is what some form covers; and the paths of one form are tried before all paths whose first form is a later
    one. -/
theorem candidates_inside {extensions dir : List String} (hdir : AllNames dir)
    (hext : ∀ e ∈ extensions, IsExtension e) (specifier : String) :
    (∀ p ∈ candidates extensions specifier (ofNames dir), IsInside p) ∧
    (candidates extensions specifier (ofNames dir)).Nodup ∧
    (∀ p, p ∈ candidates extensions specifier (ofNames dir) ↔
      ∃ form : Form, form.Covers extensions specifier dir p) ∧
    ∀ form later : Form, form.rank < later.rank → ∀ p q, form.Covers extensions specifier dir p →
      later.IsFirst extensions specifier dir q →
        [p, q].Sublist (candidates extensions specifier (ofNames dir)) := by
  refine ⟨fun p hp => ?_, ?_, fun p => mem_candidates_ofNames_iff hdir,
    fun form later hrank p q hp hq => precedes_of_rank_lt hdir hrank hp hq⟩
  · obtain ⟨form, names, hleads, hderives⟩ := (mem_candidates_ofNames_iff hdir).1 hp
    exact form.isInside_of_derives hext (isInside_ofNames hleads.allNames hleads.ne_nil) hderives
  · exact Dict.nodup_distinct _

/-- For a script that may be compiled, its own path is tried first, then its sources, and then what is added to it. -/
theorem candidates_script_inside : (AllNames ["src"] ∧ ∀ e ∈ [".ts"], IsExtension e) ∧
    candidates [".ts"] "./a.js" (ofNames ["src"]) =
      ["src/a.js", "src/a.ts", "src/a.tsx", "src/a.mts", "src/a.cts", "src/a.js.ts", "src/a.js/index.ts",
        "src/a.js/__init__.py"] ∧
    (∀ p ∈ candidates [".ts"] "./a.js" (ofNames ["src"]), IsInside p) ∧
    (candidates [".ts"] "./a.js" (ofNames ["src"])).Nodup := by
  have hdir : AllNames ["src"] := by decide
  have hext : ∀ e ∈ [".ts"], IsExtension e := by
    intro e he
    obtain rfl := List.mem_singleton.1 he
    exact ⟨by decide +kernel, by decide⟩
  obtain ⟨hinside, hnodup, -, -⟩ := candidates_inside hdir hext "./a.js"
  exact ⟨⟨hdir, hext⟩, by decide +kernel, hinside, hnodup⟩

end Link

end CodeAtlas
