import CodeAtlas.Glob.Basic
import CodeAtlas.Proofs.Scan
import Mathlib.Data.List.DropRight

set_option autoImplicit false

/-! # Patterns of an ignore file

Comments and negations are left out before the slashes at both ends of a line are removed and what is left is trimmed
once more. So a mark that stands after the first slash of a line comes to the start of its pattern, and there a glob
reads it: as a comment that matches nothing, or as a negation that matches what the rest of the pattern does not. These
are the only lines that are not read as positive globs, but for those with nothing but blanks between two slashes
(`readsPositively_iff`). -/

namespace CodeAtlas

namespace Text

/-! ## Trimmed texts -/

theorem not_of_head?_dropWhile {p : Char → Bool} {l : List Char} {c : Char} (h : (l.dropWhile p).head? = some c) :
    p c = false := by
  simpa [h] using List.head?_dropWhile_not p l

/-- Stripped text starts with the first character that is not stripped. -/
theorem head?_stripList (p : Char → Bool) (l : List Char) : (stripList p l).head? = (l.dropWhile p).head? := by
  change ((l.dropWhile p).rdropWhile p).head? = _
  cases hhead : (l.dropWhile p).head? with
  | none => simp [List.head?_eq_none_iff.1 hhead]
  | some c =>
      have hc := not_of_head?_dropWhile hhead
      have hne : (l.dropWhile p).rdropWhile p ≠ [] := by
        rw [Ne, List.rdropWhile_eq_nil_iff]
        exact fun hall => by simp [hall c (List.mem_of_mem_head? hhead)] at hc
      obtain ⟨after, hafter⟩ := List.rdropWhile_prefix p (l.dropWhile p)
      rw [← hafter, List.head?_append_of_ne_nil _ hne] at hhead
      exact hhead

/-- Stripped text ends with a character that is not stripped. -/
theorem not_of_getLast?_stripList {p : Char → Bool} {l : List Char} {c : Char}
    (h : (stripList p l).getLast? = some c) : p c = false := by
  change ((l.dropWhile p).rdropWhile p).getLast? = some c at h
  have hne : (l.dropWhile p).rdropWhile p ≠ [] := by
    rintro he
    simp [he] at h
  rw [List.getLast?_eq_getLast_of_ne_nil hne, Option.some.injEq] at h
  simpa [h] using List.rdropWhile_last_not p (l.dropWhile p) hne

/-- Nothing is stripped of a list that has nothing to strip. -/
theorem stripList_of_forall {p : Char → Bool} {l : List Char} (h : ∀ c ∈ l, p c = false) : stripList p l = l := by
  have hkept : ∀ l : List Char, (∀ c ∈ l, p c = false) → l.dropWhile p = l := fun l hl => by
    cases l with
    | nil => rfl
    | cons c rest => exact List.dropWhile_cons_of_neg (by simp [hl c List.mem_cons_self])
  rw [stripList, hkept l h, hkept l.reverse fun c hc => h c (List.mem_reverse.1 hc), List.reverse_reverse]

/-- The bytes of a text are read as the text. -/
theorem decodeLossy_toUTF8 (s : String) : decodeLossy s.toUTF8 = s := by
  have hvalid : String.fromUTF8? s.toUTF8 = some s := dif_pos s.isValidUTF8
  rw [decodeLossy, hvalid]

theorem startsWith_iff_head? {s start : String} {c : Char} (h : start.toList = [c]) :
    s.startsWith start = true ↔ s.toList.head? = some c := by
  rw [String.startsWith_string_iff, h]
  cases s.toList with
  | nil => simp
  | cons d rest => simp [List.cons_prefix_cons, eq_comm]

end Text

namespace Glob

/-- The glob of a pattern that is read without marks at its start. -/
def positive (pattern : String) : Except Fault Glob :=
  (alternativesOf (unitChars pattern)).map fun alternatives => ⟨alternatives, false⟩

/-- A text begins with a mark that a glob reads. -/
def Marked (cs : List Char) : Prop := cs.head? = some '!' ∨ cs.head? = some '#'

theorem toNat_carrier (u : ℕ) : (Text.carrier u).toNat = 0 ∨ Text.carrierBase ≤ (Text.carrier u).toNat := by
  by_cases hvalid : (Text.carrierBase + (u - 0xd800)).isValidChar
  · rw [Text.carrier, Char.ofNat, dif_pos hvalid]
    exact .inr (Nat.le_add_right Text.carrierBase (u - 0xd800))
  · rw [Text.carrier, Char.ofNat, dif_neg hvalid]
    exact .inl rfl

/-- The first unit of a text is its first character, or stands for half of one. -/
theorem head?_unitChars (c : Char) (rest : List Char) :
    ∃ d, (unitChars (String.ofList (c :: rest))).head? = some d ∧
      (d = c ∨ d.toNat = 0 ∨ Text.carrierBase ≤ d.toNat) := by
  rw [unitChars, String.toList_ofList, List.flatMap_cons]
  split
  · exact ⟨c, rfl, .inl rfl⟩
  · exact ⟨_, rfl, .inr (toNat_carrier _)⟩

theorem not_marked_unitChars {pattern : String} (h : ¬ Marked pattern.toList) : ¬ Marked (unitChars pattern) := by
  cases hlist : pattern.toList with
  | nil => simp [Marked, unitChars, hlist]
  | cons c rest =>
      obtain ⟨d, hd, hsame⟩ := head?_unitChars c rest
      rw [← hlist, String.ofList_toList] at hd
      rw [hlist] at h
      rw [Marked, hd]
      rintro (he | he)
      · obtain rfl := Option.some.inj he
        rcases hsame with rfl | hzero | hhigh
        · exact h (.inl rfl)
        · exact absurd hzero (by decide)
        · exact absurd hhigh (by decide)
      · obtain rfl := Option.some.inj he
        rcases hsame with rfl | hzero | hhigh
        · exact h (.inr rfl)
        · exact absurd hzero (by decide)
        · exact absurd hhigh (by decide)

/-- Without a mark at its start a pattern that compiles is a positive glob. -/
theorem positive_eq_ok_of_compile {pattern : String} (h : ¬ Marked pattern.toList) {g : Glob}
    (hg : compile pattern = .ok g) : positive pattern = .ok g := by
  have hunits := not_marked_unitChars h
  rw [Marked, not_or] at hunits
  have hbangs : (unitChars pattern).takeWhile (· == '!') = [] := by
    cases hcs : unitChars pattern with
    | nil => rfl
    | cons c rest =>
        have hc : c ≠ '!' := by simpa [hcs] using hunits.1
        simp [hc]
  unfold compile at hg
  dsimp only at hg
  split at hg
  · exact absurd hg (by simp)
  · rw [if_neg hunits.2, hbangs] at hg
    exact hg

theorem matcher_eq_ok_iff (pattern : String) (m : String → Bool) :
    matcher pattern = .ok m ↔ ∃ g, compile pattern = .ok g ∧ g.accepts = m := by
  rw [matcher]
  cases compile pattern <;> simp [Except.map]

/-- One segment pattern takes one name by itself. -/
theorem matchSegments_singleton (p : Segment) (name : List Char) : matchSegments [p] [name] = p.test name := by
  cases p <;> simp [matchSegments, Segment.test]

/-- A glob with one pattern for one segment takes a name as its pattern does. -/
theorem accepts_name {g : Glob} {p : Segment} (hg : g.alternatives = [[p]]) {path : String} {name : List Char}
    (hpath : slashSplit (unitChars path) = [name]) : g.accepts path = (p.test name != g.negated) := by
  simp [accepts, hg, hpath, matchSegments_singleton]

end Glob

namespace Scan

/-! ## Lines and what becomes of them -/

/-- The lines that are neither blank nor comment nor negation, trimmed. -/
def ignoreLines (source : String) : List String :=
  ((Text.linesOfEither source).map Text.trim).filter fun line =>
    line ≠ "" && !line.startsWith "#" && !line.startsWith "!"

/-- What a line becomes: without its anchoring and the slash at its end, and trimmed. -/
def patternText (line : String) : String := Text.trim (stripSlashes line)

/-- What stands after the first slash of a line is uncovered if, blanks aside, it starts with a mark, or if there are
    blanks and then only a slash. -/
def IsUncovered (rest : List Char) : Prop :=
  ∃ blanks more : List Char, rest = blanks ++ more ∧ (∀ c ∈ blanks, Text.isBlank c = true) ∧
    (Glob.Marked more ∨ (blanks ≠ [] ∧ more = ['/']))

/-- The slash at the start of a line covers a mark, or covers that the line is blank. -/
def Uncovers (line : String) : Prop := ∃ rest, line.toList = '/' :: rest ∧ IsUncovered rest

/-- A list without one slash at its end. -/
def dropLastSlash (cs : List Char) : List Char := if cs.getLast? = some '/' then cs.dropLast else cs

theorem toList_stripSlashes (line : String) :
    (stripSlashes line).toList
      = dropLastSlash (if line.toList.head? = some '/' then line.toList.drop 1 else line.toList) := by
  rw [stripSlashes, String.toList_ofList, dropLastSlash]

theorem eq_dropLastSlash (cs : List Char) : cs = dropLastSlash cs ∨ cs = dropLastSlash cs ++ ['/'] := by
  unfold dropLastSlash
  split
  · next h => exact .inr (List.dropLast_append_getLast? '/' h).symm
  · exact .inl rfl

theorem dropLastSlash_concat (cs : List Char) : dropLastSlash (cs ++ ['/']) = cs := by
  simp [dropLastSlash]

/-- A character that is no slash stays, with what stands before it. -/
theorem dropLastSlash_append {c : Char} (hc : c ≠ '/') (before after : List Char) :
    ∃ after', dropLastSlash (before ++ c :: after) = before ++ c :: after' := by
  rcases List.eq_nil_or_concat after with rfl | ⟨init, last, rfl⟩
  · exact ⟨[], by simp [dropLastSlash, hc]⟩
  · by_cases hlast : last = '/'
    · refine ⟨init, ?_⟩
      have hconcat : before ++ c :: (init ++ [last]) = (before ++ c :: init) ++ ['/'] := by simp [hlast]
      rw [List.concat_eq_append, hconcat, dropLastSlash_concat]
    · have hlast' : (before ++ c :: (init ++ [last])).getLast? = some last := by
        simp [List.getLast?_append, List.getLast?_cons]
      exact ⟨init ++ [last], by simp [dropLastSlash, hlast', hlast]⟩

/-- What a pattern has to be for its glob to be positive. -/
def IsPlain (pattern : String) : Prop := pattern ≠ "" ∧ ¬ Glob.Marked pattern.toList

/-- A trimmed text is judged by the first of its characters that is not blank. -/
theorem isPlain_trim_iff (s : String) :
    IsPlain (Text.trim s) ↔ ∃ c, (s.toList.dropWhile Text.isBlank).head? = some c ∧ c ≠ '!' ∧ c ≠ '#' := by
  have hhead : (Text.trim s).toList.head? = (s.toList.dropWhile Text.isBlank).head? := by
    rw [Text.trim, String.toList_ofList, Text.head?_stripList]
  have hempty : Text.trim s = "" ↔ (Text.trim s).toList.head? = none := by
    rw [List.head?_eq_none_iff, ← String.toList_inj, String.toList_empty]
  rw [IsPlain, Ne, hempty, Glob.Marked, hhead]
  cases (s.toList.dropWhile Text.isBlank).head? <;> simp

theorem eq_of_marked {cs : List Char} (h : Glob.Marked cs) :
    ∃ c rest, cs = c :: rest ∧ (c = '!' ∨ c = '#') ∧ c ≠ '/' ∧ Text.isBlank c = false := by
  cases cs with
  | nil => simp [Glob.Marked] at h
  | cons c rest =>
      have hc : c = '!' ∨ c = '#' := by simpa [Glob.Marked] using h
      refine ⟨c, rest, rfl, hc, ?_⟩
      rcases hc with rfl | rfl <;> decide

/-- After its first slash, a line that does not end with a blank has a first character for a plain pattern exactly if it
    is not uncovered. -/
theorem plain_dropLastSlash_iff {rest : List Char} (hne : dropLastSlash rest ≠ [])
    (hlast : ∀ c, rest.getLast? = some c → Text.isBlank c = false) :
    (∃ c, ((dropLastSlash rest).dropWhile Text.isBlank).head? = some c ∧ c ≠ '!' ∧ c ≠ '#') ↔ ¬ IsUncovered rest := by
  constructor
  · rintro ⟨c, hhead, hbang, hhash⟩ ⟨blanks, more, rfl, hblanks, hmarked | ⟨-, rfl⟩⟩
    · obtain ⟨d, after, rfl, hd, hslash, hblank⟩ := eq_of_marked hmarked
      obtain ⟨after', hkept⟩ := dropLastSlash_append hslash blanks after
      rw [hkept, List.dropWhile_append_of_pos hblanks, List.dropWhile_cons_of_neg (by simp [hblank]),
        List.head?_cons, Option.some.injEq] at hhead
      exact hd.elim (fun h => hbang (hhead ▸ h)) fun h => hhash (hhead ▸ h)
    · rw [dropLastSlash_concat, List.dropWhile_eq_nil_iff.2 hblanks] at hhead
      simp at hhead
  · intro hcovered
    cases hhead : ((dropLastSlash rest).dropWhile Text.isBlank).head? with
    | none =>
        have hall := List.dropWhile_eq_nil_iff.1 (List.head?_eq_none_iff.1 hhead)
        rcases eq_dropLastSlash rest with hsame | hslash
        · -- then the line would end with a blank
          obtain ⟨c, hc⟩ := Option.ne_none_iff_exists'.1 (mt List.getLast?_eq_none_iff.1 hne)
          have hblank := hall c (List.mem_of_getLast? hc)
          rw [hlast c (by rwa [hsame])] at hblank
          exact absurd hblank (by simp)
        · exact absurd ⟨_, _, hslash, hall, .inr ⟨hne, rfl⟩⟩ hcovered
    | some c =>
        refine ⟨c, rfl, ?_⟩
        by_contra hmark
        rw [← not_or, not_not] at hmark
        obtain ⟨ending, hrest⟩ : ∃ ending, rest = dropLastSlash rest ++ ending := by
          rcases eq_dropLastSlash rest with hsame | hslash
          · exact ⟨[], by rw [List.append_nil, ← hsame]⟩
          · exact ⟨_, hslash⟩
        refine hcovered ⟨(dropLastSlash rest).takeWhile Text.isBlank,
          (dropLastSlash rest).dropWhile Text.isBlank ++ ending, ?_, fun c hc => List.mem_takeWhile_imp hc, .inl ?_⟩
        · rw [← List.append_assoc, List.takeWhile_append_dropWhile]
          exact hrest
        · rw [Glob.Marked, List.head?_append, hhead]
          simpa using hmark

/-- What is known of a line that holds a pattern. -/
theorem of_mem_ignoreLines {source line : String} (h : line ∈ ignoreLines source) :
    line ≠ "" ∧ ¬ Glob.Marked line.toList ∧ (∀ c, line.toList.head? = some c → Text.isBlank c = false) ∧
      ∀ c, line.toList.getLast? = some c → Text.isBlank c = false := by
  obtain ⟨hmem, hkept⟩ := List.mem_filter.1 h
  obtain ⟨x, -, rfl⟩ := List.mem_map.1 hmem
  simp only [Bool.and_eq_true, decide_eq_true_eq, Bool.not_eq_true', ← Bool.not_eq_true,
    Text.startsWith_iff_head? (show "#".toList = ['#'] from rfl),
    Text.startsWith_iff_head? (show "!".toList = ['!'] from rfl)] at hkept
  refine ⟨hkept.1.1, fun hmark => hmark.elim hkept.2 hkept.1.2, fun c hc => ?_, fun c hc => ?_⟩
  · rw [Text.trim, String.toList_ofList, Text.head?_stripList] at hc
    exact Text.not_of_head?_dropWhile hc
  · rw [Text.trim, String.toList_ofList] at hc
    exact Text.not_of_getLast?_stripList hc

/-- A line becomes a plain pattern exactly if its first slash covers nothing. -/
theorem isPlain_patternText_iff {source line : String} (h : line ∈ ignoreLines source) (hne : stripSlashes line ≠ "") :
    IsPlain (patternText line) ↔ ¬ Uncovers line := by
  obtain ⟨hsome, hmark, hfirst, hlast⟩ := of_mem_ignoreLines h
  have hlist : (stripSlashes line).toList ≠ [] := by simpa using hne
  rw [toList_stripSlashes] at hlist
  rw [patternText, isPlain_trim_iff, toList_stripSlashes]
  cases hline : line.toList with
  | nil => exact absurd (String.toList_injective (by simpa using hline)) hsome
  | cons c rest =>
      rw [hline] at hmark hfirst hlast hlist
      by_cases hslash : c = '/'
      · subst hslash
        simp only [List.head?_cons, if_true, List.drop_succ_cons, List.drop_zero] at hlist ⊢
        have hend : ∀ c, rest.getLast? = some c → Text.isBlank c = false := fun c hc =>
          hlast c (by rw [List.getLast?_cons, hc]; rfl)
        rw [plain_dropLastSlash_iff hlist hend, Uncovers, hline]
        simp
      · -- the first character stays the first one
        obtain ⟨after, hafter⟩ := dropLastSlash_append hslash [] rest
        rw [List.nil_append, List.nil_append] at hafter
        simp only [Glob.Marked, List.head?_cons, Option.some.injEq, not_or] at hmark
        refine iff_of_true ⟨c, by simp [hslash, hafter, hfirst c rfl], hmark⟩ ?_
        rintro ⟨rest', hrest', -⟩
        exact hslash (List.cons_eq_cons.1 (hline ▸ hrest')).1

/-- An uncovered line is not dropped. -/
theorem stripSlashes_ne_empty_of_uncovers {line : String} (h : Uncovers line) : stripSlashes line ≠ "" := by
  obtain ⟨rest, hline, blanks, more, rfl, -, hmore⟩ := h
  rw [Ne, ← String.toList_inj, toList_stripSlashes, hline, String.toList_empty]
  simp only [List.head?_cons, if_true, List.drop_succ_cons, List.drop_zero]
  rcases hmore with hmarked | ⟨hne, rfl⟩
  · obtain ⟨c, after, rfl, -, hslash, -⟩ := eq_of_marked hmarked
    obtain ⟨after', hkept⟩ := dropLastSlash_append hslash blanks after
    simp [hkept]
  · rwa [dropLastSlash_concat]

/-! ## The file -/

/-- The text of the ignore file in a root; empty if it cannot be read. -/
def ignoreText (disk : FileTree) (root : String) : String :=
  match disk.read (Path.join root ".gitignore") with
  | .ok bytes => Text.decodeLossy bytes
  | .error _ => ""

theorem readGitignore_eq (disk : FileTree) (root : String) :
    readGitignore disk root = ignorePatterns (ignoreText disk root) := by
  have hnone : ignorePatterns "" = [] := by decide +kernel
  rw [readGitignore, ignoreText]
  cases disk.read (Path.join root ".gitignore") with
  | ok bytes => rfl
  | error _ => exact hnone.symm

theorem mem_ignorePatterns_iff (source p : String) :
    p ∈ ignorePatterns source ↔ p ≠ "" ∧ ∃ line ∈ ignoreLines source, stripSlashes line = p := by
  change p ∈ ((ignoreLines source).map stripSlashes).filter (· ≠ "") ↔ _
  rw [List.mem_filter, List.mem_map, and_comm, decide_eq_true_iff]

/-- The ignore file in a root is read as positive globs: every pattern is plain once it is trimmed, and in the filters
    of a scanner, every matcher is the positive glob of what a line becomes, and a path is left out for the file only if
    that of some line matches. -/
structure ReadsPositively (options : Options) (disk : FileTree) (root : String) : Prop where
  patterns : ∀ p ∈ readGitignore disk root, IsPlain (Text.trim p)
  matchers : ∀ s f, Scanner.ofOptions Glob.matcher options = .ok s → s.filters disk root = .ok f → ∀ m ∈ f.ignore,
    ∃ line ∈ ignoreLines (ignoreText disk root), ∃ g, Glob.positive (patternText line) = .ok g ∧ m = g.accepts
  matched : ∀ s f, Scanner.ofOptions Glob.matcher options = .ok s → s.filters disk root = .ok f →
    ∀ path, f.refuses? path = some .gitignore →
      ∃ line ∈ ignoreLines (ignoreText disk root), ∃ g, Glob.positive (patternText line) = .ok g ∧ g.accepts path = true

variable {options : Options} {disk : FileTree} {root path : String} {s : Scanner} {f : Filters}

theorem glob_eq_of_ofOptions {glob : String → Except Fault Matcher} (h : Scanner.ofOptions glob options = .ok s) :
    s.glob = glob := by
  unfold Scanner.ofOptions at h
  cases hskip : compileAll glob options.skipPatterns <;> rw [hskip] at h
  · exact absurd h (by simp [Except.map])
  · rw [← Except.ok.inj h]

/-- A matcher is the glob of what a line becomes. -/
theorem exists_line_of_mem_ignore (hs : Scanner.ofOptions Glob.matcher options = .ok s)
    (hf : s.filters disk root = .ok f) {m : Matcher} (hm : m ∈ f.ignore) :
    ∃ line ∈ ignoreLines (ignoreText disk root), stripSlashes line ≠ "" ∧
      ∃ g, Glob.compile (patternText line) = .ok g ∧ g.accepts = m := by
  rw [Scanner.filters, glob_eq_of_ofOptions hs] at hf
  cases hcompile : compileAll Glob.matcher (s.ignored disk root) <;> rw [hcompile] at hf
  · exact absurd hf (by simp [Except.map])
  next ms =>
    obtain rfl := Except.ok.inj hf
    obtain ⟨t, ht, hmatcher⟩ := exists_of_mem_compileAll hcompile hm
    obtain ⟨hmem, -⟩ := List.mem_filter.1 ht
    obtain ⟨p, hp, rfl⟩ := List.mem_map.1 hmem
    have hread : p ∈ readGitignore disk root := by
      unfold Scanner.ignored at hp
      split at hp
      · exact hp
      · simp at hp
    rw [readGitignore_eq] at hread
    obtain ⟨hne, line, hline, rfl⟩ := (mem_ignorePatterns_iff ..).1 hread
    exact ⟨line, hline, hne, (Glob.matcher_eq_ok_iff ..).1 hmatcher⟩

/-- What is left out for the ignore file is matched by one of its globs. -/
theorem exists_matcher_of_refuses? (h : f.refuses? path = some .gitignore) : ∃ m ∈ f.ignore, m path = true := by
  unfold Filters.refuses? at h
  split at h
  · simp at h
  · split at h
    · next hany => exact List.any_eq_true.1 hany
    · simp at h

/-- **Where an ignore file is read as positive globs.** For all options, disks and roots, that is so exactly if no line
    that is neither blank nor comment nor negation hides, after its first slash and perhaps blanks, a mark or its end. -/
theorem readsPositively_iff (options : Options) (disk : FileTree) (root : String) :
    ReadsPositively options disk root ↔ ∀ line ∈ ignoreLines (ignoreText disk root), ¬ Uncovers line := by
  constructor
  · intro h line hline huncovers
    have hne := stripSlashes_ne_empty_of_uncovers huncovers
    have hplain := h.patterns (stripSlashes line) (by
      rw [readGitignore_eq]
      exact (mem_ignorePatterns_iff ..).2 ⟨hne, line, hline, rfl⟩)
    exact (isPlain_patternText_iff hline hne).1 hplain huncovers
  · intro h
    have hmatchers : ∀ s f, Scanner.ofOptions Glob.matcher options = .ok s → s.filters disk root = .ok f →
        ∀ m ∈ f.ignore, ∃ line ∈ ignoreLines (ignoreText disk root),
          ∃ g, Glob.positive (patternText line) = .ok g ∧ m = g.accepts := by
      intro s f hs hf m hm
      obtain ⟨line, hline, hne, g, hg, rfl⟩ := exists_line_of_mem_ignore hs hf hm
      have hplain := (isPlain_patternText_iff hline hne).2 (h line hline)
      exact ⟨line, hline, g, Glob.positive_eq_ok_of_compile hplain.2 hg, rfl⟩
    refine ⟨fun p hp => ?_, hmatchers, fun s f hs hf path hpath => ?_⟩
    · rw [readGitignore_eq] at hp
      obtain ⟨hne, line, hline, rfl⟩ := (mem_ignorePatterns_iff ..).1 hp
      exact (isPlain_patternText_iff hline hne).2 (h line hline)
    · obtain ⟨m, hm, hpasses⟩ := exists_matcher_of_refuses? hpath
      obtain ⟨line, hline, g, hg, rfl⟩ := hmatchers s f hs hf m hm
      exact ⟨line, hline, g, hg, hpasses⟩

/-- The one line `/!keep.py` leaves out a file that its text does not match, and not the one that it does. -/
theorem not_readsPositively_hiddenNegation :
    let disk : FileTree :=
      .folder 0 [("r", .folder 0 [(".gitignore", .file "/!keep.py\n".toUTF8), ("main.py", .file "".toUTF8)])]
    let options : Options := ⟨[".py"], [], true, 20, 1048576⟩
    ¬ ReadsPositively options disk "/r" ∧
      ∃ s f, Scanner.ofOptions Glob.matcher options = .ok s ∧ s.filters disk "/r" = .ok f ∧
        f.refuses? "main.py" = some .gitignore ∧ f.refuses? "keep.py" = none := by
  intro disk options
  have hlines : ignoreLines (ignoreText disk "/r") = ["/!keep.py"] := by decide +kernel
  have hpatterns : trimmed (readGitignore disk "/r") = ["!keep.py"] := by decide +kernel
  let glob : Glob := ⟨[[.literal "keep.py".toList]], true⟩
  have hglob : Glob.compile "!keep.py" = .ok glob := by rfl
  have hmain : glob.accepts "main.py" = true := by
    have hname : Glob.slashSplit (Glob.unitChars "main.py") = ["main.py".toList] := by decide +kernel
    rw [Glob.accepts_name rfl hname]
    decide +kernel
  have hkeep : glob.accepts "keep.py" = false := by
    have hname : Glob.slashSplit (Glob.unitChars "keep.py") = ["keep.py".toList] := by decide +kernel
    rw [Glob.accepts_name rfl hname]
    decide +kernel
  have hfilters : (⟨options, [], Glob.matcher⟩ : Scanner).filters disk "/r"
      = .ok ((⟨options, [], Glob.matcher⟩ : Scanner).filtersWith [glob.accepts]) := by
    have hmatcher := (Glob.matcher_eq_ok_iff "!keep.py" _).2 ⟨glob, hglob, rfl⟩
    simp [Scanner.filters, Scanner.ignored, options, compileAll, hpatterns, hmatcher, bind, Except.bind, pure,
      Except.pure, Except.map]
  refine ⟨fun h => ?_, _, _, rfl, hfilters, by simp [Filters.refuses?, Scanner.filtersWith, hmain],
    by simp [Filters.refuses?, Scanner.filtersWith, hkeep]⟩
  refine (readsPositively_iff options disk "/r").1 h "/!keep.py" (by simp [hlines]) ?_
  exact ⟨"!keep.py".toList, rfl, [], "!keep.py".toList, rfl, by simp, .inl (.inl rfl)⟩

end Scan

end CodeAtlas
