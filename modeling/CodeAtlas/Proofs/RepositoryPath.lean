import CodeAtlas.Proofs.RelativePath

set_option autoImplicit false

/-! # Paths seen from a repository root

The way from a root to a path is read off its text: it is empty, or it climbs, or it is the path that the repository
gives the file. The text cannot mislead. A path in normal form is a list of names, and so is its way from a root that it
lies below; no name is `..`, though names may begin with dots, and what climbs starts with a segment `..`. Where a path
only begins with the text of the root, as `/repo2` does with `/repo`, the names differ.

So the root is seen as `.`, what lies below it as a relative path that leads back to it, and everything else as it is
(`toRepository_roundTrip`). -/

namespace CodeAtlas.Path

/-! ## Normal paths -/

/-- A path from the top of the file system in normal form: a slash, and then names with a slash between them. -/
def IsNormal (p : String) : Prop := ∃ l, AllNames l ∧ p = "/" ++ ofSegments l

/-- The normal paths are those that resolving leaves as they are. -/
theorem isNormal_iff (p : String) : IsNormal p ↔ absolute p = p := by
  constructor
  · rintro ⟨l, hl, rfl⟩
    rw [absolute_eq, absoluteSegments_slash hl]
  · exact fun h => ⟨_, allNames_absoluteSegments p, h.symm.trans (absolute_eq p)⟩

/-- Does a path go on after a root and a slash? -/
def IsBelow (root p : String) : Prop := ∃ rest, rest ≠ "" ∧ p = (if root = "/" then root else root ++ "/") ++ rest

theorem slash_append_inj {s t : String} (h : "/" ++ s = "/" ++ t) : s = t :=
  String.toList_injective (by simpa using congrArg String.toList h)

theorem slash_ofSegments_inj {l m : List String} (hl : AllNames l) (hm : AllNames m)
    (h : "/" ++ ofSegments l = "/" ++ ofSegments m) : l = m := by
  rw [← absoluteSegments_slash hl, h, absoluteSegments_slash hm]

theorem slash_ofSegments_eq_slash_iff {dir : List String} (h : AllNames dir) :
    "/" ++ ofSegments dir = "/" ↔ dir = [] := by
  constructor
  · exact fun he => slash_ofSegments_inj h .nil he
  · rintro rfl
    rfl

/-- Below a root stands what its names go on to. -/
theorem isBelow_iff {dir l : List String} (hdir : AllNames dir) (hl : AllNames l) :
    IsBelow ("/" ++ ofSegments dir) ("/" ++ ofSegments l) ↔ ∃ f, f ≠ [] ∧ l = dir ++ f := by
  rw [IsBelow]
  simp only [slash_ofSegments_eq_slash_iff hdir]
  by_cases hd : dir = []
  · subst hd
    simp only [if_true, List.nil_append]
    constructor
    · rintro ⟨rest, hrest, he⟩
      refine ⟨l, fun hnil => hrest ?_, rfl⟩
      rw [← slash_append_inj he, hnil, ofSegments_nil]
    · rintro ⟨f, hf, rfl⟩
      exact ⟨ofSegments l, ofSegments_ne_empty hl hf, rfl⟩
  · simp only [hd, if_false]
    constructor
    · rintro ⟨rest, -, he⟩
      have hsegs := congrArg segments he
      rw [segments_append, segments_slash_append, segments_slash_append, segments_ofSegments hdir hd,
        List.cons_append, List.cons_inj_right] at hsegs
      have hrest : segments rest ≠ [] := by simpa [segments, Text.split] using Text.splitList_ne_nil _ _
      have hnil : l ≠ [] := by
        rintro rfl
        rw [ofSegments_nil, segments_of_no_slash (s := "") (by simp)] at hsegs
        obtain ⟨s, hs⟩ := List.exists_mem_of_ne_nil dir hd
        have hempty : s ∈ [""] := hsegs ▸ List.mem_append_left _ hs
        exact (hdir s hs).ne_empty (List.mem_singleton.1 hempty)
      rw [segments_ofSegments hl hnil] at hsegs
      exact ⟨segments rest, hrest, hsegs⟩
    · rintro ⟨f, hf, rfl⟩
      refine ⟨ofSegments f, ofSegments_ne_empty hl.of_append_right hf, ?_⟩
      rw [ofSegments_append hd hf]
      simp only [String.append_assoc]

/-! ## What is seen from a root -/

section Normal

variable {root p q : String}

theorem IsNormal.isAbsolute (h : IsNormal p) : isAbsolute p = true := by
  obtain ⟨l, -, rfl⟩ := h
  exact (isAbsolute_iff _).2 ⟨_, rfl⟩

theorem isAbsolute_dot : isAbsolute "." = false := by simp [Path.isAbsolute]

/-- A root is seen as `.`, what lies below it as the names that lead there, and everything else as it is. -/
theorem toRepository_cases (hroot : IsNormal root) (hp : IsNormal p) :
    (p = root ∧ ¬ IsBelow root p ∧ toRepository root p = ".") ∨
    (p ≠ root ∧ IsBelow root p ∧
      ∃ f, AllNames f ∧ f ≠ [] ∧ toRepository root p = ofSegments f ∧ join root (ofSegments f) = p) ∨
    (p ≠ root ∧ ¬ IsBelow root p ∧ toRepository root p = p) := by
  obtain ⟨dir, hdir, rfl⟩ := hroot
  obtain ⟨l, hl, rfl⟩ := hp
  have hsegs := absoluteSegments_slash hdir
  have habs : absolute ("/" ++ ofSegments dir) = "/" ++ ofSegments dir := by rw [absolute_eq, hsegs]
  have hsame : "/" ++ ofSegments l = "/" ++ ofSegments dir ↔ l = dir :=
    ⟨slash_ofSegments_inj hl hdir, fun h => by rw [h]⟩
  rw [Ne, hsame, isBelow_iff hdir hl]
  by_cases hin : dir <+: l
  · obtain ⟨f, rfl⟩ := hin
    have hf := hl.of_append_right
    by_cases hnil : f = []
    · subst hnil
      have hdot := toRepository_root ("/" ++ ofSegments dir)
      rw [habs] at hdot
      exact .inl (by simpa using hdot)
    · have hseen := @toRepository_slash ("/" ++ ofSegments dir) f hf hnil
      have hback := @join_root ("/" ++ ofSegments dir) f hf hnil
      rw [habs, hsegs] at hseen hback
      exact .inr (.inl ⟨by simpa using hnil, ⟨f, hnil, rfl⟩, f, hf, hnil, hseen, hback⟩)
  · have hout := @toRepository_outside ("/" ++ ofSegments dir) l hl (by rwa [hsegs])
    rw [habs] at hout
    refine .inr (.inr ⟨?_, ?_, hout⟩)
    · rintro rfl
      exact hin List.prefix_rfl
    · rintro ⟨f, -, rfl⟩
      exact hin (List.prefix_append dir f)

theorem toRepository_eq_dot_iff (hroot : IsNormal root) (hp : IsNormal p) : toRepository root p = "." ↔ p = root := by
  rcases toRepository_cases hroot hp with ⟨heq, -, hdot⟩ | ⟨hne, -, f, hf, hnil, hseen, -⟩ | ⟨hne, -, hseen⟩
  · exact iff_of_true hdot heq
  · exact iff_of_false (hseen ▸ ofSegments_ne_dot hf hnil) hne
  · refine iff_of_false (fun hdot => ?_) hne
    have habs := hp.isAbsolute
    rw [← hseen, hdot, isAbsolute_dot] at habs
    exact absurd habs (by decide)

/-- Below the root, a path is seen as names that lead back to it. -/
theorem toRepository_of_isBelow (hroot : IsNormal root) (hp : IsNormal p) (h : IsBelow root p) :
    isAbsolute (toRepository root p) = false ∧ AllNames (segments (toRepository root p)) ∧
      join root (toRepository root p) = p := by
  rcases toRepository_cases hroot hp with ⟨-, hnot, -⟩ | ⟨-, -, f, hf, hnil, hseen, hback⟩ | ⟨-, hnot, -⟩
  · exact absurd h hnot
  · rw [hseen, segments_ofSegments hf hnil]
    exact ⟨isAbsolute_ofSegments hf hnil, hf, hback⟩
  · exact absurd h hnot

theorem toRepository_of_not_isBelow (hroot : IsNormal root) (hp : IsNormal p) (hne : p ≠ root)
    (h : ¬ IsBelow root p) : toRepository root p = p := by
  rcases toRepository_cases hroot hp with ⟨heq, -, -⟩ | ⟨-, hbelow, -⟩ | ⟨-, -, hseen⟩
  · exact absurd heq hne
  · exact absurd hbelow h
  · exact hseen

theorem isAbsolute_toRepository_iff (hroot : IsNormal root) (hp : IsNormal p) :
    isAbsolute (toRepository root p) = true ↔ p ≠ root ∧ ¬ IsBelow root p := by
  rcases toRepository_cases hroot hp with ⟨heq, -, hdot⟩ | ⟨-, hbelow, -⟩ | ⟨hne, hnot, hseen⟩
  · rw [hdot, isAbsolute_dot]
    simp [heq]
  · simp [hbelow, toRepository_of_isBelow hroot hp hbelow]
  · simp [hne, hnot, hseen, hp.isAbsolute]

/-- Resolved against the root, what is seen names the path. -/
theorem resolve_toRepository (hroot : IsNormal root) (hp : IsNormal p) : resolve root (toRepository root p) = p := by
  have habs := (isNormal_iff root).1 hroot
  rcases toRepository_cases hroot hp with ⟨heq, -, hdot⟩ | ⟨-, -, f, hf, hnil, hseen, hback⟩ | ⟨-, -, hseen⟩
  · have hskip := resolveSegments_skip false (.inr rfl) (segments root) []
    rw [List.append_nil, ← segments_of_no_slash (s := ".") (by decide), ← segments_append] at hskip
    rw [hdot, resolve, if_neg (by simp [isAbsolute_dot]), absolute, hskip, heq]
    exact habs
  · have hbelow := @absoluteSegments_below root f hf hnil
    have hjoin := @join_root root f hf hnil
    rw [habs] at hbelow hjoin
    rw [hseen, resolve, if_neg (by simp [isAbsolute_ofSegments hf hnil]), absolute_eq, hbelow, ← hjoin, hback]
  · rw [hseen, resolve, if_pos hp.isAbsolute, (isNormal_iff p).1 hp]

/-- **Paths are seen from a root without loss.** The root, and nothing else, is seen as `.`. What lies strictly below it
    is seen as a relative path of names that leads back to it, and any other path as it is. So no two paths are seen
    alike, and what is seen is absolute exactly outside the root. -/
theorem toRepository_roundTrip (hroot : IsNormal root) :
    (∀ p, IsNormal p →
      (toRepository root p = "." ↔ p = root) ∧
      (IsBelow root p → isAbsolute (toRepository root p) = false ∧ AllNames (segments (toRepository root p)) ∧
        join root (toRepository root p) = p) ∧
      (p ≠ root → ¬ IsBelow root p → toRepository root p = p) ∧
      (isAbsolute (toRepository root p) = true ↔ p ≠ root ∧ ¬ IsBelow root p)) ∧
    ∀ p q, IsNormal p → IsNormal q → toRepository root p = toRepository root q → p = q := by
  refine ⟨fun p hp => ⟨toRepository_eq_dot_iff hroot hp, toRepository_of_isBelow hroot hp,
    toRepository_of_not_isBelow hroot hp, isAbsolute_toRepository_iff hroot hp⟩, fun p q hp hq hsame => ?_⟩
  rw [← resolve_toRepository hroot hp, hsame, resolve_toRepository hroot hq]

/-- A name that begins with dots, and a folder whose name begins with the name of the root. -/
theorem toRepository_dots_and_sibling :
    (IsNormal "/srv/repo" ∧ IsNormal "/srv/repo/..env" ∧ IsNormal "/srv/repo2") ∧
    (IsBelow "/srv/repo" "/srv/repo/..env" ∧ toRepository "/srv/repo" "/srv/repo/..env" = "..env" ∧
      join "/srv/repo" (toRepository "/srv/repo" "/srv/repo/..env") = "/srv/repo/..env") ∧
    ¬ IsBelow "/srv/repo" "/srv/repo2" ∧ toRepository "/srv/repo" "/srv/repo2" = "/srv/repo2" := by
  have hroot : IsNormal "/srv/repo" := (isNormal_iff _).2 (by decide +kernel)
  have hdots : IsNormal "/srv/repo/..env" := (isNormal_iff _).2 (by decide +kernel)
  have hsibling : IsNormal "/srv/repo2" := (isNormal_iff _).2 (by decide +kernel)
  have hbelow : IsBelow "/srv/repo" "/srv/repo/..env" := ⟨"..env", by decide, by decide⟩
  have hbeside : ¬ IsBelow "/srv/repo" "/srv/repo2" := by
    rintro ⟨rest, -, he⟩
    simpa using congrArg String.toList he
  obtain ⟨hpaths, -⟩ := toRepository_roundTrip hroot
  exact ⟨⟨hroot, hdots, hsibling⟩, ⟨hbelow, by decide +kernel, ((hpaths _ hdots).2.1 hbelow).2.2⟩, hbeside,
    (hpaths _ hsibling).2.2.1 (by decide) hbeside⟩

end Normal

end CodeAtlas.Path
