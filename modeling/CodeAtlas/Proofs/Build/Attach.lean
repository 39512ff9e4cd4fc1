import CodeAtlas.Build
import CodeAtlas.Proofs.Graph.Shows
import CodeAtlas.Proofs.Path
import Mathlib.Data.List.Infix

set_option autoImplicit false

/-! # Attaching a file

A file that is refreshed is contained in its folder, and the folders above it that the graph does not have
yet are added on the way up, until a known one is met. `attach_spec` says what that adds to the two lists of
the graph: the unknown folders above the file, each contained in the next, and the containment of the
file. -/

namespace CodeAtlas.Build

open CodeAtlas.Scan CodeAtlas.Path CodeAtlas.Graph

/-- The paths of a folder and of the folders above it, the nearest first. -/
def folderPaths (dir : List String) : List String := (dir.inits.map ofNames).reverse

theorem folderPaths_append_singleton (dir : List String) (name : String) :
    folderPaths (dir ++ [name]) = ofNames (dir ++ [name]) :: folderPaths dir := by
  simp [folderPaths, List.inits_append]

/-- The folders above a path of names. -/
theorem ancestors_ofNames {dir : List String} {name : String} (h : AllNames (dir ++ [name])) :
    ancestors (ofNames (dir ++ [name])) = folderPaths dir := by
  have hlast : (prefixes (ofNames (dir ++ [name]))).dropLast
      = (List.range dir.length).map fun i => ofNames (dir.take (i + 1)) := by
    rw [prefixes_ofNames h (by simp), List.length_append, List.length_singleton, List.range_succ, List.map_append,
      List.map_singleton, List.dropLast_concat]
    refine List.map_congr_left fun i hi => ?_
    rw [List.take_append_of_le_length (List.mem_range.1 hi)]
  rw [ancestors, hlast, folderPaths]
  clear h hlast
  induction dir using List.reverseRecOn with
  | nil => rfl
  | append_singleton dir s ih =>
      rw [List.inits_append, List.map_append, List.reverse_append, ← ih, List.length_append, List.length_singleton,
        List.range_succ, List.map_append, List.reverse_append]
      have hsame : (List.range dir.length).map (fun i => ofNames ((dir ++ [s]).take (i + 1)))
          = (List.range dir.length).map fun i => ofNames (dir.take (i + 1)) :=
        List.map_congr_left fun i hi => by rw [List.take_append_of_le_length (List.mem_range.1 hi)]
      have hall : (dir ++ [s]).take (dir.length + 1) = dir ++ [s] := List.take_of_length_le (by simp)
      rw [hsame]
      simp [hall]

/-! ## The folders on the way up -/

/-- The entity of a folder of names. -/
def folderEntity (root : String) (m : List String) : Entity := directoryEntity root (ofNames m)

/-- The containment of a folder of names in the folder above it. -/
def folderContainment (root : String) (m : List String) : Relationship :=
  containment (directoryEntity root (dirname (ofNames m))).id (folderEntity root m).id

theorem folderContainment_append_singleton (root : String) {dir : List String} {name : String}
    (h : AllNames (dir ++ [name])) : folderContainment root (dir ++ [name])
      = containment (folderEntity root dir).id (folderEntity root (dir ++ [name])).id := by
  rw [folderContainment, dirname_ofNames h.of_append_left (h.of_append_right _ (List.mem_singleton_self _))]
  rfl

/-- What attaching relies on: the folders on the way up have ids of their own, the root is known, above a known
    folder all are known, and a containment of one of these folders shares its id with none that ends
    elsewhere. -/
structure Climbable (own : String → Prop) (root : String) (g : Graph) (dir : List String) : Prop where
  own_id : ∀ q, q <+: dir → own (folderEntity root q).id
  inj : ∀ q q', q <+: dir → q' <+: dir → (folderEntity root q).id = (folderEntity root q').id → q = q'
  root_known : g.hasEntity (folderEntity root []).id = true
  closed : ∀ q q', q <+: q' → q' <+: dir → g.hasEntity (folderEntity root q').id = true →
    g.hasEntity (folderEntity root q).id = true
  apart : ∀ q q' t t', q <+: dir → q' <+: dir → own t → own t' →
    (containment (folderEntity root q).id t).id = (containment (folderEntity root q').id t').id → t = t'
  told : ∀ r ∈ g.relationships, ∀ q t, q <+: dir → own t →
    r.id = (containment (folderEntity root q).id t).id → r.target = t

/-- Linking what is attached to a known folder. -/
theorem link_to_known {own : String → Prop} {root : String} {g : Graph} {dir m : List String} (hv : Valid g)
    (hclimb : Climbable own root g dir) (hm : m <+: dir) {child : String} (hown : own child)
    (hparent : g.hasEntity (folderEntity root m).id = true) (hchild : g.hasEntity child = true)
    (hfirst : ∀ r ∈ g.relationships, r.target ≠ child) :
    (g.linkIfKnown (containment (folderEntity root m).id child)).relationships
      = g.relationships ++ [containment (folderEntity root m).id child] := by
  have hends : g.knowsEnds (containment (folderEntity root m).id child) = true := by
    rw [knowsEnds, Bool.and_eq_true]
    exact ⟨hparent, hchild⟩
  have hnew : g.relationship? (containment (folderEntity root m).id child).id = none := by
    rw [hv.relationship?_eq_none_iff]
    exact fun r hr hid => hfirst r hr (hclimb.told r hr m child hm hown hid)
  rw [relationships_linkIfKnown, if_pos ⟨hends, hnew⟩]

/-- The graph with a new folder that contains an entity. -/
def addFolder (root : String) (g : Graph) (m : List String) (child : String) : Graph :=
  (g.insertEntity (folderEntity root m)).linkIfKnown (containment (folderEntity root m).id child)

theorem attach_cons (root : String) (g : Graph) (child : String) (m : List String) (above : List String) :
    attach root g child (ofNames m :: above) =
      if g.hasEntity (folderEntity root m).id = true then
        g.linkIfKnown (containment (folderEntity root m).id child)
      else attach root (addFolder root g m child) (folderEntity root m).id above := by
  cases h : g.hasEntity (folderEntity root m).id with
  | true =>
      have h' : g.hasEntity (directoryEntity root (ofNames m)).id = true := h
      simp only [attach, h', if_true]
      rfl
  | false =>
      have h' : g.hasEntity (directoryEntity root (ofNames m)).id = false := h
      simp only [attach, h', Bool.false_eq_true, if_false]
      rfl

section

variable {own : String → Prop} {root : String} {g : Graph} {m dir : List String} {child : String}

theorem hasEntity_addFolder (id : String) :
    (addFolder root g m child).hasEntity id = (decide (id = (folderEntity root m).id) || g.hasEntity id) := by
  rw [addFolder, hasEntity_linkIfKnown, hasEntity_insertEntity]

theorem entities_addFolder (hnew : g.hasEntity (folderEntity root m).id = false) :
    (addFolder root g m child).entities = g.entities ++ [folderEntity root m] := by
  rw [addFolder, entities_linkIfKnown, entities_insertEntity_new _ _ hnew]

theorem relationships_addFolder (hv : Valid g) (hclimb : Climbable own root g dir) (hm : m <+: dir)
    (hown : own child) (hchild : g.hasEntity child = true) (hfirst : ∀ r ∈ g.relationships, r.target ≠ child) :
    (addFolder root g m child).relationships
      = g.relationships ++ [containment (folderEntity root m).id child] := by
  have hends : (g.insertEntity (folderEntity root m)).knowsEnds (containment (folderEntity root m).id child)
      = true := by
    rw [knowsEnds, Bool.and_eq_true, hasEntity_insertEntity, hasEntity_insertEntity]
    exact ⟨by simp [containment, Relationship.create], by simp [containment, Relationship.create, hchild]⟩
  have hnew : (g.insertEntity (folderEntity root m)).relationship? (containment (folderEntity root m).id child).id
      = none := by
    rw [(hv.insertEntity _).relationship?_eq_none_iff]
    exact fun r hr hid => hfirst r hr (hclimb.told r hr m child hm hown hid)
  rw [addFolder, relationships_linkIfKnown, if_pos ⟨hends, hnew⟩]
  rfl

/-- Nothing enters a folder that was just added. -/
theorem target_ne_addFolder (hv : Valid g) (hclimb : Climbable own root g dir) (hm : m <+: dir)
    (hown : own child) (hnew : g.hasEntity (folderEntity root m).id = false) (hchild : g.hasEntity child = true)
    (hfirst : ∀ r ∈ g.relationships, r.target ≠ child) :
    ∀ r ∈ (addFolder root g m child).relationships, r.target ≠ (folderEntity root m).id := by
  intro r hr hid
  rw [relationships_addFolder hv hclimb hm hown hchild hfirst, List.mem_append, List.mem_singleton] at hr
  rcases hr with hr | rfl
  · have htarget := hv.target_known r hr
    rw [hid, hnew] at htarget
    exact absurd htarget (by simp)
  · have hid' : child = (folderEntity root m).id := hid
    rw [hid', hnew] at hchild
    exact absurd hchild (by simp)

end

theorem not_prefix_of_longer {α : Type} (l : List α) (x : α) : ¬ l ++ [x] <+: l := fun h => by
  have hle := h.length_le
  rw [List.length_append, List.length_singleton] at hle
  omega

/-- With a folder added, the folders above it can be climbed. -/
theorem Climbable.addFolder {own : String → Prop} {root : String} {g : Graph} {dir : List String} {name child : String}
    (h : Climbable own root g (dir ++ [name])) (hv : Valid g) (hown : own child) (hchild : g.hasEntity child = true)
    (hfirst : ∀ r ∈ g.relationships, r.target ≠ child) :
    Climbable own root (addFolder root g (dir ++ [name]) child) dir ∧
      ∀ q, q <+: dir → (Build.addFolder root g (dir ++ [name]) child).hasEntity (folderEntity root q).id
        = g.hasEntity (folderEntity root q).id := by
  have hup : ∀ q, q <+: dir → q <+: dir ++ [name] := fun q hq => hq.trans (List.prefix_append ..)
  have hsame : ∀ q, q <+: dir → (Build.addFolder root g (dir ++ [name]) child).hasEntity (folderEntity root q).id
      = g.hasEntity (folderEntity root q).id := fun q hq => by
    have hne : (folderEntity root q).id ≠ (folderEntity root (dir ++ [name])).id := fun hid => by
      have he := h.inj _ _ (hup q hq) (List.prefix_refl _) hid
      exact not_prefix_of_longer dir name (he ▸ hq)
    rw [hasEntity_addFolder]
    simp [hne]
  refine ⟨⟨fun q hq => h.own_id q (hup q hq), fun q q' hq hq' => h.inj q q' (hup q hq) (hup q' hq'), ?_,
    fun q q' hq hq' hknown => ?_, fun q q' t t' hq hq' => h.apart q q' t t' (hup q hq) (hup q' hq'),
    fun r hr q t hq ht hid => ?_⟩, hsame⟩
  · rw [hsame [] List.nil_prefix]
    exact h.root_known
  · rw [hsame q' hq'] at hknown
    rw [hsame q (hq.trans hq')]
    exact h.closed q q' hq (hup q' hq') hknown
  · rw [relationships_addFolder hv h (List.prefix_refl _) hown hchild hfirst, List.mem_append,
      List.mem_singleton] at hr
    rcases hr with hr | rfl
    · exact h.told r hr q t (hup q hq) ht hid
    · exact h.apart _ _ _ _ (List.prefix_refl _) (hup q hq) hown ht hid

/-- Attaching adds the unknown folders on the way up, each contained in the next, and the containment of
    what is attached. -/
theorem attach_spec {own : String → Prop} (root : String) (dir : List String) :
    AllNames dir → ∀ {g : Graph} {child : String}, Valid g → Climbable own root g dir → own child →
      g.hasEntity child = true → (∀ r ∈ g.relationships, r.target ≠ child) →
      ∃ added : List (List String), added.Nodup ∧
        (∀ q, q ∈ added ↔ q <+: dir ∧ g.hasEntity (folderEntity root q).id = false) ∧
        Valid (attach root g child (folderPaths dir)) ∧
        (attach root g child (folderPaths dir)).entities = g.entities ++ added.map (folderEntity root) ∧
        (attach root g child (folderPaths dir)).relationships
          = g.relationships ++ containment (folderEntity root dir).id child :: added.map (folderContainment root) := by
  induction dir using List.reverseRecOn with
  | nil =>
      intro _ g child hv hclimb hown hchild hfirst
      have hstop : attach root g child (folderPaths [])
          = g.linkIfKnown (containment (folderEntity root []).id child) := by
        have hcons := attach_cons root g child [] []
        rwa [if_pos hclimb.root_known] at hcons
      rw [hstop]
      refine ⟨[], List.nodup_nil, fun q => ?_, hv.linkIfKnown _, by simp,
        link_to_known hv hclimb (List.prefix_refl _) hown hclimb.root_known hchild hfirst⟩
      simp only [List.not_mem_nil, List.prefix_nil, false_iff, not_and, Bool.not_eq_false]
      rintro rfl
      exact hclimb.root_known
  | append_singleton dir name ih =>
      intro hnames g child hv hclimb hown hchild hfirst
      rw [folderPaths_append_singleton, attach_cons]
      by_cases hknown : g.hasEntity (folderEntity root (dir ++ [name])).id = true
      · rw [if_pos hknown]
        refine ⟨[], List.nodup_nil, fun q => ?_, hv.linkIfKnown _, by simp,
          link_to_known hv hclimb (List.prefix_refl _) hown hknown hchild hfirst⟩
        simp only [List.not_mem_nil, false_iff, not_and, Bool.not_eq_false]
        exact fun hq => hclimb.closed q _ hq (List.prefix_refl _) hknown
      · -- the folder is added, and then attached itself
        rw [if_neg hknown]
        have hnew : g.hasEntity (folderEntity root (dir ++ [name])).id = false := by simpa using hknown
        obtain ⟨habove, hsame⟩ := hclimb.addFolder hv hown hchild hfirst
        have hadd : Valid (addFolder root g (dir ++ [name]) child) := (hv.insertEntity _).linkIfKnown _
        obtain ⟨added, hnodup, hmem, hv', hents, hlinks⟩ := ih hnames.of_append_left hadd habove
          (hclimb.own_id _ (List.prefix_refl _))
          (by simp [hasEntity_addFolder])
          (target_ne_addFolder hv hclimb (List.prefix_refl _) hown hnew hchild hfirst)
        refine ⟨(dir ++ [name]) :: added, ?_, fun q => ?_, hv', ?_, ?_⟩
        · exact List.nodup_cons.2 ⟨fun h => not_prefix_of_longer dir name ((hmem _).1 h).1, hnodup⟩
        · rw [List.mem_cons, hmem, List.prefix_concat_iff]
          constructor
          · rintro (rfl | ⟨hq, hunknown⟩)
            · exact ⟨.inl rfl, hnew⟩
            · exact ⟨.inr hq, (hsame q hq).symm.trans hunknown⟩
          · rintro ⟨rfl | hq, hunknown⟩
            · exact .inl rfl
            · exact .inr ⟨hq, (hsame q hq).trans hunknown⟩
        · rw [hents, entities_addFolder hnew, List.map_cons, List.append_assoc, List.singleton_append]
        · rw [hlinks, relationships_addFolder hv hclimb (List.prefix_refl _) hown hchild hfirst, List.map_cons,
            folderContainment_append_singleton root hnames, List.append_assoc, List.singleton_append]

end CodeAtlas.Build
