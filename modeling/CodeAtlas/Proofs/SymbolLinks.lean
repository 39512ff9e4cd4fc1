import CodeAtlas.Proofs.DiscoveryOrder
import CodeAtlas.Syntax.Symbols

set_option autoImplicit false

/-! # Links between symbols

Two resolvers share the names that symbols refer to: a reader links those its file defines, discovery those that a file
it imports defines. `discover_symbolLinks` says that discovery gives the second ones and no others, in terms of what is
discovered alone: a file imports another if the relationship between the two is discovered (`mem_importsAt_iff`). -/

namespace CodeAtlas.Link

variable {extensions : List String} {root : String} {es : List Entity}

/-! ## Imported files -/

/-- Among the relationships, the file at one path imports the file at another. -/
def Imports (es : List Entity) (found : List Relationship) (path q : String) : Prop :=
  ∃ f ∈ es, ∃ g ∈ es, f.kind = .file ∧ f.path = path ∧ g.kind = .file ∧ g.path = q ∧
    ∃ r ∈ found, r.kind = .imports ∧ r.source = f.id ∧ r.target = g.id

/-- The relationship of a link joins the file at the path with the file linked, by a kind that files have. -/
theorem ends_of_mem_linksAt {path : String} {link : Entity × Relationship}
    (h : link ∈ linksAt extensions root (filesOf es) path) :
    (∃ f ∈ es, f.kind = .file ∧ f.path = path ∧ link.2.source = f.id) ∧
      link.1 ∈ es ∧ link.1.kind = .file ∧ link.2.target = link.1.id ∧ link.2.kind ∈ fileReferences.map (·.2) := by
  obtain ⟨⟨q, -, hq⟩, -⟩ := mem_linksAt h
  obtain ⟨htarget, -, htkind⟩ := mem_of_get?_filesOf hq
  unfold linksAt at h
  split at h
  · exact absurd h (by simp)
  · next f hf =>
      obtain ⟨hfile, hpath, hkind⟩ := mem_of_get?_filesOf hf
      simp only [fileLinks, List.mem_flatMap, List.mem_filterMap] at h
      obtain ⟨⟨key, kind⟩, hkey, reference, -, hlink⟩ := h
      split at hlink
      · cases hlink
      · split at hlink
        · cases hlink
        · cases hlink
          exact ⟨⟨f, hfile, hkind, hpath, rfl⟩, htarget, htkind, rfl, List.mem_map_of_mem hkey⟩

/-- The relationships of files are discovered up to what is recorded with them. -/
theorem exists_discovered_of_mem_fileReferencesAt (h : IdsTell es) {path : String} {r : Relationship}
    (hr : r ∈ fileReferencesAt extensions root (filesOf es) path) :
    ∃ r' ∈ discover extensions es root, r'.id = r.id ∧ r' ∈ fileReferencesAt extensions root (filesOf es) path := by
  cases hlast : lastWith (fileReferencesAt extensions root (filesOf es) path) r.id with
  | none =>
      rw [lastWith, List.find?_eq_none] at hlast
      exact absurd (hlast r (List.mem_reverse.2 hr)) (by simp)
  | some r' =>
      obtain ⟨hr', hid⟩ := mem_of_lastWith hlast
      exact ⟨r', (mem_discover_iff_resolved h r').2 (.inl ⟨path, hid ▸ hlast⟩), hid, hr'⟩

/-- The relationships of files and those of symbols have different kinds. -/
theorem relation_notMem_fileReferences (key : ReferenceKey) : key.relation ∉ fileReferences.map (·.2) := by
  cases key <;> decide

/-- **What a file imports shows in what is discovered.** -/
theorem mem_importsAt_iff (h : IdsTell es) (path q : String) :
    q ∈ importsAt extensions root es path ↔ Imports es (discover extensions es root) path q := by
  rw [importsAt, importedPaths, Dict.mem_distinct, List.mem_map]
  constructor
  · rintro ⟨link, hlink, rfl⟩
    obtain ⟨hmem, hkind⟩ := List.mem_filter.1 hlink
    obtain ⟨⟨f, hf, hfkind, hfpath, hsource⟩, hg, hgkind, htarget, -⟩ := ends_of_mem_linksAt hmem
    obtain ⟨r, hr, hid, hr'⟩ := exists_discovered_of_mem_fileReferencesAt h (List.mem_map_of_mem hmem)
    obtain ⟨link', hlink', rfl⟩ := List.mem_map.1 hr'
    obtain ⟨⟨f', hf', -, -, hsource'⟩, hg', -, htarget', -⟩ := ends_of_mem_linksAt hlink'
    -- the last relationship of the id has the same ends and the same kind
    rw [(mem_linksAt hlink').2.id_eq, (mem_linksAt hmem).2.id_eq, hsource, hsource', htarget, htarget'] at hid
    obtain ⟨hsame, htsame⟩ := h.ends_of_id f' hf' link'.1 hg' f hf link.1 hg _ _ hid
    rw [hsame] at hid
    exact ⟨f, hf, link.1, hg, hfkind, hfpath, hgkind, rfl, link'.2, hr,
      (relationshipId_inj hid).1.trans (by simpa using hkind), hsource'.trans hsame, htarget'.trans htsame⟩
  · rintro ⟨f, hf, g, hg, hfkind, hfpath, hgkind, rfl, r, hr, hkind, hsource, htarget⟩
    rcases (mem_discover_iff_resolved h r).1 hr with ⟨p, hlast⟩ | ⟨e, key, name, t, -, -, rfl⟩
    · obtain ⟨link, hlink, rfl⟩ := List.mem_map.1 (mem_of_lastWith hlast).1
      obtain ⟨⟨f', hf', -, hfpath', hsource'⟩, hg', -, htarget', -⟩ := ends_of_mem_linksAt hlink
      obtain rfl := h.entity_ext f hf f' hf' (hsource.symm.trans hsource')
      obtain rfl := h.entity_ext g hg link.1 hg' (htarget.symm.trans htarget')
      obtain rfl : p = path := hfpath'.symm.trans hfpath
      exact ⟨link, List.mem_filter.2 ⟨hlink, by simpa using hkind⟩, rfl⟩
    · have hfile : key.relation ∈ fileReferences.map (·.2) := (show key.relation = .imports from hkind) ▸ by decide
      exact absurd hfile (relation_notMem_fileReferences key)

/-! ## Offered symbols -/

/-- Among the relationships, the symbol is one that a name of such a list may mean in the file at a path: a file that
    is imported there defines it, under that name and with an allowed kind. -/
structure Offers (es : List Entity) (found : List Relationship) (path : String) (key : ReferenceKey) (name : String)
    (t : Entity) : Prop where
  imported : Imports es found path t.path
  defined : t ∈ symbolsAt es t.path
  named : t.name = name
  allowed : t.kind ∈ key.targets

theorem offers_of_choice (h : IdsTell es) {path name : String} {key : ReferenceKey} {t : Entity}
    (ht : choice extensions root es path key name = some t) :
    Offers es (discover extensions es root) path key name t := by
  obtain ⟨q, hq, hfirst⟩ := List.exists_of_findSome?_eq_some ht
  have hmem := List.mem_of_find?_eq_some hfirst
  obtain ⟨-, hpath, -⟩ := (mem_symbolsAt_iff q t).1 hmem
  have hpass := List.find?_some hfirst
  simp only [decide_eq_true_eq] at hpass
  subst hpath
  exact ⟨(mem_importsAt_iff h path t.path).1 hq, hmem, hpass.1, hpass.2⟩

/-- Where a symbol is offered, one is chosen. -/
theorem exists_choice_of_offers (h : IdsTell es) {path name : String} {key : ReferenceKey} {t : Entity}
    (ht : Offers es (discover extensions es root) path key name t) :
    ∃ t', choice extensions root es path key name = some t' := by
  have hq := (mem_importsAt_iff h path t.path).2 ht.imported
  cases hchoice : choice extensions root es path key name with
  | some t' => exact ⟨t', rfl⟩
  | none =>
      have hnone := List.findSome?_eq_none_iff.1 hchoice t.path hq
      rw [firstNamed, List.find?_eq_none] at hnone
      exact absurd (decide_eq_true ⟨ht.named, ht.allowed⟩) (hnone t ht.defined)

/-- A discovered relationship of a symbol's list is a resolved reference. -/
theorem exists_symbolLink_of_mem_discover (h : IdsTell es) {r : Relationship} (hr : r ∈ discover extensions es root)
    {key : ReferenceKey} (hkind : r.kind = key.relation) :
    ∃ s n t, RefersTo es s key n ∧ choice extensions root es s.path key n = some t ∧ r = symbolLink s key n t := by
  rcases (mem_discover_iff_resolved h r).1 hr with ⟨path, hlast⟩ | ⟨s, key', n, t, hs, ht, rfl⟩
  · obtain ⟨link, hlink, rfl⟩ := List.mem_map.1 (mem_of_lastWith hlast).1
    obtain ⟨-, -, -, -, hfile⟩ := ends_of_mem_linksAt hlink
    exact absurd (hkind ▸ hfile) (relation_notMem_fileReferences key)
  · obtain rfl := relation_inj hkind
    exact ⟨s, n, t, hs, ht, rfl⟩

/-- One that starts at a given symbol and records a name is the symbol's resolved reference by that name. -/
theorem refersTo_of_mem_discover (h : IdsTell es) {r : Relationship} (hr : r ∈ discover extensions es root) {s : Entity}
    (hs : s ∈ es) (hsource : r.source = s.id) {key : ReferenceKey} (hkind : r.kind = key.relation) {n : String}
    (hname : r.metadata = [("reference", .text n)]) :
    RefersTo es s key n ∧ ∃ t, choice extensions root es s.path key n = some t ∧ r = symbolLink s key n t := by
  obtain ⟨s', n', t, hs', ht, rfl⟩ := exists_symbolLink_of_mem_discover h hr hkind
  obtain rfl := h.entity_ext s' ((mem_symbolsAt_iff s'.path s').1 hs'.mem).1 s hs hsource
  obtain rfl : n' = n := by simpa [symbolLink, Relationship.create] using hname
  exact ⟨hs', t, ht, rfl⟩

/-! ## Links inside a file -/

/-- The list has every one of a file's entities, as far as its id, kind, name and path go. -/
def Lists (es : List Entity) (path : String) (own : List Entity) : Prop :=
  ∀ a ∈ own, ∃ e ∈ es, e.id = a.id ∧ e.kind = a.kind ∧ e.name = a.name ∧ e.path = path

/-- A reader links each name of a list to the symbol of the file that it finds for it. -/
theorem mem_localLinks_iff {own : List Entity} {l : Relationship} : l ∈ Syntax.localLinks own ↔
    ∃ e ∈ own, ∃ key : ReferenceKey, ∃ name ∈ e.metadata.stringList key.name, ∃ t,
      Syntax.localTarget? own e key name = some t ∧ l = Relationship.create e.id key.relation t.id := by
  have hkey (key : ReferenceKey) : key ∈ ReferenceKey.all := by cases key <;> simp [ReferenceKey.all]
  simp [Syntax.localLinks, Text.sort, Dict.mem_distinct, hkey, eq_comm]

theorem of_localTarget? {own : List Entity} {e t : Entity} {key : ReferenceKey} {name : String}
    (h : Syntax.localTarget? own e key name = some t) : t ∈ own ∧ t.name = name ∧ t.kind ∈ key.targets := by
  have hpass := List.find?_some h
  simp only [decide_eq_true_eq] at hpass
  exact ⟨List.mem_of_find?_eq_some h, hpass.1, hpass.2.2⟩

/-- A symbol of a kind that some reference may name is a definition. -/
theorem mem_localNames {t : Entity} (ht : t ∈ es) {key : ReferenceKey} (hkind : t.kind ∈ key.targets) :
    t.name ∈ localNames (symbolsAt es t.path) := by
  have hdefines : t.kind ≠ .file ∧ t.kind ≠ .directory ∧ t.kind ≠ .importDecl := by
    refine ⟨?_, ?_, ?_⟩ <;> rintro heq <;> rw [heq] at hkind <;> revert hkind <;> cases key <;> decide
  refine List.mem_map_of_mem (List.mem_filter.2 ⟨?_, by simpa using hdefines.2.2⟩)
  exact (mem_symbolsAt_iff t.path t).2 ⟨ht, rfl, hdefines.1, hdefines.2.1⟩

/-- A name that was linked inside the file is not linked again. -/
theorem metadata_ne_of_mem_localLinks (h : IdsTell es) {path : String} {own : List Entity} (hown : Lists es path own)
    {l : Relationship} (hl : l ∈ Syntax.localLinks own) {t : Entity} (ht : t ∈ own) (htarget : t.id = l.target)
    {r : Relationship} (hr : r ∈ discover extensions es root) (hsource : r.source = l.source)
    (hkind : r.kind = l.kind) : r.metadata ≠ [("reference", .text t.name)] := by
  intro hname
  obtain ⟨e, he, key, name, -, t', hfound, rfl⟩ := mem_localLinks_iff.1 hl
  obtain ⟨ht', -, hallowed⟩ := of_localTarget? hfound
  obtain ⟨s, hs, hsid, -, -, hspath⟩ := hown e he
  obtain ⟨d, hd, hdid, hdkind, -, hdpath⟩ := hown t' ht'
  obtain ⟨d', hd', hdid', -, hdname', -⟩ := hown t ht
  obtain rfl := h.entity_ext d hd d' hd' (hdid.trans (htarget.symm.trans hdid'.symm))
  obtain ⟨hrefers, -⟩ := refersTo_of_mem_discover h hr hs (hsource.trans hsid.symm) hkind hname
  -- the target is defined in the file
  refine hrefers.not_local ?_
  rw [← hdname', hspath, ← hdpath]
  exact mem_localNames hd (hdkind ▸ hallowed)

/-! ## What is linked across files -/

/-- **Links between symbols of different files are sound and complete.** Of the kinds that symbols' lists stand for,
    discovery finds only links of a symbol, by a name of the list that its own file does not define, to a symbol that a
    file imported by its file offers under that name. For each such name that is offered it finds exactly one link, and
    it leads to a symbol offered. No name that a reader linked inside a file, all of whose entities are listed, is
    linked again from the same symbol. -/
theorem discover_symbolLinks (extensions : List String) (root : String) (h : IdsTell es) :
    (∀ r ∈ discover extensions es root, ∀ key : ReferenceKey, r.kind = key.relation →
      ∃ s n t, RefersTo es s key n ∧ Offers es (discover extensions es root) s.path key n t ∧
        r = symbolLink s key n t) ∧
    (∀ s key n, RefersTo es s key n → (∃ t, Offers es (discover extensions es root) s.path key n t) →
      ∃ t, Offers es (discover extensions es root) s.path key n t ∧
        ∀ r, r ∈ discover extensions es root ∧ r.source = s.id ∧ r.kind = key.relation ∧
          r.metadata = [("reference", .text n)] ↔ r = symbolLink s key n t) ∧
    (∀ path own, Lists es path own → ∀ l ∈ Syntax.localLinks own, ∀ t ∈ own, t.id = l.target →
      ∀ r ∈ discover extensions es root, r.source = l.source → r.kind = l.kind →
        r.metadata ≠ [("reference", .text t.name)]) := by
  refine ⟨fun r hr key hkind => ?_, fun s key n hs ⟨_, hoffer⟩ => ?_,
    fun path own hown l hl t ht htarget r hr => metadata_ne_of_mem_localLinks h hown hl ht htarget hr⟩
  · obtain ⟨s, n, t, hs, ht, heq⟩ := exists_symbolLink_of_mem_discover h hr hkind
    exact ⟨s, n, t, hs, offers_of_choice h ht, heq⟩
  · obtain ⟨t, ht⟩ := exists_choice_of_offers h hoffer
    refine ⟨t, offers_of_choice h ht, fun r => ⟨?_, ?_⟩⟩
    · rintro ⟨hr, hsource, hkind, hname⟩
      obtain ⟨-, t', ht', rfl⟩ :=
        refersTo_of_mem_discover h hr ((mem_symbolsAt_iff s.path s).1 hs.mem).1 hsource hkind hname
      rw [Option.some.inj (ht.symm.trans ht')]
    · rintro rfl
      exact ⟨(mem_discover_iff_resolved h _).2 (.inr ⟨s, key, n, t, hs, ht, rfl⟩), rfl, rfl, rfl⟩

/-! ## A base class elsewhere -/

/-- A class on line 1, with the names of its bases. -/
def classOf (path name : String) (bases : List String) : Entity :=
  Entity.create
    { kind := .classDecl, path := path, name := name, startLine := 1, endLine := 2
      metadata := [("bases", .list bases)] }

/-- A class of `a.py` with a base of its own file and one of another. -/
def heir : Entity := classOf "a.py" "Heir" ["Own", "Base"]

/-- Two files define `Base`; `a.py` imports the first one. -/
def family : List Entity :=
  [scriptFile "a.py" ["b"], heir, classOf "a.py" "Own" [], scriptFile "b.py" [], classOf "b.py" "Base" [],
    scriptFile "c.py" [], classOf "c.py" "Base" []]

theorem family_symbolLinks :
    symbolLink heir .bases "Base" (classOf "b.py" "Base" []) ∈ discover [".py"] family "/r" ∧
      (∀ r ∈ discover [".py"] family "/r", r.kind = .inherits →
        r = symbolLink heir .bases "Base" (classOf "b.py" "Base" [])) ∧
      Relationship.create heir.id .inherits (classOf "a.py" "Own" []).id ∈
        Syntax.localLinks [heir, classOf "a.py" "Own" []] ∧
      ∀ r ∈ discover [".py"] family "/r", r.source = heir.id → r.kind = .inherits →
        r.metadata ≠ [("reference", .text "Own")] := by
  have htell : IdsTell family := .of_blankless (by decide +kernel) (by decide +kernel)
  obtain ⟨hsound, hcomplete, hlocal⟩ := discover_symbolLinks [".py"] "/r" htell
  have himports : importsAt [".py"] "/r" family "a.py" = ["b.py"] := by decide +kernel
  have hsymbols : symbolsAt family "b.py" = [classOf "b.py" "Base" []] := by decide +kernel
  have hrefers : RefersTo family heir .bases "Base" := ⟨by decide +kernel, by decide +kernel, by decide +kernel⟩
  -- what is offered stands in the one file that is imported
  have honly {key : ReferenceKey} {name : String} {t : Entity}
      (ht : Offers family (discover [".py"] family "/r") "a.py" key name t) : t = classOf "b.py" "Base" [] := by
    have hpath := (mem_importsAt_iff htell _ _).2 ht.imported
    rw [himports, List.mem_singleton] at hpath
    have hmem := ht.defined
    rwa [hpath, hsymbols, List.mem_singleton] at hmem
  have hchoice : choice [".py"] "/r" family heir.path .bases "Base" = some (classOf "b.py" "Base" []) := by
    decide +kernel
  obtain ⟨t, ht, hexactly⟩ := hcomplete heir .bases "Base" hrefers ⟨_, offers_of_choice htell hchoice⟩
  obtain rfl := honly ht
  have hown : Lists family "a.py" [heir, classOf "a.py" "Own" []] := by
    unfold Lists
    decide +kernel
  have hlinked : Relationship.create heir.id .inherits (classOf "a.py" "Own" []).id ∈
      Syntax.localLinks [heir, classOf "a.py" "Own" []] :=
    mem_localLinks_iff.2 ⟨heir, by simp, .bases, "Own", by decide, classOf "a.py" "Own" [], by decide +kernel, rfl⟩
  have hrefer : ∀ s ∈ family, ∀ n ∈ s.metadata.stringList "bases", n ∉ localNames (symbolsAt family s.path) →
      s = heir ∧ n = "Base" := by decide +kernel
  refine ⟨((hexactly _).2 rfl).1, fun r hr hkind => ?_, hlinked, hlocal "a.py" _ hown _ hlinked _ (by simp) rfl⟩
  obtain ⟨s, n, t, hs, ht, rfl⟩ := hsound r hr .bases hkind
  obtain ⟨rfl, rfl⟩ := hrefer s ((mem_symbolsAt_iff s.path s).1 hs.mem).1 n hs.recorded hs.not_local
  rw [honly ht]

end CodeAtlas.Link
