import CodeAtlas.Proofs.Discovery
import CodeAtlas.Proofs.Order

set_option autoImplicit false

/-! # Discovery and the order of entities

The references of files do not depend on the order in which entities are listed. Those of symbols do: a
name that several symbols of one file carry is resolved to the one that is listed first.

`mem_discover_iff_resolved` says what is discovered, reference by reference: a symbol's reference to a name
that its file does not define is resolved to `choice`, the first symbol of that name in the first imported
file that has one. `discover_eq_iff_choice_eq` compares a list with a rearrangement of it: the same is
discovered exactly if every such reference has the same choice. -/

namespace CodeAtlas.Link

/-! ## Symbol references one by one -/

/-- The symbols of a path. -/
def symbolsAt (es : List Entity) (path : String) : List Entity := (atPath es path).filter isInside

/-- The symbol of a path that a reference to a name is resolved to: the one listed first. -/
def firstNamed (es : List Entity) (key : ReferenceKey) (name path : String) : Option Entity :=
  (symbolsAt es path).find? fun e => e.name = name ∧ e.kind ∈ key.targets

section

variable (extensions : List String) (root : String)

/-- The paths that the file at a path imports. -/
def importsAt (es : List Entity) (path : String) : List String :=
  importedPaths (linksAt extensions root (filesOf es) path)

/-- The symbol that a reference from a path is resolved to. -/
def choice (es : List Entity) (path : String) (key : ReferenceKey) (name : String) : Option Entity :=
  (importsAt extensions root es path).findSome? (firstNamed es key name)

end

/-- A symbol refers to a name that its own file does not define. -/
structure RefersTo (es : List Entity) (e : Entity) (key : ReferenceKey) (name : String) : Prop where
  mem : e ∈ symbolsAt es e.path
  recorded : name ∈ e.metadata.stringList key.name
  not_local : name ∉ localNames (symbolsAt es e.path)

/-- The relationship that a resolved reference becomes. -/
def symbolLink (e : Entity) (key : ReferenceKey) (name : String) (target : Entity) : Relationship :=
  Relationship.create e.id key.relation target.id importedConfidence [("reference", .text name)]

variable {extensions : List String} {root : String} {es es' : List Entity}

theorem mem_symbolsAt_iff (path : String) (e : Entity) :
    e ∈ symbolsAt es path ↔ e ∈ es ∧ e.path = path ∧ e.kind ≠ .file ∧ e.kind ≠ .directory := by
  rw [symbolsAt, List.mem_filter, atPath, List.mem_filter, isInside, decide_eq_true_eq, decide_eq_true_eq, and_assoc]

theorem getD_symbolsOf (es : List Entity) (path : String) :
    ((symbolsOf es).get? path).getD [] = symbolsAt es path := by
  rw [get?_symbolsOf, symbolsAt]
  split
  · next hnil => rw [hnil]; rfl
  · rfl

/-- The first symbol in several files is the first of the first file that has one. -/
theorem find?_flatMap_eq_findSome? {α β : Type} (p : β → Bool) (f : α → List β) (l : List α) :
    (l.flatMap f).find? p = l.findSome? fun a => (f a).find? p := by
  induction l with
  | nil => rfl
  | cons a rest ih =>
      rw [List.flatMap_cons, List.find?_append, ih, List.findSome?_cons]
      cases (f a).find? p <;> rfl

theorem importedSymbol_eq (es : List Entity) (imported : List String) (key : ReferenceKey) (name : String) :
    importedSymbol (symbolsOf es) imported key name = imported.findSome? (firstNamed es key name) := by
  rw [importedSymbol, find?_flatMap_eq_findSome?]
  refine congrArg (fun f => imported.findSome? f) (funext fun path => ?_)
  rw [getD_symbolsOf, firstNamed]

theorem choice_spec {path name : String} {key : ReferenceKey} {t : Entity}
    (h : choice extensions root es path key name = some t) : t ∈ es ∧ t.name = name := by
  obtain ⟨q, -, hq⟩ := List.exists_of_findSome?_eq_some h
  have hmem := (mem_symbolsAt_iff q t).1 (List.mem_of_find?_eq_some hq)
  have hnamed := List.find?_some hq
  simp only [decide_eq_true_eq] at hnamed
  exact ⟨hmem.1, hnamed.1⟩

/-- The relationships from the symbols of a path are their resolved references. -/
theorem mem_symbolReferencesAt_iff (path : String) (r : Relationship) :
    r ∈ symbolReferencesAt extensions root (filesOf es) (symbolsOf es) path ↔
      ∃ e key name t, RefersTo es e key name ∧ e.path = path ∧
        choice extensions root es path key name = some t ∧ r = symbolLink e key name t := by
  have hlinks : symbolReferencesAt extensions root (filesOf es) (symbolsOf es) path
      = symbolLinks (symbolsOf es) (importsAt extensions root es path) (symbolsAt es path) := by
    rw [symbolReferencesAt, getD_symbolsOf, ← importsAt]
    cases himports : importsAt extensions root es path with
    | nil =>
        -- without imports nothing is resolved
        simp [symbolLinks, importedSymbol]
    | cons q rest => rfl
  rw [hlinks]
  simp only [symbolLinks, List.mem_flatMap, List.mem_filterMap]
  constructor
  · rintro ⟨e, he, key, -, name, hname, hr⟩
    have hpath := ((mem_symbolsAt_iff path e).1 he).2.1
    split at hr
    · exact absurd hr (by simp)
    · next hlocal =>
        rw [importedSymbol_eq] at hr
        obtain ⟨t, ht, rfl⟩ := Option.map_eq_some_iff.1 hr
        exact ⟨e, key, name, t, ⟨hpath ▸ he, hname, hpath ▸ hlocal⟩, hpath, ht, rfl⟩
  · rintro ⟨e, key, name, t, ⟨he, hname, hlocal⟩, rfl, ht, rfl⟩
    refine ⟨e, he, key, by cases key <;> simp [ReferenceKey.all], name, hname, ?_⟩
    rw [if_neg hlocal, importedSymbol_eq]
    exact Option.map_eq_some_iff.2 ⟨t, ht, rfl⟩

theorem relation_inj {key key' : ReferenceKey} (h : key.relation = key'.relation) : key = key' := by
  cases key <;> cases key' <;> first | rfl | exact absurd h (by decide)

/-- The id of a resolved reference tells the symbol, the list, the name and the target. -/
theorem symbolLink_id_inj (h : IdsTell es) {e e' t t' : Entity} {key key' : ReferenceKey} {name name' : String}
    (he : RefersTo es e key name) (he' : RefersTo es e' key' name')
    (ht : choice extensions root es e.path key name = some t)
    (ht' : choice extensions root es e'.path key' name' = some t')
    (hid : (symbolLink e key name t).id = (symbolLink e' key' name' t').id) :
    e = e' ∧ key = key' ∧ name = name' ∧ t = t' := by
  have hmem := ((mem_symbolsAt_iff e.path e).1 he.mem).1
  have hmem' := ((mem_symbolsAt_iff e'.path e').1 he'.mem).1
  obtain ⟨htmem, htname⟩ := choice_spec ht
  obtain ⟨htmem', htname'⟩ := choice_spec ht'
  obtain ⟨hsource, htarget⟩ := h.ends_of_id e hmem t htmem e' hmem' t' htmem' _ _ hid
  obtain rfl := h.entity_ext e hmem e' hmem' hsource
  obtain rfl := h.entity_ext t htmem t' htmem' htarget
  exact ⟨rfl, relation_inj (relationshipId_inj hid).1, htname.symm.trans htname', rfl⟩

theorem lastWith_eq_some_of_mem {l : List Relationship} {r : Relationship} (hr : r ∈ l)
    (honly : ∀ r' ∈ l, r'.id = r.id → r' = r) : lastWith l r.id = some r := by
  cases hlast : lastWith l r.id with
  | none =>
      rw [lastWith, List.find?_eq_none] at hlast
      exact absurd (hlast r (List.mem_reverse.2 hr)) (by simp)
  | some r' =>
      obtain ⟨hr', hid⟩ := mem_of_lastWith hlast
      rw [honly r' hr' hid]

/-- **What is discovered, reference by reference**: the last reference of each id of the file at a path, and
    the resolved references of the symbols. -/
theorem mem_discover_iff_resolved (h : IdsTell es) (r : Relationship) :
    r ∈ discover extensions es root ↔
      (∃ path, lastWith (fileReferencesAt extensions root (filesOf es) path) r.id = some r) ∨
      ∃ e key name t, RefersTo es e key name ∧ choice extensions root es e.path key name = some t ∧
        r = symbolLink e key name t := by
  rw [mem_discover_iff_at h, exists_or]
  refine or_congr_right ⟨?_, ?_⟩
  · rintro ⟨path, hlast⟩
    obtain ⟨e, key, name, t, he, rfl, ht, hr⟩ := (mem_symbolReferencesAt_iff path r).1 (mem_of_lastWith hlast).1
    exact ⟨e, key, name, t, he, ht, hr⟩
  · rintro ⟨e, key, name, t, he, ht, rfl⟩
    refine ⟨e.path, lastWith_eq_some_of_mem
      ((mem_symbolReferencesAt_iff e.path _).2 ⟨e, key, name, t, he, rfl, ht, rfl⟩) fun r' hr' hid => ?_⟩
    obtain ⟨e', key', name', t', he', hpath, ht', rfl⟩ := (mem_symbolReferencesAt_iff e.path r').1 hr'
    obtain ⟨rfl, rfl, rfl, rfl⟩ := symbolLink_id_inj h he' he (hpath ▸ ht') ht hid
    rfl

/-! ## Rearranging the list -/

/-- At no path are there two files. -/
def OneFilePerPath (es : List Entity) : Prop :=
  ∀ a ∈ es, ∀ b ∈ es, a.kind = .file → b.kind = .file → a.path = b.path → a = b

theorem IdsTell.of_perm (h : IdsTell es) (hperm : es.Perm es') : IdsTell es' where
  entity_ext a ha b hb := h.entity_ext a (hperm.mem_iff.2 ha) b (hperm.mem_iff.2 hb)
  ends_of_id a ha b hb a' ha' b' hb' := h.ends_of_id a (hperm.mem_iff.2 ha) b (hperm.mem_iff.2 hb)
    a' (hperm.mem_iff.2 ha') b' (hperm.mem_iff.2 hb')

theorem get?_filesOf_eq_some_iff (h : OneFilePerPath es) (path : String) (f : Entity) :
    (filesOf es).get? path = some f ↔ f ∈ es ∧ f.path = path ∧ f.kind = .file := by
  refine ⟨mem_of_get?_filesOf, fun ⟨hf, hpath, hkind⟩ => ?_⟩
  cases hget : (filesOf es).get? path with
  | none =>
      rw [get?_filesOf, List.find?_eq_none] at hget
      exact absurd (hget f (by simp [atPath, hf, hpath])) (by simp [hkind])
  | some f' =>
      obtain ⟨hf', hpath', hkind'⟩ := mem_of_get?_filesOf hget
      rw [h f' hf' f hf hkind' hkind (hpath'.trans hpath.symm)]

/-- The files do not depend on the order, where no path has two. -/
theorem get?_filesOf_eq_of_perm (h : OneFilePerPath es) (hperm : es.Perm es') :
    (filesOf es).get? = (filesOf es').get? := by
  have h' : OneFilePerPath es' := fun a ha b hb => h a (hperm.mem_iff.2 ha) b (hperm.mem_iff.2 hb)
  funext path
  refine Option.ext fun f => ?_
  rw [get?_filesOf_eq_some_iff h, get?_filesOf_eq_some_iff h', hperm.mem_iff]

/-- Neither do the references of files. -/
theorem linksAt_eq_of_perm (h : OneFilePerPath es) (hperm : es.Perm es') :
    linksAt extensions root (filesOf es) = linksAt extensions root (filesOf es') := by
  have hfiles := get?_filesOf_eq_of_perm h hperm
  funext path
  simp only [linksAt, fileLinks, resolveReference, hfiles]

theorem fileReferencesAt_eq_of_perm (h : OneFilePerPath es) (hperm : es.Perm es') (path : String) :
    fileReferencesAt extensions root (filesOf es) path = fileReferencesAt extensions root (filesOf es') path := by
  rw [fileReferencesAt, fileReferencesAt, linksAt_eq_of_perm h hperm]

theorem refersTo_iff_of_perm (hperm : es.Perm es') (e : Entity) (key : ReferenceKey) (name : String) :
    RefersTo es e key name ↔ RefersTo es' e key name := by
  have hsymbols : (symbolsAt es e.path).Perm (symbolsAt es' e.path) := (hperm.filter _).filter _
  have hlocal : name ∈ localNames (symbolsAt es e.path) ↔ name ∈ localNames (symbolsAt es' e.path) :=
    ((hsymbols.filter _).map _).mem_iff
  exact ⟨fun ⟨hmem, hname, hno⟩ => ⟨hsymbols.mem_iff.1 hmem, hname, fun hl => hno (hlocal.2 hl)⟩,
    fun ⟨hmem, hname, hno⟩ => ⟨hsymbols.mem_iff.2 hmem, hname, fun hl => hno (hlocal.1 hl)⟩⟩

/-- Sorted by id, lists of what is discovered are equal if they have the same members. -/
theorem discover_eq_iff_mem : discover extensions es root = discover extensions es' root ↔
    ∀ r, r ∈ discover extensions es root ↔ r ∈ discover extensions es' root := by
  refine ⟨fun heq r => by rw [heq], fun hmem => ?_⟩
  have hnodup := (@nodup_discover extensions root es).of_map
  have hnodup' := (@nodup_discover extensions root es').of_map
  rw [discover_eq, discover_eq] at *
  have hperm := (Relationship.sortById_perm _).symm.trans
    (((List.perm_ext_iff_of_nodup hnodup hnodup').2 hmem).trans (Relationship.sortById_perm _))
  exact Relationship.sortById_eq_of_perm (keyedBy_references _).nodup_values hperm

/-- A resolved reference of a symbol is discovered only if its target is the choice. -/
theorem choice_of_mem_discover (h : IdsTell es) {e t : Entity} {key : ReferenceKey} {name : String}
    (he : RefersTo es e key name) (ht : t ∈ es ∧ t.name = name)
    (hr : symbolLink e key name t ∈ discover extensions es root) :
    choice extensions root es e.path key name = some t := by
  have hmem := ((mem_symbolsAt_iff e.path e).1 he.mem)
  rcases (mem_discover_iff_resolved h _).1 hr with ⟨path, hlast⟩ | ⟨e', key', name', t', he', ht', heq⟩
  · -- references of files start at files
    obtain ⟨-, -, a, ha, -, -, hsource, -, -, -, hfile⟩ := mem_fileReferencesAt (mem_of_lastWith hlast).1
    obtain rfl := h.entity_ext a ha e hmem.1 hsource
    exact absurd (of_decide_eq_true hfile) hmem.2.2.1
  · have hmem' := ((mem_symbolsAt_iff e'.path e').1 he'.mem)
    obtain ⟨htmem', htname'⟩ := choice_spec ht'
    have hid : relationshipId e.id key.relation.name t.id = relationshipId e'.id key'.relation.name t'.id :=
      congrArg Relationship.id heq
    obtain ⟨hsource, htarget⟩ := h.ends_of_id e hmem.1 t ht.1 e' hmem'.1 t' htmem' _ _ hid
    obtain rfl := h.entity_ext e hmem.1 e' hmem'.1 hsource
    obtain rfl := h.entity_ext t ht.1 t' htmem' htarget
    obtain rfl := relation_inj (relationshipId_inj hid).1
    rw [← ht.2, htname']
    exact ht'

/-- Where the same is discovered, the choices are the same. -/
theorem choice_eq_of_discover_eq (h : IdsTell es) (hperm : es.Perm es')
    (hsame : discover extensions es root = discover extensions es' root) {e : Entity} {key : ReferenceKey}
    {name : String} (he : RefersTo es e key name) :
    choice extensions root es e.path key name = choice extensions root es' e.path key name := by
  have h' := h.of_perm hperm
  have he' := (refersTo_iff_of_perm hperm e key name).1 he
  refine Option.ext fun t => ⟨fun ht => ?_, fun ht => ?_⟩
  · obtain ⟨hmem, hname⟩ := choice_spec ht
    have hr := (mem_discover_iff_resolved h _).2 (.inr ⟨e, key, name, t, he, ht, rfl⟩)
    rw [hsame] at hr
    exact choice_of_mem_discover h' he' ⟨hperm.mem_iff.1 hmem, hname⟩ hr
  · obtain ⟨hmem, hname⟩ := choice_spec ht
    have hr := (mem_discover_iff_resolved h' _).2 (.inr ⟨e, key, name, t, he', ht, rfl⟩)
    rw [← hsame] at hr
    exact choice_of_mem_discover h he ⟨hperm.mem_iff.2 hmem, hname⟩ hr

/-- Where the choices are the same, the same is discovered. -/
theorem discover_eq_of_choice_eq (h : IdsTell es) (hfiles : OneFilePerPath es) (hperm : es.Perm es')
    (hchoice : ∀ e key name, RefersTo es e key name →
      choice extensions root es e.path key name = choice extensions root es' e.path key name) :
    discover extensions es root = discover extensions es' root := by
  rw [discover_eq_iff_mem]
  intro r
  simp only [mem_discover_iff_resolved h, mem_discover_iff_resolved (h.of_perm hperm),
    fileReferencesAt_eq_of_perm hfiles hperm]
  refine or_congr_right (exists_congr fun e => exists_congr fun key => exists_congr fun name =>
    exists_congr fun t => ?_)
  rw [← refersTo_iff_of_perm hperm]
  exact and_congr_right fun he => by rw [hchoice e key name he]

/-- At no path do two symbols carry a name that one reference could mean either of. -/
def NamesTell (es : List Entity) : Prop :=
  ∀ path, ∀ a ∈ symbolsAt es path, ∀ b ∈ symbolsAt es path, a.name = b.name →
    ∀ key : ReferenceKey, a.kind ∈ key.targets → b.kind ∈ key.targets → a = b

/-- Where at most one member passes, a search finds the same in every order. -/
theorem find?_eq_of_perm {α : Type} {p : α → Bool} {l l' : List α} (hperm : l.Perm l')
    (honly : ∀ a ∈ l, ∀ b ∈ l, p a = true → p b = true → a = b) : l.find? p = l'.find? p := by
  cases hl : l.find? p with
  | none =>
      rw [List.find?_eq_none] at hl
      exact (List.find?_eq_none.2 fun a ha => hl a (hperm.mem_iff.2 ha)).symm
  | some a =>
      cases hl' : l'.find? p with
      | none =>
          have hmem := hperm.mem_iff.1 (List.mem_of_find?_eq_some hl)
          exact absurd (List.find?_some hl) (List.find?_eq_none.1 hl' a hmem)
      | some b =>
          rw [honly a (List.mem_of_find?_eq_some hl) b (hperm.mem_iff.2 (List.mem_of_find?_eq_some hl'))
            (List.find?_some hl) (List.find?_some hl')]

/-- Where names tell, there is nothing to choose between. -/
theorem choice_eq_of_namesTell (h : NamesTell es) (hfiles : OneFilePerPath es) (hperm : es.Perm es')
    (path : String) (key : ReferenceKey) (name : String) :
    choice extensions root es path key name = choice extensions root es' path key name := by
  have himports : importsAt extensions root es path = importsAt extensions root es' path := by
    rw [importsAt, importsAt, linksAt_eq_of_perm hfiles hperm]
  have hfirst : firstNamed es key name = firstNamed es' key name := by
    funext q
    have hsymbols : (symbolsAt es q).Perm (symbolsAt es' q) := (hperm.filter _).filter _
    refine find?_eq_of_perm hsymbols fun a ha b hb hpa hpb => ?_
    simp only [decide_eq_true_eq] at hpa hpb
    exact h q a ha b hb (hpa.1.trans hpb.1.symm) key hpa.2 hpb.2
  rw [choice, choice, himports, hfirst]

/-- **When the order of entities matters.** For a list of entities whose ids tell, with at most one file at a
    path, and any rearrangement of it, the references of files become the same relationships, and discovery
    gives the same list exactly if every reference of a symbol to a name that its file does not define has the
    same choice in both lists. It has where names tell the symbols of a file apart. -/
theorem discover_eq_iff_choice_eq (extensions : List String) (root : String) (h : IdsTell es)
    (hfiles : OneFilePerPath es) (hperm : es.Perm es') :
    (∀ path, fileReferencesAt extensions root (filesOf es) path = fileReferencesAt extensions root (filesOf es') path) ∧
    (discover extensions es root = discover extensions es' root ↔
      ∀ e key name, RefersTo es e key name →
        choice extensions root es e.path key name = choice extensions root es' e.path key name) ∧
    (NamesTell es → discover extensions es root = discover extensions es' root) :=
  ⟨fileReferencesAt_eq_of_perm hfiles hperm,
    ⟨fun hsame _ _ _ => choice_eq_of_discover_eq h hperm hsame, discover_eq_of_choice_eq h hfiles hperm⟩,
    fun hnames => discover_eq_of_choice_eq h hfiles hperm fun e key name _ =>
      choice_eq_of_namesTell hnames hfiles hperm e.path key name⟩

/-! ## A name defined twice -/

/-- A file of scripts that import the given modules. -/
def scriptFile (path : String) (imports : List String) : Entity :=
  Entity.create
    { kind := .file, path := path, name := path, startLine := 1, endLine := 20
      metadata := [("language", .text "python"), ("imports", .list imports)] }

/-- A function `run` of `b.py` at the given line. -/
def runAt (line : Rat) : Entity :=
  Entity.create { kind := .functionDecl, path := "b.py", name := "run", startLine := line, endLine := line }

/-- A function of `a.py` that calls `run`. -/
def runCaller : Entity :=
  Entity.create
    { kind := .functionDecl, path := "a.py", name := "main", startLine := 2, endLine := 3
      metadata := [("calls", .list ["run"])] }

/-- `a.py` imports `b.py`, which defines `run` twice; the two definitions come in the given order. -/
def twoRuns (first second : Entity) : List Entity :=
  [scriptFile "a.py" ["b"], runCaller, scriptFile "b.py" [], first, second]

/-- A parser lists the definitions by line, a stored graph by id, and line 10 comes before line 9 there: what
    the call means differs. -/
theorem twoRuns_discover_ne :
    (twoRuns (runAt 9) (runAt 10)).Perm (twoRuns (runAt 10) (runAt 9)) ∧
      ((twoRuns (runAt 9) (runAt 10)).map Entity.id).Nodup ∧ OneFilePerPath (twoRuns (runAt 9) (runAt 10)) ∧
      discover [".py"] (twoRuns (runAt 9) (runAt 10)) "/r" ≠ discover [".py"] (twoRuns (runAt 10) (runAt 9)) "/r" := by
  have hnodup : ((twoRuns (runAt 9) (runAt 10)).map Entity.id).Nodup := by decide +kernel
  have htell : IdsTell (twoRuns (runAt 9) (runAt 10)) := .of_blankless hnodup (by decide +kernel)
  have hfiles : OneFilePerPath (twoRuns (runAt 9) (runAt 10)) := by
    unfold OneFilePerPath
    decide +kernel
  have hperm : (twoRuns (runAt 9) (runAt 10)).Perm (twoRuns (runAt 10) (runAt 9)) :=
    .append_left [scriptFile "a.py" ["b"], runCaller, scriptFile "b.py" []] (.swap (runAt 10) (runAt 9) [])
  refine ⟨hperm, hnodup, hfiles, fun hsame => ?_⟩
  have hcaller : RefersTo (twoRuns (runAt 9) (runAt 10)) runCaller .calls "run" :=
    ⟨by decide +kernel, by decide +kernel, by decide +kernel⟩
  have hchoice := (discover_eq_iff_choice_eq [".py"] "/r" htell hfiles hperm).2.1.1 hsame runCaller .calls "run" hcaller
  revert hchoice
  decide +kernel

end CodeAtlas.Link
