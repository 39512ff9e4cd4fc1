import CodeAtlas.Proofs.Build.Inventory
import CodeAtlas.Proofs.Discovery

set_option autoImplicit false

/-! # A build shows its inventory

A build scans, merges the outputs of the files in scan order and links what discovery finds. The scanned
graph shows the inventory with nothing parsed; each merge parses one more file (`shows_addOutput`), and
discovery adds relationships that cross (`shows_connect`). So a build shows the inventory of its tree:
`shows_build`. -/

namespace CodeAtlas.Build

open CodeAtlas.Scan CodeAtlas.Path CodeAtlas.Graph

/-! ## The graph of a build -/

section

variable (registry : Registry) (disk : FileTree) (root : String)

/-- The graph with what the parser makes of a file. -/
def addOutput (g : Graph) (file : ScannedFile) : Graph :=
  match output? registry disk root file.absolutePath with
  | none => g
  | some o => mergeGraph g file o

/-- The graph with every relationship that discovery finds. -/
def connect (extensions : List String) (g : Graph) : Graph :=
  (Link.discover extensions g.entities root).foldl linkIfKnown g

end

variable {registry : Registry} {scanner : Scanner} {disk : FileTree} {root : String}

/-- Does every file have an output, if only an empty one? -/
def Parses (registry : Registry) (disk : FileTree) (root : String) (files : List ScannedFile) : Prop :=
  ∀ file ∈ files, ∃ o, registry.parse disk file.absolutePath (some (absolute root)) = .ok o

theorem parses_cons_iff (file : ScannedFile) (rest : List ScannedFile) :
    Parses registry disk root (file :: rest) ↔
      (∃ o, registry.parse disk file.absolutePath (some (absolute root)) = .ok o) ∧ Parses registry disk root rest := by
  simp [Parses]

/-- A file has no output if its parser is not known. -/
theorem parse_eq_error_of_parserFor {path : String} {f : Fault} (h : registry.parserFor path = .error f)
    (base : Option String) : registry.parse disk path base = .error f := by
  simp only [Registry.parse, h, bind, Except.bind]

/-- A file without a parser has an empty output. -/
theorem parse_eq_ok_of_unclaimed {path : String} (h : registry.parserFor path = .ok none) (base : Option String) :
    registry.parse disk path base = .ok (.failed []) := by
  simp only [Registry.parse, h, bind, Except.bind, pure, Except.pure]

theorem graph_merge_eq_addOutput {file : ScannedFile} {p : Parser} {o : ParseOutput}
    (hp : registry.parserFor file.absolutePath = .ok (some p))
    (ho : registry.parse disk file.absolutePath (some (absolute root)) = .ok o) (s : Graph × BuildReport) :
    (merge s file o).1 = addOutput registry disk root s.1 file := by
  rw [graph_merge, addOutput, output?, hp, ho]
  by_cases he : o.errors = [] <;> simp [he]

/-- Outputs are there for all files or one has none, and merging them is merging file by file. -/
theorem parseAll_cases (registry : Registry) (disk : FileTree) (root : String) (files : List ScannedFile) :
    (Parses registry disk root files ∧ ∃ outputs, parseAll registry disk (absolute root) files = .ok outputs ∧
      ∀ s : Graph × BuildReport, (outputs.foldl (fun s o => merge s o.1 o.2) s).1
        = files.foldl (addOutput registry disk root) s.1) ∨
    (¬ Parses registry disk root files ∧ ∃ f, parseAll registry disk (absolute root) files = .error f) := by
  induction files with
  | nil => exact .inl ⟨by simp [Parses], [], rfl, fun s => rfl⟩
  | cons file rest ih =>
      rw [parses_cons_iff]
      cases hp : registry.parserFor file.absolutePath with
      | error f =>
          refine .inr ⟨fun ⟨⟨o, ho⟩, _⟩ => ?_, f, by simp [parseAll, hp, bind, Except.bind]⟩
          rw [parse_eq_error_of_parserFor hp] at ho
          exact absurd ho (by simp)
      | ok parser =>
          rcases ih with ⟨hrest, outputs, hout, hmerge⟩ | ⟨hrest, f, hout⟩
          · cases parser with
            | none =>
                refine .inl ⟨⟨⟨_, parse_eq_ok_of_unclaimed hp _⟩, hrest⟩, outputs,
                  by simp [parseAll, hp, hout, bind, Except.bind, pure, Except.pure], fun s => ?_⟩
                rw [hmerge, List.foldl_cons, addOutput, output?, hp]
            | some p =>
                cases ho : registry.parse disk file.absolutePath (some (absolute root)) with
                | ok o =>
                    refine .inl ⟨⟨⟨o, rfl⟩, hrest⟩, (file, o) :: outputs,
                      by simp [parseAll, hp, hout, ho, bind, Except.bind, pure, Except.pure], fun s => ?_⟩
                    rw [List.foldl_cons, hmerge, List.foldl_cons, graph_merge_eq_addOutput hp ho]
                | error f =>
                    exact .inr ⟨fun ⟨⟨o, ho'⟩, _⟩ => absurd ho' (by simp), f,
                      by simp [parseAll, hp, hout, ho, bind, Except.bind]⟩
          · exact .inr ⟨fun ⟨_, hall⟩ => hrest hall, f, by simp [parseAll, hp, hout, bind, Except.bind]⟩

theorem graph_discoverInto (extensions : List String) (s : Graph × BuildReport) :
    (discoverInto extensions root s).1 = connect root extensions s.1 := by
  -- the count of what is linked goes along with the graph
  have hcount : ∀ (step : Graph × BuildReport → Relationship → Graph × BuildReport),
      (∀ s r, (step s r).1 = s.1.linkIfKnown r) → ∀ (rs : List Relationship) (s : Graph × BuildReport),
        (rs.foldl step s).1 = rs.foldl linkIfKnown s.1 := by
    intro step hstep rs
    induction rs with
    | nil => intro s; rfl
    | cons r rest ih => intro s; rw [List.foldl_cons, List.foldl_cons, ih, hstep]
  refine hcount _ (fun s r => ?_) _ s
  obtain ⟨g, report⟩ := s
  cases hlink : g.link r <;> simp only [linkIfKnown, hlink]

/-- What the last phases of a build give, and when. -/
theorem finish_cases (files : List ScannedFile) (g : Graph) (report : BuildReport) :
    (Parses registry disk root files ∧ ∃ res, finish registry disk (absolute root) files (g, report) = .ok res ∧
      res.graph = (connect (absolute root) registry.supportedExtensions
        (files.foldl (addOutput registry disk root) g)).freeze) ∨
    (¬ Parses registry disk root files ∧ ∃ f, finish registry disk (absolute root) files (g, report) = .error f) := by
  rcases parseAll_cases registry disk root files with ⟨hparses, outputs, hout, hmerge⟩ | ⟨hparses, f, hout⟩
  · refine .inl ⟨hparses, ?_⟩
    simp only [finish, parseInto, hout, Except.map]
    refine ⟨_, rfl, ?_⟩
    rw [graph_discoverInto, hmerge]
  · exact .inr ⟨hparses, f, by simp only [finish, parseInto, hout, Except.map]⟩

/-! ## The scanned graph -/

/-- The inventory with the files of a list not parsed yet. -/
def Inventory.unparsed (I : Inventory) (rest : List String) : Inventory where
  found? := I.found?
  output? path := if path ∈ rest then none else I.output? path

@[simp] theorem Inventory.unparsed_nil (I : Inventory) : I.unparsed [] = I := by
  simp [Inventory.unparsed]

/-- What is found lies in a folder that is found. -/
def Inventory.Closed (I : Inventory) : Prop :=
  ∀ path size, path ≠ "." → I.found? path = some size → I.found? (dirname path) = some none

theorem closed_inventory (hwf : disk.WellFormed) : (inventory registry scanner disk root).Closed := by
  intro path size hp hfound
  obtain ⟨m, hm, rfl⟩ := names_of_found? hwf hfound
  have hne : m ≠ [] := fun he => hp (by rw [he, ofNames_nil])
  obtain ⟨dir, name, rfl⟩ := eq_append_singleton hne
  rw [dirname_ofNames hm.of_append_left (hm.of_append_right _ (List.mem_singleton_self _))]
  exact found?_above hwf hm (List.prefix_append ..) (by simp) hfound

/-- Filtering by a key that does not repeat finds the one entry that a search finds. -/
theorem filter_eq_find? {α κ : Type} [DecidableEq κ] {key : α → κ} {l : List α} (h : (l.map key).Nodup) (k : κ) :
    l.filter (key · = k) = (l.find? (key · = k)).toList := by
  induction l with
  | nil => rfl
  | cons x rest ih =>
      rw [List.map_cons, List.nodup_cons] at h
      rw [List.filter_cons, List.find?_cons]
      by_cases hx : key x = k
      · have hnone : rest.filter (key · = k) = [] := List.filter_eq_nil_iff.2 fun y hy => by
          have hne : key y ≠ k := fun he => h.1 (List.mem_map.2 ⟨y, hy, he.trans hx.symm⟩)
          simpa using hne
        simp [hx, hnone]
      · simpa [hx] using ih h.2

/-- What the scan lists at a path is what the inventory has there, nothing parsed. -/
theorem located_scan (hwf : disk.WellFormed) {rest : List String}
    (hrest : ∀ path n, found? scanner disk root path = some (some n) → path ∈ rest) (path : String) :
    (scanner.scanned disk root).entities.filter (·.path = path)
      = ((inventory registry scanner disk root).unparsed rest).located (absolute root) path := by
  have hents := (scanned_reads scanner hwf root).1
  have hmap : ((findsOf scanner disk root).map (Find.entity (absolute root))).filter (·.path = path)
      = ((findsOf scanner disk root).find? (·.path = path)).toList.map (Find.entity (absolute root)) := by
    rw [List.filter_map, ← filter_eq_find? (nodup_findsOf scanner hwf root)]
    simp [Function.comp_def]
  rw [hents, List.filter_cons, hmap, Inventory.located]
  by_cases hp : path = "."
  · subst hp
    have hnone : (findsOf scanner disk root).find? (·.path = ".") = none :=
      List.find?_eq_none.2 fun x hx => by simpa using path_ne_dot hwf hx
    simp [hnone, directoryEntity, Entity.create, Inventory.unparsed, inventory]
  · have hdir : (directoryEntity (absolute root) ".").path ≠ path := Ne.symm hp
    rw [if_neg (by simpa using hdir)]
    cases hx : (findsOf scanner disk root).find? (·.path = path) with
    | none => simp [Inventory.unparsed, inventory, found?, hp, hx]
    | some x =>
        have hpath : x.path = path := by simpa using List.find?_some hx
        obtain ⟨p, size⟩ := x
        simp only at hpath
        subst hpath
        have hfound : found? scanner disk root p = some size := by rw [found?, if_neg hp, hx]; rfl
        cases size with
        | none => simp [Inventory.unparsed, inventory, hfound, Find.entity]
        | some n =>
            simp only [Inventory.unparsed, inventory, hfound, hrest p n hfound, if_true]
            rfl

theorem piece_find (hwf : disk.WellFormed) {x : Find} (hx : x ∈ findsOf scanner disk root) :
    (inventory registry scanner disk root).Piece (absolute root) x.path (x.entity (absolute root)) :=
  .inl ⟨x.size, found?_of_mem_findsOf hwf hx, rfl⟩

theorem piece_folder (hwf : disk.WellFormed) {x : Find} (hx : x ∈ findsOf scanner disk root) :
    (inventory registry scanner disk root).Piece (absolute root) (dirname x.path)
      (directoryEntity (absolute root) (dirname x.path)) :=
  .inl ⟨none, closed_inventory hwf x.path x.size (path_ne_dot hwf hx) (found?_of_mem_findsOf hwf hx), rfl⟩

theorem scanned_entities (hwf : disk.WellFormed) : (scanner.scanned disk root).entities
    = directoryEntity (absolute root) "." :: (findsOf scanner disk root).map (Find.entity (absolute root)) :=
  (scanned_reads scanner hwf root).1

theorem scanned_relationships (hwf : disk.WellFormed) : (scanner.scanned disk root).relationships
    = (findsOf scanner disk root).map (Find.containment (absolute root)) :=
  (scanned_reads scanner hwf root).2.1

theorem scanned_files (hwf : disk.WellFormed) : (scanner.scanned disk root).files
    = (findsOf scanner disk root).filterMap (Find.file? (absolute root)) :=
  (scanned_reads scanner hwf root).2.2

/-- The ids of scanned entities differ. -/
theorem nodup_scanned_ids (hwf : disk.WellFormed)
    (hsound : (inventory registry scanner disk root).Separate (absolute root)) :
    ((scanner.scanned disk root).entities.map Entity.id).Nodup := by
  rw [scanned_entities hwf]
  have hpaths : ((directoryEntity (absolute root) "." ::
      (findsOf scanner disk root).map (Find.entity (absolute root))).map Entity.path).Nodup := by
    rw [List.map_cons, List.map_map, List.nodup_cons]
    have hcomp : Entity.path ∘ Find.entity (absolute root) = Find.path :=
      funext fun x => Find.path_entity (absolute root) x
    rw [hcomp]
    refine ⟨fun hmem => ?_, nodup_findsOf scanner hwf root⟩
    obtain ⟨x, hx, hp⟩ := List.mem_map.1 hmem
    exact path_ne_dot hwf hx hp
  have hpiece : ∀ e ∈ directoryEntity (absolute root) "." ::
      (findsOf scanner disk root).map (Find.entity (absolute root)),
      (inventory registry scanner disk root).Piece (absolute root) e.path e := by
    intro e he
    rw [List.mem_cons, List.mem_map] at he
    rcases he with rfl | ⟨x, hx, rfl⟩
    · exact .inl ⟨none, rfl, rfl⟩
    · rw [Find.path_entity]
      exact piece_find hwf hx
  exact Dict.nodup_map_of_imp hpaths fun a ha b hb hid => hsound.path_of_id (hpiece a ha) (hpiece b hb) hid

/-- The ids of scanned containments differ. -/
theorem nodup_scanned_links (hwf : disk.WellFormed)
    (hsound : (inventory registry scanner disk root).Separate (absolute root)) :
    ((scanner.scanned disk root).relationships.map Relationship.id).Nodup := by
  rw [scanned_relationships hwf, List.map_map]
  refine Dict.nodup_map_of_imp (nodup_findsOf scanner hwf root) fun x hx y hy hid => ?_
  have hlink : ∀ z ∈ findsOf scanner disk root, (inventory registry scanner disk root).LinkId (absolute root)
      (dirname z.path) (z.containment (absolute root)).id := fun z hz =>
    .inl ⟨z.path, _, _, .contains, piece_folder hwf hz, piece_find hwf hz, rfl⟩
  have hfolder : dirname x.path = dirname y.path := by
    have hx' := hlink x hx
    rw [show (x.containment (absolute root)).id = (y.containment (absolute root)).id from hid] at hx'
    exact hsound.path_of_link hx' (hlink y hy)
  have hid' : (containment (directoryEntity (absolute root) (dirname x.path)).id (x.entity (absolute root)).id).id
      = (containment (directoryEntity (absolute root) (dirname y.path)).id (y.entity (absolute root)).id).id := hid
  rw [hfolder] at hid'
  exact hsound.path_of_id (piece_find hwf hx) (piece_find hwf hy) (relationshipId_inj hid').2

/-- The links of an inventory without parsed files are the scanned containments. -/
theorem hasLink_scan_iff (hwf : disk.WellFormed) {rest : List String}
    (hrest : ∀ path n, found? scanner disk root path = some (some n) → path ∈ rest) (r : Relationship) :
    ((inventory registry scanner disk root).unparsed rest).HasLink (absolute root) r
      ↔ r ∈ (scanner.scanned disk root).relationships := by
  rw [scanned_relationships hwf, List.mem_map]
  constructor
  · rintro ⟨path, size, hfound, ⟨hp, rfl⟩ | ⟨n, rfl, hr⟩⟩
    · exact ⟨⟨path, size⟩, mem_findsOf_of_found? hp size hfound, rfl⟩
    · simp [Inventory.unparsed, hrest path n hfound, part] at hr
  · rintro ⟨x, hx, rfl⟩
    exact ⟨x.path, x.size, found?_of_mem_findsOf hwf hx, .inl ⟨path_ne_dot hwf hx, rfl⟩⟩

/-- The scanned graph has what the scan lists. -/
theorem scannedGraph_spec (hwf : disk.WellFormed)
    (hsound : (inventory registry scanner disk root).Separate (absolute root)) :
    Valid (scannedGraph (scanner.scanned disk root)) ∧
      (scannedGraph (scanner.scanned disk root)).entities = (scanner.scanned disk root).entities ∧
      (scannedGraph (scanner.scanned disk root)).relationships
        = (scanner.scanned disk root).relationships := by
  obtain ⟨hv, hents, hrels⟩ := insertAll_spec _ Valid.empty (nodup_scanned_ids hwf hsound) (fun _ _ => rfl)
  have hends : ∀ r ∈ (scanner.scanned disk root).relationships,
      ((scanner.scanned disk root).entities.foldl insertEntity empty).knowsEnds r = true := by
    intro r hr
    rw [scanned_relationships hwf, List.mem_map] at hr
    obtain ⟨x, hx, rfl⟩ := hr
    rw [knowsEnds, Bool.and_eq_true, hv.hasEntity_iff, hv.hasEntity_iff, hents, scanned_entities hwf]
    refine ⟨⟨directoryEntity (absolute root) (dirname x.path), ?_, rfl⟩, ⟨x.entity (absolute root), ?_, rfl⟩⟩
    · have hclosed : (inventory registry scanner disk root).Closed := closed_inventory hwf
      by_cases hd : dirname x.path = "."
      · simp [hd]
      · have hfound := hclosed x.path x.size (path_ne_dot hwf hx) (found?_of_mem_findsOf hwf hx)
        exact List.mem_append_right _ (List.mem_cons_of_mem _
          (List.mem_map.2 ⟨_, mem_findsOf_of_found? hd none hfound, rfl⟩))
    · exact List.mem_append_right _ (List.mem_cons_of_mem _ (List.mem_map.2 ⟨x, hx, rfl⟩))
  have hlinked := linkAll_spec _ hv (nodup_scanned_links hwf hsound) hends
  rw [List.filter_eq_self.2 fun r _ => (isNewLink_iff hv r).2 (by simp [hrels]), hrels, relationships_empty,
    List.nil_append] at hlinked
  unfold scannedGraph
  exact ⟨Valid.linkAll _ hv, by rw [entities_linkAll, hents, entities_empty, List.nil_append], hlinked⟩

/-- The scanned graph shows the inventory with no file parsed. -/
theorem shows_scannedGraph (hwf : disk.WellFormed)
    (hsound : (inventory registry scanner disk root).Separate (absolute root)) {rest : List String}
    (hrest : ∀ path n, found? scanner disk root path = some (some n) → path ∈ rest) :
    ((inventory registry scanner disk root).unparsed rest).ShownIn (absolute root)
      (scannedGraph (scanner.scanned disk root)) fun _ => False := by
  obtain ⟨hv, hents, hrels⟩ := scannedGraph_spec hwf hsound
  have hshows := Shows.empty.extend hv (by rw [hents, entities_empty, List.nil_append])
    (by rw [hrels, relationships_empty, List.nil_append])
  refine hshows.congr (fun path => (located_scan hwf hrest path).symm) (fun r => ?_) fun _ => Iff.rfl
  rw [hasLink_scan_iff hwf hrest r, false_or]

/-! ## Parsing the files -/

section

variable {g : Graph} {I : Inventory} {crossing : Relationship → Prop}

/-- With fewer files parsed, an inventory stays separate. -/
theorem Inventory.Piece.of_unparsed {rest : List String} {path : String} {e : Entity}
    (h : (I.unparsed rest).Piece root path e) : I.Piece root path e := by
  rcases h with h | ⟨n, o, hn, ho, he⟩
  · exact .inl h
  · simp only [Inventory.unparsed] at ho
    split at ho
    · exact absurd ho (by simp)
    · exact .inr ⟨n, o, hn, ho, he⟩

theorem Inventory.LinkId.of_unparsed {rest : List String} {path id : String}
    (h : (I.unparsed rest).LinkId root path id) : I.LinkId root path id := by
  rcases h with ⟨q, a, b, k, ha, hb, hid⟩ | ⟨n, o, hn, ho, hr⟩
  · exact .inl ⟨q, a, b, k, ha.of_unparsed, hb.of_unparsed, hid⟩
  · simp only [Inventory.unparsed] at ho
    split at ho
    · exact absurd ho (by simp)
    · exact .inr ⟨n, o, hn, ho, hr⟩

theorem Inventory.Separate.unparsed (h : I.Separate root) (rest : List String) : (I.unparsed rest).Separate root where
  liesIn path n o hn ho := by
    simp only [Inventory.unparsed] at ho
    split at ho
    · exact absurd ho (by simp)
    · exact h.liesIn path n o hn ho
  path_of_id ha hb hid := h.path_of_id ha.of_unparsed hb.of_unparsed hid
  path_of_link hp hq := h.path_of_link hp.of_unparsed hq.of_unparsed

theorem exists_piece_of_mem_entities (hsound : I.Separate root) (h : I.ShownIn root g crossing) {e : Entity}
    (he : e ∈ g.entities) : ∃ e', I.Piece root e.path e' ∧ e'.id = e.id :=
  (Inventory.exists_piece_of_mem hsound ((h.mem_entities_iff e).1 he)).2

/-- What crosses has an id of the path that it leaves. -/
theorem linkId_of_crossing (hsound : I.Separate root) (h : I.ShownIn root g crossing) {r : Relationship}
    (hr : crossing r) : ∃ path a, I.Piece root path a ∧ a.id = r.source ∧ I.LinkId root path r.id := by
  obtain ⟨-, hid, a, ha, b, hb, has, hbt, -⟩ := h.crosses r hr
  obtain ⟨a', ha', haid⟩ := exists_piece_of_mem_entities hsound h ha
  obtain ⟨b', hb', hbid⟩ := exists_piece_of_mem_entities hsound h hb
  refine ⟨a.path, a', ha', haid.trans has, .inl ⟨b.path, a', b', r.kind, ha', hb', ?_⟩⟩
  rw [hid, ← has, ← hbt, haid, hbid]

/-- Does nothing that crosses leave a path? -/
def Quiet (root : String) (I : Inventory) (crossing : Relationship → Prop) (path : String) : Prop :=
  ∀ r, crossing r → ∀ e, I.Piece root path e → e.id ≠ r.source

/-- The ids that an output can give to relationships are not taken before it is merged. -/
theorem link_id_free (hsound : I.Separate root) (hclosed : I.Closed) {rest : List String} {path : String} {n : Nat}
    {o : ParseOutput} (h : (I.unparsed (path :: rest)).ShownIn root g crossing) (hquiet : Quiet root I crossing path)
    (hn : I.found? path = some (some n)) (ho : I.output? path = some o) {r : Relationship} (hr : r ∈ g.relationships)
    {r' : Relationship} (hr' : IsOwnLink (scannedFile root path n) o r') : r.id ≠ r'.id := by
  intro hid
  have hsound' := hsound.unparsed (path :: rest)
  have hown := (Inventory.ownLink_of_isOwnLink hn ho hr').linkId
  rw [← hid] at hown
  rcases (h.mem_relationships_iff r).1 hr with ⟨q, size, hq, ⟨hdot, rfl⟩ | ⟨k, rfl, hpart⟩⟩ | hc
  · -- a containment leaves a folder
    have hup := hclosed q size hdot hq
    have hpath := hsound.path_of_link (.inl ⟨q, _, _, .contains, .inl ⟨none, hup, rfl⟩, .inl ⟨size, hq, rfl⟩, rfl⟩)
      hown
    rw [hpath, hn] at hup
    exact absurd hup (by simp)
  · -- the file has no links yet
    have hpath := hsound.path_of_link ((Inventory.isPart hsound' hq).own_link r hpart).linkId.of_unparsed hown
    subst hpath
    simp [Inventory.unparsed, part] at hpart
  · obtain ⟨q, a, ha, has, hlink⟩ := linkId_of_crossing hsound' h hc
    have hpath := hsound.path_of_link hlink.of_unparsed hown
    exact hquiet r hc a (hpath ▸ ha.of_unparsed) has

theorem located_unparsed_cons {rest : List String} {path q : String} (hq : q ≠ path) :
    (I.unparsed (path :: rest)).located root q = (I.unparsed rest).located root q := by
  simp [Inventory.located, Inventory.unparsed, hq]

theorem located_unparsed_bare {rest : List String} {path : String} {n : Nat} (hn : I.found? path = some (some n)) :
    (I.unparsed (path :: rest)).located root path = [fileEntity path n] := by
  simp only [Inventory.located, Inventory.unparsed, hn, List.mem_cons, true_or, if_true]
  rfl

theorem located_unparsed_self {rest : List String} {path : String} {n : Nat} (hpath : path ∉ rest)
    (hn : I.found? path = some (some n)) : (I.unparsed rest).located root path
      = (part (scannedFile root path n) (I.output? path)).entities := by
  simp [Inventory.located, Inventory.unparsed, hpath, hn]

theorem hasLink_unparsed_iff {rest : List String} {path : String} {n : Nat} (hpath : path ∉ rest)
    (hn : I.found? path = some (some n)) (r : Relationship) :
    (I.unparsed rest).HasLink root r ↔ (I.unparsed (path :: rest)).HasLink root r ∨
      r ∈ (part (scannedFile root path n) (I.output? path)).relationships := by
  constructor
  · rintro ⟨q, size, hfound, ⟨hq, rfl⟩ | ⟨k, rfl, hpart⟩⟩
    · exact .inl ⟨q, size, hfound, .inl ⟨hq, rfl⟩⟩
    · by_cases hqp : q = path
      · subst hqp
        have hk : n = k := by simpa [Inventory.unparsed, hn] using hfound
        subst hk
        exact .inr (by simpa [Inventory.unparsed, hpath] using hpart)
      · exact .inl ⟨q, some k, hfound, .inr ⟨k, rfl, by simpa [Inventory.unparsed, hqp] using hpart⟩⟩
  · rintro (⟨q, size, hfound, ⟨hq, rfl⟩ | ⟨k, rfl, hpart⟩⟩ | hpart)
    · exact ⟨q, size, hfound, .inl ⟨hq, rfl⟩⟩
    · by_cases hqp : q = path
      · subst hqp
        simp [Inventory.unparsed, part] at hpart
      · exact ⟨q, some k, hfound, .inr ⟨k, rfl, by simpa [Inventory.unparsed, hqp] using hpart⟩⟩
    · exact ⟨path, some n, hn, .inr ⟨n, rfl, by simpa [Inventory.unparsed, hpath] using hpart⟩⟩

/-- Merging the output of one more file parses it. -/
theorem shows_mergeGraph (hsound : I.Separate root) (hclosed : I.Closed) {rest : List String} {path : String}
    {n : Nat} {o : ParseOutput} (hpath : path ∉ rest) (hn : I.found? path = some (some n))
    (ho : I.output? path = some o) (h : (I.unparsed (path :: rest)).ShownIn root g crossing)
    (hquiet : Quiet root I crossing path) :
    (I.unparsed rest).ShownIn root (mergeGraph g (scannedFile root path n) o) crossing := by
  have hfit := hsound.liesIn path n o hn ho
  have hbare := @located_unparsed_bare root I rest path n hn
  have hsep : ∀ e ∈ o.entities, ∀ e' ∈ g.entities, e'.id = e.id → e'.path = path := fun e he e' he' hid => by
    obtain ⟨e'', he'', hid''⟩ := exists_piece_of_mem_entities (hsound.unparsed (path :: rest)) h he'
    exact hsound.path_of_id he''.of_unparsed (.inr ⟨n, o, hn, ho, he⟩) (by rw [hid'', hid])
  have hover : Overlay (IsOwn (scannedFile root path n) o) path g (part (scannedFile root path n) (some o))
      (mergeGraph g (scannedFile root path n) o) :=
    Shows.overlay h rfl hbare hfit hsep fun r hr r' hr' => link_id_free hsound hclosed h hquiet hn ho hr hr'
  refine (Shows.merge h rfl hbare hfit hover).congr (fun q => ?_) (fun r => ?_) fun _ => Iff.rfl
  · split
    · next hq =>
        obtain rfl : q = path := hq
        rw [located_unparsed_self hpath hn, ho]
    · next hq => exact (located_unparsed_cons hq).symm
  · rw [hasLink_unparsed_iff hpath hn, ho]

/-- Adding what the parser makes of one more file parses it. -/
theorem shows_addOutput (hwf : disk.WellFormed)
    (hsound : (inventory registry scanner disk root).Separate (absolute root)) {rest : List String} {path : String}
    {n : Nat} (hpath : path ∉ rest) (hn : found? scanner disk root path = some (some n))
    (h : ((inventory registry scanner disk root).unparsed (path :: rest)).ShownIn (absolute root) g crossing)
    (hquiet : Quiet (absolute root) (inventory registry scanner disk root) crossing path) :
    ((inventory registry scanner disk root).unparsed rest).ShownIn (absolute root)
      (addOutput registry disk root g (scannedFile (absolute root) path n)) crossing := by
  cases ho : output? registry disk root (join (absolute root) path) with
  | none =>
      have hadd : addOutput registry disk root g (scannedFile (absolute root) path n) = g := by
        simp only [addOutput, scannedFile, ho]
      have hsame : (inventory registry scanner disk root).unparsed rest
          = (inventory registry scanner disk root).unparsed (path :: rest) := by
        simp only [Inventory.unparsed, inventory, Inventory.mk.injEq, true_and]
        funext q
        by_cases hq : q = path
        · subst hq; simp [ho]
        · simp [hq]
      rw [hadd, hsame]
      exact h
  | some o =>
      have hadd : addOutput registry disk root g (scannedFile (absolute root) path n)
          = mergeGraph g (scannedFile (absolute root) path n) o := by
        simp only [addOutput, scannedFile, ho]
      rw [hadd]
      exact shows_mergeGraph hsound (closed_inventory hwf) hpath hn ho h hquiet

/-- Adding what the parsers make of the files that are not parsed yet parses all. -/
theorem shows_addOutputs (hwf : disk.WellFormed)
    (hsound : (inventory registry scanner disk root).Separate (absolute root)) (files : List ScannedFile) :
    ∀ {g : Graph}, (files.map ScannedFile.path).Nodup →
      (∀ file ∈ files, ∃ n, file = scannedFile (absolute root) file.path n ∧
        found? scanner disk root file.path = some (some n)) →
      (∀ file ∈ files, Quiet (absolute root) (inventory registry scanner disk root) crossing file.path) →
      ((inventory registry scanner disk root).unparsed (files.map ScannedFile.path)).ShownIn (absolute root) g
        crossing →
      (inventory registry scanner disk root).ShownIn (absolute root)
        (files.foldl (addOutput registry disk root) g) crossing := by
  induction files with
  | nil => intro g _ _ _ h; simpa using h
  | cons file rest ih =>
      intro g hnodup hfiles hquiet h
      rw [List.map_cons, List.nodup_cons] at hnodup
      obtain ⟨n, hfile, hn⟩ := hfiles file (List.mem_cons_self ..)
      refine ih hnodup.2 (fun f hf => hfiles f (List.mem_cons_of_mem _ hf))
        (fun f hf => hquiet f (List.mem_cons_of_mem _ hf)) ?_
      rw [hfile]
      exact shows_addOutput hwf hsound hnodup.1 hn h (hquiet file (List.mem_cons_self ..))

end

/-! ## Whole builds -/

/-- A relationship that starts at a path and ends elsewhere crosses. -/
theorem crosses_of_refersFrom {g : Graph} {path : String} {isFile : Bool} {r : Relationship}
    (h : Link.RefersFrom g.entities path isFile r) : Crosses g r := by
  obtain ⟨hkind, hid, a, ha, b, hb, has, hbt, hpath, hne, -⟩ := h
  exact ⟨hkind, hid, a, ha, b, hb, has, hbt, fun he => hne (he.symm.trans hpath)⟩

/-- Connecting a graph adds the discovered relationships whose ids are new. -/
theorem relationships_connect {g : Graph} (h : Valid g) (extensions : List String) :
    (connect root extensions g).relationships
      = g.relationships ++ (Link.discover extensions g.entities root).filter g.isNewLink := by
  refine linkAll_spec _ h (Link.nodup_discover _) fun r hr => ?_
  obtain ⟨path, isFile, -, -, a, ha, b, hb, has, hbt, -⟩ := Link.discover_joins hr
  rw [knowsEnds, Bool.and_eq_true, h.hasEntity_iff, h.hasEntity_iff]
  exact ⟨⟨a, ha, has⟩, ⟨b, hb, hbt⟩⟩

theorem entities_connect (g : Graph) (extensions : List String) :
    (connect root extensions g).entities = g.entities := entities_linkAll _ _

/-- Connecting adds relationships that cross. -/
theorem shows_connect {g : Graph} {at_ : String → List Entity} {links crossing : Relationship → Prop}
    (h : Shows g at_ links crossing) (extensions : List String) :
    Shows (connect root extensions g) at_ links
      fun r => crossing r ∨ r ∈ (Link.discover extensions g.entities root).filter g.isNewLink := by
  refine h.extend_crossing (Valid.linkAll _ h.valid) (entities_connect g extensions)
    (relationships_connect h.valid extensions) fun r hr => ?_
  obtain ⟨path, isFile, hfrom⟩ := Link.discover_joins (List.mem_filter.1 hr).1
  exact crosses_of_refersFrom hfrom

theorem mem_scanned_files (hwf : disk.WellFormed) (file : ScannedFile) :
    file ∈ (scanner.scanned disk root).files ↔
      ∃ n, file = scannedFile (absolute root) file.path n ∧ found? scanner disk root file.path = some (some n) := by
  rw [scanned_files hwf, List.mem_filterMap]
  constructor
  · rintro ⟨⟨p, size⟩, hx, hfile⟩
    cases size with
    | none => exact absurd hfile (by simp [Find.file?])
    | some n =>
        obtain rfl := Option.some.inj hfile
        exact ⟨n, rfl, found?_of_mem_findsOf hwf hx⟩
  · rintro ⟨n, hfile, hfound⟩
    exact ⟨⟨file.path, some n⟩, mem_findsOf_of_found? (ne_dot_of_found? hfound) _ hfound, by rw [hfile]; rfl⟩

theorem nodup_scanned_files (hwf : disk.WellFormed) :
    ((scanner.scanned disk root).files.map ScannedFile.path).Nodup := by
  rw [scanned_files hwf]
  have hsub : (((findsOf scanner disk root).filterMap (Find.file? (absolute root))).map ScannedFile.path).Sublist
      ((findsOf scanner disk root).map Find.path) := by
    induction findsOf scanner disk root with
    | nil => exact List.Sublist.refl _
    | cons x rest ih =>
        obtain ⟨p, size⟩ := x
        cases size with
        | none => exact ih.cons _
        | some n => exact ih.cons_cons _
  exact (nodup_findsOf scanner hwf root).sublist hsub

/-- The graph of a build before discovery. -/
def parsedGraph (registry : Registry) (scanner : Scanner) (disk : FileTree) (root : String) : Graph :=
  (scanner.scanned disk root).files.foldl (addOutput registry disk root)
    (scannedGraph (scanner.scanned disk root))

/-- Can a root be built: does its ignore file compile, and has every scanned file an output? -/
def Buildable (registry : Registry) (scanner : Scanner) (disk : FileTree) (root : String) : Prop :=
  scanner.Compiles disk root ∧ Parses registry disk root (scanner.scanned disk root).files

theorem build_eq_scan (registry : Registry) (scanner : Scanner) (disk : FileTree) (root : String) :
    build registry scanner disk root
      = (do let s ← scan scanner disk root; buildScanned registry disk (absolute root) s) := by
  rw [build, scan_absolute]

/-- A build succeeds exactly where a root can be built, and connects the parsed graph. -/
theorem build_cases (registry : Registry) (scanner : Scanner) (disk : FileTree) (root : String) :
    (Buildable registry scanner disk root ∧
      ∃ res, build registry scanner disk root = .ok res ∧
        res.graph = (connect (absolute root) registry.supportedExtensions
          (parsedGraph registry scanner disk root)).freeze) ∨
    (¬ Buildable registry scanner disk root ∧ ∃ f, build registry scanner disk root = .error f) := by
  rw [build_eq_scan]
  cases hscan : scan scanner disk root with
  | error f =>
      refine .inr ⟨fun ⟨hcompiles, _⟩ => ?_, f, rfl⟩
      have hok := (scan_eq_ok_iff scanner disk root _).2 ⟨hcompiles, rfl⟩
      rw [hscan] at hok
      exact absurd hok (by simp)
  | ok s =>
      obtain ⟨hcompiles, rfl⟩ := (scan_eq_ok_iff scanner disk root s).1 hscan
      simp only [bind, Except.bind, buildScanned, Buildable, hcompiles, true_and, parsedGraph]
      exact finish_cases _ _ _

/-- The parsed graph shows the inventory of its tree, and nothing crosses yet. -/
theorem shows_parsedGraph (hwf : disk.WellFormed)
    (hsound : (inventory registry scanner disk root).Separate (absolute root)) :
    (inventory registry scanner disk root).ShownIn (absolute root) (parsedGraph registry scanner disk root)
      fun _ => False := by
  refine shows_addOutputs hwf hsound _ (nodup_scanned_files hwf)
    (fun file hfile => (mem_scanned_files hwf file).1 hfile) (fun _ _ _ hr => hr.elim)
    (shows_scannedGraph hwf hsound fun path n hn => ?_)
  exact List.mem_map.2 ⟨scannedFile (absolute root) path n, (mem_scanned_files hwf _).2 ⟨n, rfl, hn⟩, rfl⟩

/-- **A build shows the inventory of its tree,** and what discovery finds in the parsed graph crosses. -/
theorem shows_build (hwf : disk.WellFormed) (hsound : (inventory registry scanner disk root).Separate (absolute root))
    {res : BuildResult} (hres : build registry scanner disk root = .ok res) :
    (inventory registry scanner disk root).ShownIn (absolute root) res.graph fun r =>
      r ∈ (Link.discover registry.supportedExtensions (parsedGraph registry scanner disk root).entities
        (absolute root)).filter (parsedGraph registry scanner disk root).isNewLink := by
  rcases build_cases registry scanner disk root with ⟨-, res', hres', hgraph⟩ | ⟨-, f, hf⟩
  · rw [hres] at hres'
    rw [Except.ok.inj hres', hgraph]
    exact (shows_connect (shows_parsedGraph hwf hsound) _).freeze.congr (fun _ => rfl) (fun _ => Iff.rfl)
      fun r => (iff_of_eq (false_or _)).symm
  · rw [hres] at hf
    exact absurd hf (by simp)

end CodeAtlas.Build
