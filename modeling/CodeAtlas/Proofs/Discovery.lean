import CodeAtlas.Link
import CodeAtlas.Proofs.Dict
import CodeAtlas.Proofs.Ids

set_option autoImplicit false

/-! # What discovery finds

Discovery resolves the references that entities carry, path by path: the references of the file at a path,
and those of its symbols. `mem_discover_iff` says that a relationship is discovered if it is the last one
with its id among the resolved references, and `discover_joins` that it joins entities of different paths.

The order in which entities of different paths are listed does not matter: two lists with the same entities
at every path, in the same order, give the same relationships (`mem_discover_congr`), as long as ids of
relationships tell their ends apart. -/

namespace CodeAtlas.Link

/-! ## Tables by path -/

/-- The entities at a path. -/
def atPath (es : List Entity) (path : String) : List Entity := es.filter (·.path = path)

/-- A symbol is neither a file nor a folder. -/
def isInside (e : Entity) : Bool := e.kind ≠ .file ∧ e.kind ≠ .directory

theorem keyedBy_filesOf (es : List Entity) : (filesOf es).KeyedBy Entity.path :=
  Dict.KeyedBy.ofList _

/-- The file at a path is the last file entity there. -/
theorem get?_filesOf (es : List Entity) (path : String) :
    (filesOf es).get? path = (atPath es path).reverse.find? (·.kind = .file) := by
  rw [filesOf, Dict.get?_ofList, ← List.map_reverse, List.find?_map, Option.map_map, atPath,
    ← List.filter_reverse, ← List.filter_reverse, List.find?_filter, List.find?_filter]
  simp only [Function.comp_def, Option.map_id']
  congr 1
  funext e
  exact decide_eq_decide.2 and_comm

theorem mem_of_get?_filesOf {es : List Entity} {path : String} {f : Entity}
    (h : (filesOf es).get? path = some f) : f ∈ es ∧ f.path = path ∧ f.kind = .file := by
  rw [get?_filesOf] at h
  have hmem := List.mem_reverse.1 (List.mem_of_find?_eq_some h)
  exact ⟨(List.mem_filter.1 hmem).1, by simpa using (List.mem_filter.1 hmem).2, by simpa using List.find?_some h⟩

theorem get?_foldl_update (es : List Entity) (d : Dict String (List Entity)) (path : String) :
    (es.foldl (fun d e => d.update e.path [] (· ++ [e])) d).get? path
      = if atPath es path = [] then d.get? path else some ((d.get? path).getD [] ++ atPath es path) := by
  induction es generalizing d with
  | nil => rfl
  | cons e rest ih =>
      rw [List.foldl_cons, ih, Dict.get?_update]
      by_cases he : e.path = path
      · have hcons : atPath (e :: rest) path = e :: atPath rest path := by simp [atPath, he]
        by_cases hrest : atPath rest path = []
        · simp [hcons, hrest, he]
        · simp [hcons, hrest, he]
      · have hcons : atPath (e :: rest) path = atPath rest path := by simp [atPath, he]
        simp [hcons, Ne.symm he]

/-- The symbols at a path, if there are any. -/
theorem get?_symbolsOf (es : List Entity) (path : String) :
    (symbolsOf es).get? path
      = if (atPath es path).filter isInside = [] then none else some ((atPath es path).filter isInside) := by
  have hcomm : atPath (es.filter isInside) path = (atPath es path).filter isInside := by
    rw [atPath, atPath, List.filter_filter, List.filter_filter]
    exact List.filter_congr fun e _ => Bool.and_comm _ _
  have hfold := get?_foldl_update (es.filter isInside) .empty path
  rw [hcomm, Dict.get?_empty, Option.getD_none, List.nil_append] at hfold
  exact hfold

theorem nodup_keys_symbolsOf (es : List Entity) : (symbolsOf es).keys.Nodup := by
  have hfold : ∀ (l : List Entity) (d : Dict String (List Entity)), d.keys.Nodup →
      (l.foldl (fun d e => d.update e.path [] (· ++ [e])) d).keys.Nodup := by
    intro l
    induction l with
    | nil => intro d h; exact h
    | cons e rest ih => intro d h; exact ih _ (Dict.nodup_keys_insert h _ _)
  exact hfold _ .empty List.nodup_nil

theorem mem_of_get?_symbolsOf {es own : List Entity} {path : String} (h : (symbolsOf es).get? path = some own)
    {e : Entity} (he : e ∈ own) : e ∈ es ∧ e.path = path ∧ e.kind ≠ .file := by
  rw [get?_symbolsOf] at h
  split at h
  · exact absurd h (by simp)
  · obtain rfl := Option.some.inj h
    obtain ⟨hat, hin⟩ := List.mem_filter.1 he
    have hkind : e.kind ≠ .file ∧ e.kind ≠ .directory := by simpa [isInside] using hin
    exact ⟨(List.mem_filter.1 hat).1, by simpa using (List.mem_filter.1 hat).2, hkind.1⟩

/-! ## References by path -/

section

variable (extensions : List String) (root : String)

/-- The resolved references of the file at a path. -/
def linksAt (files : Dict String Entity) (path : String) : List (Entity × Relationship) :=
  match files.get? path with
  | none => []
  | some f => fileLinks extensions files root f

/-- The relationships from the file at a path. -/
def fileReferencesAt (files : Dict String Entity) (path : String) : List Relationship :=
  (linksAt extensions root files path).map (·.2)

/-- The relationships from the symbols at a path. -/
def symbolReferencesAt (files : Dict String Entity) (symbols : Dict String (List Entity)) (path : String) :
    List Relationship :=
  match importedPaths (linksAt extensions root files path) with
  | [] => []
  | imported => symbolLinks symbols imported ((symbols.get? path).getD [])

/-- Every resolved reference, path by path. -/
def references (es : List Entity) : List Relationship :=
  (filesOf es).keys.flatMap (fileReferencesAt extensions root (filesOf es)) ++
    (symbolsOf es).keys.flatMap (symbolReferencesAt extensions root (filesOf es) (symbolsOf es))

/-- The last relationship of an id. -/
def lastWith (l : List Relationship) (id : String) : Option Relationship := l.reverse.find? (·.id = id)

end

variable {extensions : List String} {root : String}

theorem lookup_perFile (es : List Entity) (path : String) :
    (((filesOf es).values.map fun f => (f.path, fileLinks extensions (filesOf es) root f)).lookup path).getD []
      = linksAt extensions root (filesOf es) path := by
  rw [linksAt, (keyedBy_filesOf es).get?_eq_find?]
  induction (filesOf es).values with
  | nil => rfl
  | cons f rest ih =>
      rw [List.map_cons, List.lookup_cons, List.find?_cons]
      by_cases hf : f.path = path
      · simp [hf]
      · have hbeq : (path == f.path) = false := by simpa using Ne.symm hf
        simpa [hf, hbeq] using ih

/-- The values of a dictionary are what its keys are looked up to. -/
theorem flatMap_values {β : Type} (d : Dict String Entity) (h : d.KeyedBy Entity.path) (f : Entity → List β) :
    d.values.flatMap f = d.keys.flatMap fun k => match d.get? k with
      | none => []
      | some v => f v := by
  rw [h.keys_eq, List.flatMap_map]
  refine List.flatMap_congr fun v hv => ?_
  rw [(h.get?_eq_some_iff v.path v).2 ⟨hv, rfl⟩]

theorem discover_eq (es : List Entity) : discover extensions es root
    = Relationship.sortById (Dict.ofList ((references extensions root es).map fun r => (r.id, r))).values := by
  have hfiles : ((filesOf es).values.map fun f => (f.path, fileLinks extensions (filesOf es) root f)).flatMap
      (fun e => e.2.map (·.2)) = (filesOf es).keys.flatMap (fileReferencesAt extensions root (filesOf es)) := by
    rw [List.flatMap_map, flatMap_values _ (keyedBy_filesOf es)]
    refine List.flatMap_congr fun k _ => ?_
    rw [fileReferencesAt, linksAt]
    cases (filesOf es).get? k <;> rfl
  have hsymbols : (symbolsOf es).entries.flatMap (fun e =>
        match importedPaths ((((filesOf es).values.map fun f =>
          (f.path, fileLinks extensions (filesOf es) root f)).lookup e.1).getD []) with
        | [] => []
        | imported => symbolLinks (symbolsOf es) imported e.2)
      = (symbolsOf es).keys.flatMap (symbolReferencesAt extensions root (filesOf es) (symbolsOf es)) := by
    rw [Dict.keys, List.flatMap_map]
    refine List.flatMap_congr fun e he => ?_
    rw [symbolReferencesAt, lookup_perFile,
      (Dict.mem_entries_iff (nodup_keys_symbolsOf es) e.1 e.2).1 he, Option.getD_some]
  rw [references, ← hfiles, ← hsymbols]
  rfl

theorem keyedBy_references (rs : List Relationship) :
    (Dict.ofList (rs.map fun r => (r.id, r))).KeyedBy Relationship.id := Dict.KeyedBy.ofList rs

/-- A relationship is discovered if it is the last one of its id. -/
theorem mem_discover_iff (es : List Entity) (r : Relationship) :
    r ∈ discover extensions es root ↔ lastWith (references extensions root es) r.id = some r := by
  have hget := (keyedBy_references (references extensions root es)).get?_eq_some_iff r.id r
  rw [discover_eq, Relationship.sortById, List.mem_mergeSort]
  simp only [and_true] at hget
  rw [← hget, Dict.get?_ofList, ← List.map_reverse, List.find?_map, Option.map_map, lastWith]
  simp [Function.comp_def]

theorem nodup_discover (es : List Entity) : ((discover extensions es root).map Relationship.id).Nodup := by
  rw [discover_eq, Relationship.sortById]
  exact ((List.mergeSort_perm _ _).map _).nodup_iff.2 (keyedBy_references _).nodup_values

/-! ## What is discovered joins different paths -/

/-- A relationship as discovery makes them: no containment, identified by its ends and its kind, from an
    entity at the given path, which is a file or not, to one elsewhere. -/
structure RefersFrom (es : List Entity) (path : String) (isFile : Bool) (r : Relationship) : Prop where
  kind_ne : r.kind ≠ .contains
  id_eq : r.id = relationshipId r.source r.kind.name r.target
  ends : ∃ a ∈ es, ∃ b ∈ es, a.id = r.source ∧ b.id = r.target ∧ a.path = path ∧ b.path ≠ path ∧
    decide (a.kind = .file) = isFile

theorem exists_get?_of_resolveReference {files : Dict String Entity} {source target : Entity}
    {reference : String} (h : resolveReference extensions files root source reference = some target) :
    ∃ path, files.get? path = some target := by
  unfold resolveReference at h
  split at h
  · exact absurd h (by simp)
  · obtain ⟨path, -, hpath⟩ := List.exists_of_findSome?_eq_some h
    exact ⟨path, hpath⟩

/-- A link of a file leads to another file. -/
theorem mem_linksAt {es : List Entity} {path : String} {link : Entity × Relationship}
    (h : link ∈ linksAt extensions root (filesOf es) path) :
    (∃ q, q ≠ path ∧ (filesOf es).get? q = some link.1) ∧ RefersFrom es path true link.2 := by
  unfold linksAt at h
  split at h
  · exact absurd h (by simp)
  · next f hf =>
      simp only [fileLinks, List.mem_flatMap, List.mem_filterMap] at h
      obtain ⟨⟨key, kind⟩, hkey, reference, -, hlink⟩ := h
      have hkind : kind ≠ .contains := by
        have hall : ∀ e ∈ fileReferences, e.2 ≠ .contains := by decide
        exact hall _ hkey
      cases hr : resolveReference extensions (filesOf es) root f reference with
      | none => simp [hr] at hlink
      | some target =>
          simp only [hr] at hlink
          split at hlink
          · exact absurd hlink (by simp)
          · next hid =>
              obtain rfl := Option.some.inj hlink
              obtain ⟨q, hq⟩ := exists_get?_of_resolveReference hr
              obtain ⟨hfmem, hfpath, hfkind⟩ := mem_of_get?_filesOf hf
              obtain ⟨htmem, htpath, -⟩ := mem_of_get?_filesOf hq
              -- one path has one file, and a file's reference to itself makes no link
              have hne : q ≠ path := by
                rintro rfl
                rw [hf] at hq
                exact hid (by rw [Option.some.inj hq])
              exact ⟨⟨q, hne, hq⟩, hkind, rfl,
                ⟨f, hfmem, target, htmem, rfl, rfl, hfpath, htpath ▸ hne, by simp [hfkind]⟩⟩

theorem mem_fileReferencesAt {es : List Entity} {path : String} {r : Relationship}
    (h : r ∈ fileReferencesAt extensions root (filesOf es) path) : RefersFrom es path true r := by
  obtain ⟨link, hlink, rfl⟩ := List.mem_map.1 h
  exact (mem_linksAt hlink).2

theorem ne_of_mem_importedPaths {es : List Entity} {path q : String}
    (h : q ∈ importedPaths (linksAt extensions root (filesOf es) path)) : q ≠ path := by
  rw [importedPaths, Dict.mem_distinct, List.mem_map] at h
  obtain ⟨link, hlink, rfl⟩ := h
  obtain ⟨⟨q, hne, hq⟩, -⟩ := mem_linksAt (List.mem_filter.1 hlink).1
  rw [(mem_of_get?_filesOf hq).2.1]
  exact hne

theorem mem_symbolReferencesAt {es : List Entity} {path : String} {r : Relationship}
    (h : r ∈ symbolReferencesAt extensions root (filesOf es) (symbolsOf es) path) :
    RefersFrom es path false r := by
  unfold symbolReferencesAt at h
  split at h
  · exact absurd h (by simp)
  · next imported hne =>
      simp only [symbolLinks, List.mem_flatMap, List.mem_filterMap] at h
      obtain ⟨e, he, key, -, name, -, hr⟩ := h
      have hkind : key.relation ≠ .contains := by cases key <;> simp [ReferenceKey.relation]
      split at hr
      · exact absurd hr (by simp)
      · obtain ⟨target, htarget, rfl⟩ := Option.map_eq_some_iff.1 hr
        cases hown : (symbolsOf es).get? path with
        | none => simp [hown] at he
        | some own =>
            rw [hown, Option.getD_some] at he
            obtain ⟨hemem, hepath, hekind⟩ := mem_of_get?_symbolsOf hown he
            have hmem := List.mem_of_find?_eq_some htarget
            obtain ⟨q, hq, hmem⟩ := List.mem_flatMap.1 hmem
            cases hthere : (symbolsOf es).get? q with
            | none => simp [hthere] at hmem
            | some there =>
                rw [hthere, Option.getD_some] at hmem
                obtain ⟨htmem, htpath, -⟩ := mem_of_get?_symbolsOf hthere hmem
                exact ⟨hkind, rfl, ⟨e, hemem, target, htmem, rfl, rfl, hepath,
                  htpath ▸ ne_of_mem_importedPaths hq, by simp [hekind]⟩⟩

/-- A resolved reference is one of the file or one of the symbols at some path. -/
theorem mem_references {es : List Entity} {r : Relationship} (h : r ∈ references extensions root es) :
    ∃ path, r ∈ fileReferencesAt extensions root (filesOf es) path ∨
      r ∈ symbolReferencesAt extensions root (filesOf es) (symbolsOf es) path := by
  rw [references, List.mem_append, List.mem_flatMap, List.mem_flatMap] at h
  rcases h with ⟨path, -, h⟩ | ⟨path, -, h⟩
  · exact ⟨path, .inl h⟩
  · exact ⟨path, .inr h⟩

theorem mem_of_lastWith {l : List Relationship} {id : String} {r : Relationship} (h : lastWith l id = some r) :
    r ∈ l ∧ r.id = id :=
  ⟨List.mem_reverse.1 (List.mem_of_find?_eq_some h), by simpa using List.find?_some h⟩

/-- **What is discovered joins entities of different paths** and is no containment. -/
theorem discover_joins {es : List Entity} {r : Relationship} (h : r ∈ discover extensions es root) :
    ∃ path isFile, RefersFrom es path isFile r := by
  obtain ⟨path, hr | hr⟩ := mem_references (mem_of_lastWith ((mem_discover_iff es r).1 h)).1
  · exact ⟨path, true, mem_fileReferencesAt hr⟩
  · exact ⟨path, false, mem_symbolReferencesAt hr⟩

/-! ## The order of paths does not matter -/

theorem lastWith_append (l m : List Relationship) (id : String) :
    lastWith (l ++ m) id = (lastWith m id).or (lastWith l id) := by
  rw [lastWith, List.reverse_append, List.find?_append, lastWith, lastWith]

theorem lastWith_eq_none {l : List Relationship} {id : String} (h : ∀ r ∈ l, r.id ≠ id) :
    lastWith l id = none := by
  rw [lastWith, List.find?_eq_none]
  exact fun r hr => by simpa using h r (List.mem_reverse.1 hr)

/-- If only one of the groups has an id, the last one of it overall is the last one of that group. -/
theorem lastWith_flatMap {groups : String → List Relationship} {keys : List String} {k id : String}
    (hk : k ∈ keys) (honly : ∀ k', k' ≠ k → ∀ r ∈ groups k', r.id ≠ id) :
    lastWith (keys.flatMap groups) id = lastWith (groups k) id := by
  induction keys with
  | nil => exact absurd hk (by simp)
  | cons k' rest ih =>
      rw [List.flatMap_cons, lastWith_append]
      by_cases hrest : k ∈ rest
      · rw [ih hrest]
        by_cases he : k' = k
        · rw [he]; cases lastWith (groups k) id <;> rfl
        · rw [lastWith_eq_none (honly k' he), Option.or_none]
      · have he : k = k' := by simpa [hrest] using hk
        subst he
        have hnone : lastWith (rest.flatMap groups) id = none := lastWith_eq_none fun r hr => by
          obtain ⟨k', hk', hr⟩ := List.mem_flatMap.1 hr
          exact honly k' (fun he => hrest (he ▸ hk')) r hr
        rw [hnone, Option.none_or]

/-- Ids tell entities apart, and the ends of relationships. -/
structure IdsTell (es : List Entity) : Prop where
  entity_ext : ∀ a ∈ es, ∀ b ∈ es, a.id = b.id → a = b
  ends_of_id : ∀ a ∈ es, ∀ b ∈ es, ∀ a' ∈ es, ∀ b' ∈ es, ∀ k k' : RelationKind,
    relationshipId a.id k.name b.id = relationshipId a'.id k'.name b'.id → a.id = a'.id ∧ b.id = b'.id

/-- Ids without blanks tell the ends of relationships. -/
theorem IdsTell.of_blankless {es : List Entity} (hids : (es.map Entity.id).Nodup)
    (hblank : ∀ e ∈ es, ' ' ∉ e.id.toList) : IdsTell es where
  entity_ext a ha b hb hid := List.inj_on_of_nodup_map hids ha hb hid
  ends_of_id a ha b _ a' ha' b' _ k k' hid := by
    have hsource := source_of_blankless (hblank a ha) (hblank a' ha') hid
    rw [hsource] at hid
    exact ⟨hsource, (relationshipId_inj hid).2⟩

/-- Relationships of one id start at one place. -/
theorem RefersFrom.eq_of_id_eq {es : List Entity} (h : IdsTell es) {p q : String} {b c : Bool}
    {r r' : Relationship} (hr : RefersFrom es p b r) (hr' : RefersFrom es q c r') (hid : r.id = r'.id) :
    p = q ∧ b = c := by
  obtain ⟨-, hrid, x, hx, y, hy, hxs, hyt, rfl, -, rfl⟩ := hr
  obtain ⟨-, hrid', x', hx', y', hy', hxs', hyt', rfl, -, rfl⟩ := hr'
  rw [hrid, hrid', ← hxs, ← hyt, ← hxs', ← hyt'] at hid
  have hx := h.entity_ext x hx x' hx' (h.ends_of_id x hx y hy x' hx' y' hy' _ _ hid).1
  exact ⟨by rw [hx], by rw [hx]⟩

/-- Where no other reference has the id of a reference of a file, the last one of the id is one of that file. -/
theorem lastWith_references_of_ne {es : List Entity} {path : String} {r : Relationship}
    (hr : r ∈ fileReferencesAt extensions root (filesOf es) path)
    (hfiles : ∀ q, q ≠ path → ∀ r' ∈ fileReferencesAt extensions root (filesOf es) q, r'.id ≠ r.id)
    (hsymbols : ∀ q, ∀ r' ∈ symbolReferencesAt extensions root (filesOf es) (symbolsOf es) q, r'.id ≠ r.id) :
    lastWith (references extensions root es) r.id
      = lastWith (fileReferencesAt extensions root (filesOf es) path) r.id := by
  have hkey : path ∈ (filesOf es).keys := by
    rw [← Dict.contains_iff_mem_keys, ← Bool.not_eq_false, ← Dict.get?_eq_none_iff]
    intro hnone
    simp [fileReferencesAt, linksAt, hnone] at hr
  have hnone : lastWith ((symbolsOf es).keys.flatMap
      (symbolReferencesAt extensions root (filesOf es) (symbolsOf es))) r.id = none :=
    lastWith_eq_none fun r' hr' => by
      obtain ⟨q, -, hr'⟩ := List.mem_flatMap.1 hr'
      exact hsymbols q r' hr'
  rw [references, lastWith_append, hnone, Option.none_or, lastWith_flatMap hkey hfiles]

theorem lastWith_references_file {es : List Entity} (h : IdsTell es) {path : String} {r : Relationship}
    (hr : r ∈ fileReferencesAt extensions root (filesOf es) path) :
    lastWith (references extensions root es) r.id
      = lastWith (fileReferencesAt extensions root (filesOf es) path) r.id := by
  have hfrom := mem_fileReferencesAt hr
  refine lastWith_references_of_ne hr (fun q hq r' hr' hid => ?_) fun q r' hr' hid => ?_
  · exact hq (hfrom.eq_of_id_eq h (mem_fileReferencesAt hr') hid.symm).1.symm
  · exact Bool.noConfusion (hfrom.eq_of_id_eq h (mem_symbolReferencesAt hr') hid.symm).2

theorem lastWith_references_symbol {es : List Entity} (h : IdsTell es) {path : String} {r : Relationship}
    (hr : r ∈ symbolReferencesAt extensions root (filesOf es) (symbolsOf es) path) :
    lastWith (references extensions root es) r.id
      = lastWith (symbolReferencesAt extensions root (filesOf es) (symbolsOf es) path) r.id := by
  have hfrom := mem_symbolReferencesAt hr
  have hkey : path ∈ (symbolsOf es).keys := by
    rw [← Dict.contains_iff_mem_keys, ← Bool.not_eq_false, ← Dict.get?_eq_none_iff]
    intro hnone
    unfold symbolReferencesAt at hr
    split at hr
    · exact absurd hr (by simp)
    · simp [hnone, symbolLinks] at hr
  have hfiles : lastWith ((filesOf es).keys.flatMap (fileReferencesAt extensions root (filesOf es))) r.id = none :=
    lastWith_eq_none fun r' hr' hid => by
      obtain ⟨q, -, hr'⟩ := List.mem_flatMap.1 hr'
      exact Bool.noConfusion (hfrom.eq_of_id_eq h (mem_fileReferencesAt hr') hid.symm).2
  rw [references, lastWith_append, hfiles, Option.or_none, lastWith_flatMap hkey]
  intro q hq r' hr' hid
  exact hq (hfrom.eq_of_id_eq h (mem_symbolReferencesAt hr') hid.symm).1.symm

/-- A relationship is discovered if it is the last one of its id among the references of one path. -/
theorem mem_discover_iff_at {es : List Entity} (h : IdsTell es) (r : Relationship) :
    r ∈ discover extensions es root ↔ ∃ path,
      lastWith (fileReferencesAt extensions root (filesOf es) path) r.id = some r ∨
      lastWith (symbolReferencesAt extensions root (filesOf es) (symbolsOf es) path) r.id = some r := by
  rw [mem_discover_iff]
  constructor
  · intro hlast
    obtain ⟨path, hr | hr⟩ := mem_references (mem_of_lastWith hlast).1
    · exact ⟨path, .inl (lastWith_references_file h hr ▸ hlast)⟩
    · exact ⟨path, .inr (lastWith_references_symbol h hr ▸ hlast)⟩
  · rintro ⟨path, hlast | hlast⟩
    · rw [lastWith_references_file h (mem_of_lastWith hlast).1, hlast]
    · rw [lastWith_references_symbol h (mem_of_lastWith hlast).1, hlast]

/-- **Discovery sees the entities path by path.** Lists with the same entities at every path give the same
    relationships. -/
theorem mem_discover_congr {es es' : List Entity} (h : IdsTell es) (h' : IdsTell es')
    (hsame : ∀ path, atPath es path = atPath es' path) (r : Relationship) :
    r ∈ discover extensions es root ↔ r ∈ discover extensions es' root := by
  have hfiles : (filesOf es).get? = (filesOf es').get? := funext fun path => by
    rw [get?_filesOf, get?_filesOf, hsame]
  have hsymbols : (symbolsOf es).get? = (symbolsOf es').get? := funext fun path => by
    rw [get?_symbolsOf, get?_symbolsOf, hsame]
  have hlinks : linksAt extensions root (filesOf es) = linksAt extensions root (filesOf es') := funext fun path => by
    simp only [linksAt, fileLinks, resolveReference, hfiles]
  have hat : fileReferencesAt extensions root (filesOf es) = fileReferencesAt extensions root (filesOf es') :=
    funext fun path => by simp only [fileReferencesAt, hlinks]
  have hsymbolsAt : symbolReferencesAt extensions root (filesOf es) (symbolsOf es)
      = symbolReferencesAt extensions root (filesOf es') (symbolsOf es') := funext fun path => by
    simp only [symbolReferencesAt, symbolLinks, importedSymbol, hlinks, hsymbols]
  rw [mem_discover_iff_at h, mem_discover_iff_at h', hat, hsymbolsAt]

end CodeAtlas.Link
