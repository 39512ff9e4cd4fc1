import CodeAtlas.Proofs.Dict
import CodeAtlas.Proofs.Order
import CodeAtlas.Registry

set_option autoImplicit false

/-! # Dispatch after registrations

A registration changes both dictionaries of a registry, each by a rule of its own: an extension moves to the parser
that claims it, and a language keeps its place and gets the new parser. So after any number of registrations the parser
of an extension is that of the last one that claims it (`get?_byExtension_ofRegistrations`), and the languages stand
where they came first, each with the parser of its newest registration (`mem_byLanguage_iff`).

Dispatch is then a rule on registrations alone (`Dispatch`), and a registry answers what the rule says
(`parserFor_eq_iff`). -/

namespace CodeAtlas

/-- A parser and the language that it is registered under. -/
structure Registration where
  language : String
  parser : Parser

namespace Registration

variable {registrations : List Registration} {g g' : Registration} {p : Registration → Prop}

/-- The extensions that a registration claims, in lower case. -/
def claims (g : Registration) : List String := g.parser.extensions.map Unicode.lower

/-- Of the registrations with a property, one is the last. -/
def IsLast (registrations : List Registration) (p : Registration → Prop) (g : Registration) : Prop :=
  ∃ before after, registrations = before ++ g :: after ∧ p g ∧ ∀ g' ∈ after, ¬ p g'

/-- Is a registration the newest one of a language? -/
def IsNewest (registrations : List Registration) (language : String) : Registration → Prop :=
  IsLast registrations fun g => g.language = language

/-- The languages in the order of their first registration. -/
def languages (registrations : List Registration) : List String :=
  (registrations.map Registration.language).eraseDups

theorem find?_reverse_eq_some_iff [DecidablePred p] :
    registrations.reverse.find? (fun g => decide (p g)) = some g ↔ IsLast registrations p g := by
  rw [List.find?_eq_some_iff_append]
  constructor
  · rintro ⟨hg, after, before, hsplit, hafter⟩
    refine ⟨before.reverse, after.reverse, ?_, by simpa using hg, fun g' hg' => ?_⟩
    · simpa using congrArg List.reverse hsplit
    · simpa using hafter g' (List.mem_reverse.1 hg')
  · rintro ⟨before, after, rfl, hg, hafter⟩
    refine ⟨by simpa using hg, after.reverse, before.reverse, by simp, fun g' hg' => ?_⟩
    simpa using hafter g' (List.mem_reverse.1 hg')

theorem IsLast.unique [DecidablePred p] (h : IsLast registrations p g) (h' : IsLast registrations p g') : g = g' :=
  Option.some.inj ((find?_reverse_eq_some_iff.2 h).symm.trans (find?_reverse_eq_some_iff.2 h'))

end Registration

namespace Registry

open Registration

variable {registrations : List Registration} {path extension language : String} {parser : Parser}
  {answer : Except Fault (Option Parser)}

/-- The registry after registrations. -/
def ofRegistrations (registrations : List Registration) : Registry :=
  registrations.foldl (fun r g => r.register g.language g.parser) empty

theorem ofRegistrations_append_singleton (before : List Registration) (g : Registration) :
    ofRegistrations (before ++ [g]) = (ofRegistrations before).register g.language g.parser := by
  rw [ofRegistrations, List.foldl_append]
  rfl

/-! ## Languages -/

theorem byLanguage_ofRegistrations (registrations : List Registration) :
    (ofRegistrations registrations).byLanguage = Dict.ofList (registrations.map fun g => (g.language, g.parser)) := by
  induction registrations using List.reverseRecOn with
  | nil => rfl
  | append_singleton before g ih =>
      rw [ofRegistrations_append_singleton, register, ih, List.map_append, List.map_singleton,
        Dict.ofList_append_singleton]

theorem keys_byLanguage (registrations : List Registration) :
    (ofRegistrations registrations).byLanguage.keys = Registration.languages registrations := by
  rw [byLanguage_ofRegistrations, Dict.keys_ofList, List.map_map]
  rfl

/-- Every language has the parser of its newest registration. -/
theorem mem_byLanguage_iff :
    (language, parser) ∈ (ofRegistrations registrations).byLanguage.entries
      ↔ IsNewest registrations language ⟨language, parser⟩ := by
  have hnodup : (Dict.ofList (registrations.map fun g => (g.language, g.parser))).keys.Nodup :=
    Dict.nodup_keys_foldl_insert Prod.fst (fun _ e => e.2) _ List.nodup_nil
  rw [byLanguage_ofRegistrations, Dict.mem_entries_iff hnodup, Dict.get?_ofList, ← List.map_reverse, List.find?_map,
    Option.map_map, IsNewest, ← find?_reverse_eq_some_iff, Option.map_eq_some_iff]
  constructor
  · rintro ⟨g, hg, rfl⟩
    obtain rfl : g.language = language := by simpa using List.find?_some hg
    exact hg
  · exact fun h => ⟨_, h, rfl⟩

/-! ## Extensions -/

/-- An extension moves to the parser that claims it; every other one stays where it is. -/
theorem get?_byExtension_register (r : Registry) (g : Registration) (extension : String) :
    (r.register g.language g.parser).byExtension.get? extension
      = if extension ∈ g.claims then some g.parser else r.byExtension.get? extension := by
  have hinsert : ∀ (l : List String) (d : Dict String Parser),
      (l.foldl (fun d e => d.insert (Unicode.lower e) g.parser) d).get? extension
        = if extension ∈ l.map Unicode.lower then some g.parser else d.get? extension := fun l => by
    induction l with
    | nil => exact fun _ => rfl
    | cons e rest ih =>
        intro d
        rw [List.foldl_cons, ih, Dict.get?_insert]
        by_cases he : extension = Unicode.lower e <;> simp [he]
  exact hinsert g.parser.extensions r.byExtension

/-- The parser of an extension is that of the last registration that claims it. -/
theorem get?_byExtension_ofRegistrations (registrations : List Registration) (extension : String) :
    (ofRegistrations registrations).byExtension.get? extension
      = (registrations.reverse.find? fun g => decide (extension ∈ g.claims)).map Registration.parser := by
  induction registrations using List.reverseRecOn with
  | nil => rfl
  | append_singleton before g ih =>
      rw [ofRegistrations_append_singleton, get?_byExtension_register, ih, List.reverse_append, List.reverse_singleton,
        List.singleton_append, List.find?_cons]
      by_cases hclaim : extension ∈ g.claims <;> simp [hclaim]

theorem nodup_keys_byExtension (registrations : List Registration) :
    (ofRegistrations registrations).byExtension.keys.Nodup := by
  induction registrations using List.reverseRecOn with
  | nil => exact List.nodup_nil
  | append_singleton before g ih =>
      rw [ofRegistrations_append_singleton]
      exact Dict.nodup_keys_foldl_insert Unicode.lower (fun _ _ => g.parser) g.parser.extensions ih

theorem get?_byExtension_eq_some_iff :
    (ofRegistrations registrations).byExtension.get? extension = some parser
      ↔ ∃ g, IsLast registrations (extension ∈ ·.claims) g ∧ g.parser = parser := by
  rw [get?_byExtension_ofRegistrations, Option.map_eq_some_iff]
  simp only [find?_reverse_eq_some_iff]

theorem get?_byExtension_eq_none_iff :
    (ofRegistrations registrations).byExtension.get? extension = none ↔ ∀ g ∈ registrations, extension ∉ g.claims := by
  simp [get?_byExtension_ofRegistrations]

/-- The keys of the extensions are what was claimed. -/
theorem mem_keys_byExtension_iff :
    extension ∈ (ofRegistrations registrations).byExtension.keys ↔ ∃ g ∈ registrations, extension ∈ g.claims := by
  rw [← Dict.contains_iff_mem_keys, ← Bool.not_eq_false, ← Dict.get?_eq_none_iff, get?_byExtension_eq_none_iff]
  push Not
  rfl

/-! ## Dispatch -/

/-- Asked through its newest parser, a language says that it cannot parse a path. -/
def Declines (registrations : List Registration) (path language : String) : Prop :=
  ∃ g, IsNewest registrations language g ∧ g.parser.canParse path = .ok false

/-- Is a registration the newest one of its language, and do all languages before that decline? -/
def IsAsked (registrations : List Registration) (path : String) (g : Registration) : Prop :=
  IsNewest registrations g.language g ∧ ∃ before after,
    Registration.languages registrations = before ++ g.language :: after ∧
      ∀ language ∈ before, Declines registrations path language

/-- The parser of a path is that of the last registration that claims its extension. If none does, the languages are
    asked one after another in the order of their first registration, each through its newest parser, until one can
    parse the path or fails to say. -/
inductive Dispatch (registrations : List Registration) (path : String) : Except Fault (Option Parser) → Prop
  | claimed {g : Registration} (hg : IsLast registrations (Path.extension path ∈ ·.claims) g) :
      Dispatch registrations path (.ok (some g.parser))
  | able {g : Registration} (hfree : ∀ g ∈ registrations, Path.extension path ∉ g.claims)
      (hg : IsAsked registrations path g) (hable : g.parser.canParse path = .ok true) :
      Dispatch registrations path (.ok (some g.parser))
  | fails {g : Registration} {fault : Fault} (hfree : ∀ g ∈ registrations, Path.extension path ∉ g.claims)
      (hg : IsAsked registrations path g) (hfault : g.parser.canParse path = .error fault) :
      Dispatch registrations path (.error fault)
  | unknown (hfree : ∀ g ∈ registrations, Path.extension path ∉ g.claims)
      (hall : ∀ language ∈ Registration.languages registrations, Declines registrations path language) :
      Dispatch registrations path (.ok none)

theorem declines_iff (h : (language, parser) ∈ (ofRegistrations registrations).byLanguage.entries) :
    Declines registrations path language ↔ parser.canParse path = .ok false := by
  rw [mem_byLanguage_iff] at h
  constructor
  · rintro ⟨g, hg, hdeclines⟩
    rwa [hg.unique h] at hdeclines
  · exact fun hdeclines => ⟨_, h, hdeclines⟩

theorem all_decline_iff : (∀ language ∈ Registration.languages registrations, Declines registrations path language) ↔
    ∀ e ∈ (ofRegistrations registrations).byLanguage.entries, e.2.canParse path = .ok false := by
  rw [← keys_byLanguage, Dict.keys, List.forall_mem_map]
  exact forall₂_congr fun e he => declines_iff he

/-- What is asked stands after entries that decline. -/
theorem isAsked_iff {g : Registration} : IsAsked registrations path g ↔
    ∃ before after, (ofRegistrations registrations).byLanguage.entries = before ++ (g.language, g.parser) :: after ∧
      ∀ e ∈ before, e.2.canParse path = .ok false := by
  constructor
  · rintro ⟨hg, before, after, hlanguages, hbefore⟩
    rw [← keys_byLanguage, Dict.keys, List.map_eq_append_iff] at hlanguages
    obtain ⟨entriesBefore, entriesAfter, hentries, rfl, hafter⟩ := hlanguages
    obtain ⟨⟨language, parser⟩, entriesAfter, rfl, rfl, rfl⟩ := List.map_eq_cons_iff.1 hafter
    have hnewest : IsNewest registrations g.language ⟨g.language, parser⟩ :=
      mem_byLanguage_iff.1 (by rw [hentries]; simp)
    obtain rfl : parser = g.parser := congrArg Registration.parser (hnewest.unique hg)
    exact ⟨entriesBefore, entriesAfter, hentries, fun e he =>
      (declines_iff (by rw [hentries]; simp [he])).1 (hbefore e.1 (List.mem_map_of_mem he))⟩
  · rintro ⟨before, after, hentries, hbefore⟩
    refine ⟨mem_byLanguage_iff.1 (by rw [hentries]; simp), before.map Prod.fst, after.map Prod.fst, ?_, fun l hl => ?_⟩
    · rw [← keys_byLanguage, Dict.keys, hentries]
      simp
    · obtain ⟨e, he, rfl⟩ := List.mem_map.1 hl
      exact (declines_iff (by rw [hentries]; simp [he])).2 (hbefore e he)

/-- Parsers that decline are passed over. -/
theorem firstAble_append {entries : List (String × Parser)} (h : ∀ e ∈ entries, e.2.canParse path = .ok false)
    (rest : List Parser) : firstAble path (entries.map Prod.snd ++ rest) = firstAble path rest := by
  induction entries with
  | nil => rfl
  | cons e entries ih =>
      rw [List.map_cons, List.cons_append, firstAble, h e (List.mem_cons_self ..),
        ← ih fun e' he' => h e' (List.mem_cons_of_mem _ he')]
      rfl

theorem firstAble_of_all_decline {entries : List (String × Parser)}
    (h : ∀ e ∈ entries, e.2.canParse path = .ok false) : firstAble path (entries.map Prod.snd) = .ok none := by
  simpa [firstAble] using firstAble_append h []

/-- Either all decline, or there is a first that does not. -/
theorem all_decline_or_first (path : String) (entries : List (String × Parser)) :
    (∀ e ∈ entries, e.2.canParse path = .ok false) ∨ ∃ before e after, entries = before ++ e :: after ∧
      (∀ e ∈ before, e.2.canParse path = .ok false) ∧ e.2.canParse path ≠ .ok false := by
  induction entries with
  | nil => exact .inl (by simp)
  | cons e rest ih =>
      by_cases he : e.2.canParse path = .ok false
      · rcases ih with hall | ⟨before, e', after, rfl, hbefore, he'⟩
        · exact .inl (List.forall_mem_cons.2 ⟨he, hall⟩)
        · exact .inr ⟨e :: before, e', after, rfl, List.forall_mem_cons.2 ⟨he, hbefore⟩, he'⟩
      · exact .inr ⟨[], e, rest, rfl, by simp, he⟩

/-- If no extension decides, a registration that is asked and does not decline does. -/
theorem parserFor_of_isAsked {g : Registration} (hfree : ∀ g ∈ registrations, Path.extension path ∉ g.claims)
    (hg : IsAsked registrations path g) (hdecides : g.parser.canParse path ≠ .ok false) :
    (ofRegistrations registrations).parserFor path
      = (g.parser.canParse path).map fun _ => some g.parser := by
  obtain ⟨before, after, hentries, hbefore⟩ := isAsked_iff.1 hg
  rw [parserFor, get?_byExtension_eq_none_iff.2 hfree, Dict.values, hentries, List.map_append, List.map_cons]
  refine (firstAble_append hbefore _).trans ?_
  rw [firstAble]
  rcases hable : g.parser.canParse path with fault | able
  · rfl
  · cases able with
    | false => exact absurd hable hdecides
    | true => rfl

/-- **A registry answers what the rule of dispatch says.** -/
theorem parserFor_eq_iff :
    (ofRegistrations registrations).parserFor path = answer ↔ Dispatch registrations path answer := by
  constructor
  · rintro rfl
    cases hget : (ofRegistrations registrations).byExtension.get? (Path.extension path) with
    | some parser =>
        obtain ⟨g, hg, rfl⟩ := get?_byExtension_eq_some_iff.1 hget
        rw [parserFor, hget]
        exact .claimed hg
    | none =>
        have hfree := get?_byExtension_eq_none_iff.1 hget
        rcases all_decline_or_first path (ofRegistrations registrations).byLanguage.entries with
          hall | ⟨before, e, after, hentries, hbefore, he⟩
        · rw [parserFor, hget]
          exact firstAble_of_all_decline hall ▸ .unknown hfree (all_decline_iff.2 hall)
        · have hasked : IsAsked registrations path ⟨e.1, e.2⟩ := isAsked_iff.2 ⟨before, after, hentries, hbefore⟩
          rw [parserFor_of_isAsked hfree hasked he]
          rcases hable : e.2.canParse path with fault | able
          · exact .fails hfree hasked hable
          · cases able with
            | false => exact absurd hable he
            | true => exact .able hfree hasked hable
  · rintro (⟨hg⟩ | ⟨hfree, hg, hable⟩ | ⟨hfree, hg, hfault⟩ | ⟨hfree, hall⟩)
    · rw [parserFor, get?_byExtension_eq_some_iff.2 ⟨_, hg, rfl⟩]
    · rw [parserFor_of_isAsked hfree hg (by simp [hable]), hable]
      rfl
    · rw [parserFor_of_isAsked hfree hg (by simp [hfault]), hfault]
      rfl
    · rw [parserFor, get?_byExtension_eq_none_iff.2 hfree]
      exact firstAble_of_all_decline (all_decline_iff.1 hall)

/-- **What a registry answers follows from the registrations.** A path goes to the parser of the last registration that
    claims its extension, or else to the first language, in the order of first registration, whose newest parser can
    parse it. The extensions are all that were ever claimed, each once and in ascending order, and the languages stand
    in the order of their first registration. -/
theorem answers_ofRegistrations (registrations : List Registration) :
    (∀ path answer, (ofRegistrations registrations).parserFor path = answer ↔ Dispatch registrations path answer) ∧
    (∀ extension, extension ∈ (ofRegistrations registrations).supportedExtensions ↔
      ∃ g ∈ registrations, extension ∈ g.claims) ∧
    ((ofRegistrations registrations).supportedExtensions.Pairwise fun a b => Text.before a b = true) ∧
    (ofRegistrations registrations).languages = (registrations.map Registration.language).eraseDups := by
  refine ⟨fun _ _ => parserFor_eq_iff, fun extension => ?_, ?_, keys_byLanguage registrations⟩
  · rw [supportedExtensions, Text.sort, List.mem_mergeSort, mem_keys_byExtension_iff]
  · exact Text.pairwise_sort (nodup_keys_byExtension registrations)

end Registry

end CodeAtlas
