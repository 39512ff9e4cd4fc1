import CodeAtlas.Proofs.Graph.Tables
import CodeAtlas.Proofs.Similarity.Matched

set_option autoImplicit false

/-! # Searches by name

A search by name gives the ids of the entities with one name their scores, or none, and ranks the ids of all names.
Since the groups of the names hold every entity once (`names_flatMap_perm`), what comes out is a ranking of exactly the
entities that have a score (`rankIds_spec`).

The search for a similar name scores by similarity alone, and since only a text itself is wholly similar to a text, it
finds at threshold 1 the entities of exactly that name, whatever the case (`fuzzyByName_isRanking`). The search for
related entities adds the names that contain the query and blends the name's share with the kind and the connectivity
of the entity; of two entities alike in those, one whose name is the query is above one whose name is not
(`searchRelated_isRanking`). Scores are exact throughout, and texts are compared by their code units. -/

namespace CodeAtlas

namespace Text

theorem occursIn_iff (p l : List UInt16) : occursIn p l = true ↔ p <:+: l := by
  induction l with
  | nil => simp [occursIn]
  | cons x rest ih => rw [occursIn, Bool.or_eq_true, List.isPrefixOf_iff_prefix, ih, List.infix_cons_iff]

theorem includes_iff (s p : String) : includes s p = true ↔ units p <:+: units s := occursIn_iff _ _

end Text

namespace GraphIndex

open CodeAtlas.Graph Scored

variable {g : Graph}

/-! ## Ranking entities -/

/-- The ids that have a score under the name they are listed by, ranked. -/
def rankIds (ix : GraphIndex) (score : String → String → Option ℚ) : List (Scored ℚ) :=
  rank <| ix.names.entries.flatMap fun group => group.2.filterMap fun id => (score group.1 id).map (Scored.mk id)

theorem map_id_scored_sublist (score : Entity → Option ℚ) (l : List Entity) :
    ((l.filterMap fun e => (score e).map (Scored.mk e.id)).map Scored.id).Sublist (l.map Entity.id) := by
  induction l with
  | nil => exact .slnil
  | cons e rest ih =>
      rw [List.filterMap_cons]
      cases score e with
      | none => exact ih.cons _
      | some s => exact ih.cons_cons _

/-- What is ranked are the ids of the entities that have a score. -/
theorem rankIds_spec (hg : Valid g) (score : String → String → Option ℚ) :
    IsRanking ((ofGraph g).rankIds score) ∧
    ∀ s, s ∈ (ofGraph g).rankIds score ↔ ∃ e ∈ g.entities, score e.name e.id = some s.score ∧ e.id = s.id := by
  have hperm : ((ofGraph g).names.entries.flatMap fun group =>
      group.2.filterMap fun id => (score group.1 id).map (Scored.mk id)).Perm
      (g.entities.filterMap fun e => (score e.name e.id).map (Scored.mk e.id)) := by
    simp only [List.filterMap_eq_flatMap_toList]
    exact names_flatMap_perm g fun name id => ((score name id).map (Scored.mk id)).toList
  have hids := (hperm.map _).nodup_iff.2 (hg.nodup_entities.sublist (map_id_scored_sublist _ g.entities))
  refine ⟨isRanking_rank hids, fun s => ?_⟩
  rw [rankIds, (rank_perm _).mem_iff, hperm.mem_iff, List.mem_filterMap]
  refine exists_congr fun e => and_congr_right fun _ => ?_
  rw [Option.map_eq_some_iff]
  constructor
  · rintro ⟨x, hx, rfl⟩
    exact ⟨hx, rfl⟩
  · rintro ⟨hx, hid⟩
    exact ⟨s.score, hx, by rw [hid]⟩

/-- No more ids are ranked than there are entities. -/
theorem length_rankIds_le (hg : Valid g) (score : String → String → Option ℚ) :
    ((ofGraph g).rankIds score).length ≤ g.entities.length := by
  obtain ⟨hranking, hmem⟩ := rankIds_spec hg score
  have hids : (((ofGraph g).rankIds score).map Scored.id).Subperm (g.entities.map Entity.id) :=
    hranking.nodup.subperm fun id hid => by
      obtain ⟨s, hs, rfl⟩ := List.mem_map.1 hid
      obtain ⟨e, he, -, hid⟩ := (hmem s).1 hs
      exact List.mem_map.2 ⟨e, he, hid⟩
  simpa using hids.length_le

/-! ## Similar names -/

/-- How similar a name is to a query, whatever the case of their letters. -/
def nameSimilarity (query name : String) : ℚ :=
  Similarity.ratio (Text.units (Unicode.lower query)) (Text.units (Unicode.lower name))

theorem nameSimilarity_eq_one_iff (query name : String) :
    nameSimilarity query name = 1 ↔ Text.units (Unicode.lower name) = Text.units (Unicode.lower query) := by
  rw [nameSimilarity, Similarity.ratio_eq_one_iff, eq_comm]

theorem nameSimilarity_le_one (query name : String) : nameSimilarity query name ≤ 1 := Similarity.ratio_le_one _ _

theorem one_le_nameSimilarity_iff (query name : String) :
    1 ≤ nameSimilarity query name ↔ Text.units (Unicode.lower name) = Text.units (Unicode.lower query) := by
  rw [← nameSimilarity_eq_one_iff]
  exact ⟨fun h => le_antisymm (nameSimilarity_le_one query name) h, fun h => h.ge⟩

theorem fuzzyByName_eq (ix : GraphIndex) (query : String) (threshold : ℚ) : ix.fuzzyByName query threshold =
    ix.rankIds fun name _ =>
      if nameSimilarity query name < threshold then none else some (nameSimilarity query name) := by
  unfold fuzzyByName rankIds nameSimilarity
  refine congrArg rank (List.flatMap_congr fun group _ => ?_)
  by_cases hlow : Similarity.ratio (Text.units (Unicode.lower query)) (Text.units (Unicode.lower group.1)) < threshold
  all_goals simp [hlow]

theorem fuzzyByName_spec (hg : Valid g) (query : String) (threshold : ℚ) :
    IsRanking ((ofGraph g).fuzzyByName query threshold) ∧
    ∀ s, s ∈ (ofGraph g).fuzzyByName query threshold ↔
      ∃ e ∈ g.entities, s = ⟨e.id, nameSimilarity query e.name⟩ ∧ threshold ≤ nameSimilarity query e.name := by
  rw [fuzzyByName_eq]
  refine ⟨(rankIds_spec hg _).1, fun s => ((rankIds_spec hg _).2 s).trans ?_⟩
  refine exists_congr fun e => and_congr_right fun _ => ?_
  by_cases hlow : nameSimilarity query e.name < threshold
  · simp [hlow]
  · obtain ⟨id, score⟩ := s
    simp [hlow, not_lt.1 hlow, eq_comm, and_comm]

/-- **A search for a similar name finds the entities that are similar enough.** On the graph of any changes, frozen or
    not: the result ranks exactly the entities whose lower-cased name has at least the asked similarity to the
    lower-cased query, each once and by that similarity. At threshold 1 these are the entities whose lower-cased name is
    the lower-cased query; those whose name is the query as it stands are among them. -/
theorem fuzzyByName_isRanking {changes : List Change} {reached : Graph} (hrun : run changes = .ok reached) {g : Graph}
    (hg : g = reached ∨ g = reached.freeze) (query : String) :
    (∀ threshold : ℚ, IsRanking ((ofGraph g).fuzzyByName query threshold) ∧
      ∀ s, s ∈ (ofGraph g).fuzzyByName query threshold ↔
        ∃ e ∈ reached.entities, s = ⟨e.id, nameSimilarity query e.name⟩ ∧ threshold ≤ nameSimilarity query e.name) ∧
    (∀ s, s ∈ (ofGraph g).fuzzyByName query (1 : ℚ) ↔
      ∃ e ∈ reached.entities, s = ⟨e.id, 1⟩ ∧
        Text.units (Unicode.lower e.name) = Text.units (Unicode.lower query)) ∧
    ∀ id ∈ (ofGraph g).byName query, ⟨id, 1⟩ ∈ (ofGraph g).fuzzyByName query (1 : ℚ) := by
  obtain ⟨hvalid, hents, -⟩ := valid_of_run_freeze hrun hg
  rw [← hents]
  have hexact : ∀ s, s ∈ (ofGraph g).fuzzyByName query (1 : ℚ) ↔ ∃ e ∈ g.entities, s = ⟨e.id, 1⟩ ∧
      Text.units (Unicode.lower e.name) = Text.units (Unicode.lower query) := fun s => by
    rw [(fuzzyByName_spec hvalid query 1).2]
    refine exists_congr fun e => and_congr_right fun _ => ?_
    rw [one_le_nameSimilarity_iff]
    refine and_congr_left fun hname => ?_
    rw [(nameSimilarity_eq_one_iff query e.name).2 hname]
  refine ⟨fuzzyByName_spec hvalid query, hexact, fun id hid => ?_⟩
  obtain ⟨e, he, hname, rfl⟩ := (mem_byName_iff g query id).1 hid
  exact (hexact ⟨e.id, 1⟩).2 ⟨e, he, rfl, by rw [hname]⟩

/-- Two names that differ in the case of a letter, a longer one and another one. -/
def cased : List Change := [corner "load", corner "Load", corner "unload", corner "parse", side "load" "unload"]

/-- What the changes lead to. -/
def casedGraph : Graph := (run cased).toOption.getD .empty

theorem run_cased : run cased = .ok casedGraph := rfl

theorem fuzzyByName_cased : IsRanking ((ofGraph casedGraph.freeze).fuzzyByName "LOAD" (1 : ℚ)) ∧
    ∀ s, s ∈ (ofGraph casedGraph.freeze).fuzzyByName "LOAD" (1 : ℚ) ↔ ∃ id ∈ ["load", "Load"], s = ⟨id, 1⟩ := by
  obtain ⟨hspec, hexact, -⟩ := fuzzyByName_isRanking run_cased (.inr rfl) "LOAD"
  refine ⟨(hspec 1).1, fun s => (hexact s).trans ?_⟩
  have hids : (casedGraph.entities.filter fun e =>
      Text.units (Unicode.lower e.name) = Text.units (Unicode.lower "LOAD")).map Entity.id = ["load", "Load"] := by
    decide +kernel
  rw [← hids]
  simp [and_left_comm, and_comm]

/-! ## Related entities -/

/-- Does a name match a needle: is it the same text, a text that contains it, or similar enough to it? -/
def NameMatches (needle : String) (threshold : ℚ) (name : String) : Prop :=
  Text.units name = Text.units needle ∨ Text.units needle <:+: Text.units name ∨
    threshold ≤ Similarity.ratio (Text.units needle) (Text.units name)

instance (needle : String) (threshold : ℚ) (name : String) : Decidable (NameMatches needle threshold name) :=
  inferInstanceAs (Decidable (_ ∨ _ ∨ _))

/-- What a name that matches a needle scores: its similarity, and no less than a substring does if it contains it. -/
def nameShare (needle name : String) : ℚ :=
  let similarity : ℚ := Similarity.ratio (Text.units needle) (Text.units name)
  if Text.includes name needle then max substringScore similarity else similarity

section Shares

variable {needle name : String} {threshold : ℚ}

theorem nameShare_eq_one_iff : nameShare needle name = 1 ↔ Text.units name = Text.units needle := by
  have hsimilar := Similarity.ratio_eq_one_iff (Text.units needle) (Text.units name)
  rw [@eq_comm _ (Text.units name), ← hsimilar, nameShare]
  split
  · -- a substring's score is below 1, so it is the similarity that reaches it
    rw [max_eq_iff, substringScore, Scoring.ofRat_exact]
    constructor
    · rintro (⟨hone, -⟩ | ⟨hone, -⟩)
      · norm_num at hone
      · exact hone
    · intro hone
      refine .inr ⟨hone, ?_⟩
      rw [hone]
      norm_num
  · exact Iff.rfl

theorem nameShare_bounds : 0 ≤ nameShare needle name ∧ nameShare needle name ≤ 1 := by
  have hnonneg := Similarity.ratio_nonneg (Text.units needle) (Text.units name)
  have hle := Similarity.ratio_le_one (Text.units needle) (Text.units name)
  rw [nameShare]
  split
  · refine ⟨hnonneg.trans (le_max_right _ _), max_le ?_ hle⟩
    rw [substringScore, Scoring.ofRat_exact]
    norm_num
  · exact ⟨hnonneg, hle⟩

/-- A text contains itself, so the first of the three ways to match is a case of the second. -/
theorem nameMatches_iff : NameMatches needle threshold name ↔
    Text.includes name needle = true ∨ threshold ≤ Similarity.ratio (Text.units needle) (Text.units name) := by
  rw [NameMatches, Text.includes_iff, ← or_assoc]
  exact or_congr_left (or_iff_right_of_imp fun heq => heq ▸ List.infix_refl _)

theorem nameScore_eq_some_iff (s : ℚ) :
    nameScore needle threshold name = some s ↔ NameMatches needle threshold name ∧ nameShare needle name = s := by
  rw [nameMatches_iff, nameScore]
  by_cases hname : name = needle
  · have hshare := nameShare_eq_one_iff.2 (congrArg Text.units hname)
    have hincludes : Text.includes name needle = true := (Text.includes_iff _ _).2 (hname ▸ List.infix_refl _)
    rw [if_pos hname, and_iff_right (.inl hincludes), hshare]
    exact Option.some_inj
  · rw [if_neg hname, nameShare]
    by_cases hincludes : Text.includes name needle = true
    · simp [hincludes]
    · by_cases hlow : Similarity.ratio (Text.units needle) (Text.units name) < threshold
      · simp [hincludes, hlow]
      · simp [hincludes, hlow, not_lt.1 hlow]

end Shares

/-! ### Structure -/

theorem kindWeight_bounds (k : EntityKind) : 0 < (kindWeight k : ℚ) ∧ (kindWeight k : ℚ) ≤ 1 := by
  unfold kindWeight
  split_ifs <;> norm_num

theorem connectivity_bounds (ix : GraphIndex) (id : String) :
    0 ≤ (ix.connectivity id : ℚ) ∧ (ix.connectivity id : ℚ) ≤ 1 := by
  simp only [connectivity, Scoring.smaller_exact, Scoring.ofNat_exact]
  exact ⟨le_min (by norm_num) (div_nonneg (Nat.cast_nonneg _) (by norm_num)), min_le_left _ _⟩

theorem relevance_exact (ix : GraphIndex) (share : ℚ) (e : Entity) : ix.relevance share e =
    0.8 * share + 0.2 * (0.5 * kindWeight e.kind + 0.5 * ix.connectivity e.id) := rfl

/-! ### The search -/

/-- How related an entity is to a query in small letters. -/
def relatedness (ix : GraphIndex) (needle : String) (e : Entity) : ℚ :=
  ix.relevance (nameShare needle (Unicode.lower e.name)) e

theorem relatedness_bounds (ix : GraphIndex) (needle : String) (e : Entity) :
    0 < ix.relatedness needle e ∧ ix.relatedness needle e ≤ 1 := by
  obtain ⟨hname, hname'⟩ := @nameShare_bounds needle (Unicode.lower e.name)
  obtain ⟨hkind, hkind'⟩ := kindWeight_bounds e.kind
  obtain ⟨hlinks, hlinks'⟩ := ix.connectivity_bounds e.id
  rw [relatedness, relevance_exact]
  constructor <;> linarith

/-- Of two entities alike in kind and links, the one named as the query is above the one named otherwise. -/
theorem relatedness_lt {ix : GraphIndex} {needle : String} {e e' : Entity}
    (hkind : (kindWeight e.kind : ℚ) = kindWeight e'.kind) (hdegree : ix.degree e.id = ix.degree e'.id)
    (he : Text.units (Unicode.lower e.name) = Text.units needle)
    (he' : Text.units (Unicode.lower e'.name) ≠ Text.units needle) :
    ix.relatedness needle e' < ix.relatedness needle e := by
  have hone := nameShare_eq_one_iff.2 he
  have hless : nameShare needle (Unicode.lower e'.name) < 1 :=
    lt_of_le_of_ne nameShare_bounds.2 fun h => he' (nameShare_eq_one_iff.1 h)
  have hlinks : (ix.connectivity e.id : ℚ) = ix.connectivity e'.id := by rw [connectivity, connectivity, hdegree]
  rw [relatedness, relatedness, relevance_exact, relevance_exact, hone, hkind, hlinks]
  linarith

/-- The score of an id in the search for related entities. -/
def relatedScore (ix : GraphIndex) (needle : String) (threshold : ℚ) (name id : String) : Option ℚ :=
  (nameScore needle threshold (Unicode.lower name)).bind fun share => (ix.graph.entity? id).map (ix.relevance share)

/-- What the search for related entities gives is as much of a ranking as the limit allows. -/
theorem searchRelated_eq_take (hg : Valid g) {query needle : String}
    (hneedle : Unicode.lower (Text.trim query) = needle) (hsome : needle ≠ "") (maxResults threshold : ℚ) :
    (ofGraph g).searchRelated query maxResults threshold =
      ((ofGraph g).rankIds ((ofGraph g).relatedScore needle threshold)).take maxResults.floor.toNat := by
  simp only [searchRelated, hneedle, hsome, false_or]
  split
  · next hmax =>
      have hfloor : maxResults.floor ≤ (0 : ℚ).floor := Rat.floor_monotone hmax
      rw [Int.toNat_of_nonpos hfloor, List.take_zero]
  · refine congrArg (upTo maxResults) (congrArg rank (List.flatMap_congr fun group _ => ?_))
    rw [← graph_ofGraph g] at hg
    unfold relatedScore
    cases nameScore needle threshold (Unicode.lower group.1) with
    | none => simp
    | some share =>
        simp only [Option.bind_some, List.map_filterMap, Option.map_map]
        refine List.filterMap_congr fun id _ => ?_
        refine Option.map_congr fun e he => ?_
        rw [Function.comp_apply, ((hg.entity?_eq_some_iff id e).1 he).2]

theorem relatedScore_eq_some_iff (hg : Valid g) {e : Entity} (he : e ∈ g.entities) (needle : String) (threshold s : ℚ) :
    (ofGraph g).relatedScore needle threshold e.name e.id = some s ↔
      NameMatches needle threshold (Unicode.lower e.name) ∧ (ofGraph g).relatedness needle e = s := by
  have hentity : (ofGraph g).graph.entity? e.id = some e := by
    rw [graph_ofGraph]
    exact (hg.entity?_eq_some_iff e.id e).2 ⟨he, rfl⟩
  simp only [relatedScore, hentity, Option.bind_eq_some_iff, nameScore_eq_some_iff, Option.map_some, Option.some_inj]
  constructor
  · rintro ⟨_, ⟨hmatch, rfl⟩, hs⟩
    exact ⟨hmatch, hs⟩
  · rintro ⟨hmatch, hs⟩
    exact ⟨_, ⟨hmatch, rfl⟩, hs⟩

theorem mem_rankIds_relatedScore_iff (hg : Valid g) (needle : String) (threshold : ℚ) (s : Scored ℚ) :
    s ∈ (ofGraph g).rankIds ((ofGraph g).relatedScore needle threshold) ↔
      ∃ e ∈ g.entities, NameMatches needle threshold (Unicode.lower e.name) ∧
        s = ⟨e.id, (ofGraph g).relatedness needle e⟩ := by
  rw [(rankIds_spec hg _).2]
  refine exists_congr fun e => and_congr_right fun he => ?_
  rw [relatedScore_eq_some_iff hg he, and_assoc]
  obtain ⟨id, score⟩ := s
  simp [eq_comm, and_comm]

/-- **The search for related entities ranks those whose name matches.** On the graph of any changes, frozen or not, with
    a query that is not blank: the result is a first part, as long as the limit allows, of one ranking of exactly the
    entities whose lower-cased name is the trimmed lower-cased query, contains it or is similar enough to it, each once.
    Its scores are above 0 and at most 1. Of two entities whose kinds weigh the same and that have as many relationships
    other than containment, one named as the query is above one that is named otherwise. -/
theorem searchRelated_isRanking {changes : List Change} {reached : Graph} (hrun : run changes = .ok reached) {g : Graph}
    (hg : g = reached ∨ g = reached.freeze) {query needle : String} (hneedle : Unicode.lower (Text.trim query) = needle)
    (hsome : needle ≠ "") (threshold : ℚ) :
    (∃ ranked : List (Scored ℚ),
      (∀ maxResults : ℚ, (ofGraph g).searchRelated query maxResults threshold = ranked.take maxResults.floor.toNat) ∧
      IsRanking ranked ∧
      ∀ s, s ∈ ranked ↔ ∃ e ∈ reached.entities, NameMatches needle threshold (Unicode.lower e.name) ∧
        s = ⟨e.id, (ofGraph g).relatedness needle e⟩) ∧
    (∀ e, 0 < (ofGraph g).relatedness needle e ∧ (ofGraph g).relatedness needle e ≤ 1) ∧
    ∀ e e' : Entity, (kindWeight e.kind : ℚ) = kindWeight e'.kind → (ofGraph g).degree e.id = (ofGraph g).degree e'.id →
      Text.units (Unicode.lower e.name) = Text.units needle →
      Text.units (Unicode.lower e'.name) ≠ Text.units needle →
      (ofGraph g).relatedness needle e' < (ofGraph g).relatedness needle e := by
  obtain ⟨hvalid, hents, -⟩ := valid_of_run_freeze hrun hg
  rw [← hents]
  exact ⟨⟨_, fun maxResults => searchRelated_eq_take hvalid hneedle hsome maxResults threshold,
    (rankIds_spec hvalid _).1, mem_rankIds_relatedScore_iff hvalid needle threshold⟩,
    relatedness_bounds _ _, fun _ _ => relatedness_lt⟩

theorem searchRelated_cased : ∃ ranked : List (Scored ℚ),
    (ofGraph casedGraph.freeze).searchRelated " LOAD " 2 (3 / 5 : ℚ) = ranked.take 2 ∧ IsRanking ranked ∧
    (∀ id, (∃ s ∈ ranked, s.id = id) ↔ id ∈ ["load", "Load", "unload"]) ∧
    ∀ e ∈ casedGraph.entities, ∀ e' ∈ casedGraph.entities, e.id = "load" → e'.id = "unload" →
      (ofGraph casedGraph.freeze).relatedness "load" e' < (ofGraph casedGraph.freeze).relatedness "load" e := by
  have hneedle : Unicode.lower (Text.trim " LOAD ") = "load" := by decide +kernel
  obtain ⟨⟨ranked, htake, hranking, hmem⟩, -, hlt⟩ :=
    searchRelated_isRanking run_cased (.inr rfl) hneedle (by decide) (3 / 5)
  refine ⟨ranked, htake 2, hranking, fun id => ?_, fun e he e' he' hid hid' => ?_⟩
  · have hids : (casedGraph.entities.filter fun e => NameMatches "load" (3 / 5) (Unicode.lower e.name)).map Entity.id
        = ["load", "Load", "unload"] := by decide +kernel
    rw [← hids]
    simp only [hmem, List.mem_map, List.mem_filter, decide_eq_true_eq]
    constructor
    · rintro ⟨_, ⟨e, he, hmatch, rfl⟩, rfl⟩
      exact ⟨e, ⟨he, hmatch⟩, rfl⟩
    · rintro ⟨e, ⟨he, hmatch⟩, rfl⟩
      exact ⟨_, ⟨e, he, hmatch, rfl⟩, rfl⟩
  · have halike : ∀ e ∈ casedGraph.entities, e.id ∈ ["load", "unload"] →
        e.kind = .functionDecl ∧ e.name = e.id ∧ (ofGraph casedGraph.freeze).degree e.id = 1 := by
      simp only [degree, graph_ofGraph]
      decide +kernel
    obtain ⟨hkind, hname, hdegree⟩ := halike e he (by simp [hid])
    obtain ⟨hkind', hname', hdegree'⟩ := halike e' he' (by simp [hid'])
    refine hlt e e' (by rw [hkind, hkind']) (hdegree.trans hdegree'.symm) ?_ ?_
    · rw [hname, hid]
      decide +kernel
    · rw [hname', hid']
      decide +kernel

end GraphIndex

end CodeAtlas
