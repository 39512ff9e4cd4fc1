import CodeAtlas.Proofs.Schema
import CodeAtlas.Proofs.Search.Corpus
import CodeAtlas.Snapshot

set_option autoImplicit false

/-! # Lexical snapshots

The snapshot of a built index is written as JSON and read again, and the index that is restored from it answers as the
built one does (`restored_answersAlike`). Only the numbers and the records of the terms can change on the way: a number
becomes the decimal that its text shows, which is the same double, and a record gets the order that objects have, in
which nothing is looked up. -/

namespace CodeAtlas

open Number Schema

namespace Search

/-- Documents as a program holds them: no halves of characters that make up a whole one, and no more documents, nor
    terms in one of them, than doubles count one by one. -/
structure Indexable (documents : List Document) : Prop where
  composed : ∀ d ∈ documents, Text.Composed d.id ∧ Text.Composed d.text
  few : documents.length < 2 ^ 53
  short : ∀ d ∈ documents, (tokenize d.text).length < 2 ^ 53

namespace Bm25Snapshot

/-- A snapshot that is kept when it is written: its numbers are finite and its records have no name twice. -/
structure Storable (s : Bm25Snapshot Float) : Prop where
  k1 : Positive (toFloat s.options.k1)
  b : 0 ≤ s.options.b ∧ s.options.b ≤ 1
  documents : ∀ d ∈ s.documents, Text.Composed d.id ∧ Text.Composed d.text
  one_each : s.lengths.length = s.documents.length
  lengths : ∀ n ∈ s.lengths, n < Binary.limit
  averageLength : ∃ r, ofFloat? s.averageLength = some r ∧ toFloat r = s.averageLength ∧ 0 ≤ r
  df : ∀ e ∈ s.df, Text.Composed e.1 ∧ 1 ≤ e.2 ∧ e.2 < Binary.limit
  idf : ∀ e ∈ s.idf, Text.Composed e.1 ∧ IsNumber e.2
  df_names : (s.df.map (·.1)).Nodup
  idf_names : (s.idf.map (·.1)).Nodup

/-- The same snapshot: its numbers are the same doubles and its records have the same members, each name once. -/
structure Same (s s' : Bm25Snapshot Float) : Prop where
  k1 : toFloat s.options.k1 = toFloat s'.options.k1
  b : toFloat s.options.b = toFloat s'.options.b
  documents : s.documents = s'.documents
  lengths : s.lengths = s'.lengths
  averageLength : s.averageLength = s'.averageLength
  df : s.df.Perm s'.df
  idf : s.idf.Perm s'.idf
  df_names : (s'.df.map (·.1)).Nodup
  idf_names : (s'.idf.map (·.1)).Nodup

end Bm25Snapshot

namespace Bm25

/-- Two indices that cannot be told apart. -/
structure AnswersAlike (ix ix' : Bm25 Float) : Prop where
  search : ∀ query topK, ix.search query topK = ix'.search query topK
  document? : ∀ id, ix.document? id = ix'.document? id
  size : ix.size = ix'.size
  snapshot : ∃ s s', ix.toSnapshot = .ok s ∧ ix'.toSnapshot = .ok s' ∧ s.Same s'

/-! ## Searching by a snapshot -/

section Same

variable {s s' : Bm25Snapshot Float}

theorem contribution_congr (h : s.Same s') (idf norm : Float) (count : ℕ) :
    contribution s.options idf norm count = contribution s'.options idf norm count := by
  have hk1 : (Scoring.ofRat s.options.k1 : Float) = Scoring.ofRat s'.options.k1 := h.k1
  rw [contribution, contribution, hk1]

theorem norm_congr (h : s.Same s') (length : ℕ) (averageLength : Float) :
    norm s.options length averageLength = norm s'.options length averageLength := by
  have hk1 : (Scoring.ofRat s.options.k1 : Float) = Scoring.ofRat s'.options.k1 := h.k1
  have hb : (Scoring.ofRat s.options.b : Float) = Scoring.ofRat s'.options.b := h.b
  rw [norm, norm, hk1, hb]

theorem get?_congr (h : s.Same s') (t : String) : (⟨s.idf⟩ : Dict String Float).get? t = Dict.get? ⟨s'.idf⟩ t := by
  have hnames : (s.idf.map (·.1)).Nodup := (h.idf.map _).nodup_iff.2 h.idf_names
  refine Option.ext fun x => ?_
  rw [← @Dict.mem_entries_iff _ _ _ ⟨s.idf⟩ hnames t x, ← @Dict.mem_entries_iff _ _ _ ⟨s'.idf⟩ h.idf_names t x]
  exact h.idf.mem_iff

/-- The same snapshot gives the same index, but for the order of its records. -/
theorem answersAlike_of_same (h : s.Same s') : AnswersAlike (ofSnapshot s) (ofSnapshot s') where
  search query topK := by
    have hscores (terms : List String) :
        scores s.options ⟨s.documents, s.documents.map fun d => termFrequencies (tokenize d.text), s.lengths,
            s.averageLength, ⟨s.df⟩, ⟨s.idf⟩⟩ terms
          = scores s'.options ⟨s'.documents, s'.documents.map fun d => termFrequencies (tokenize d.text), s'.lengths,
            s'.averageLength, ⟨s'.df⟩, ⟨s'.idf⟩⟩ terms := by
      simp only [scores, documentScore, h.documents, h.lengths, h.averageLength, norm_congr h, contribution_congr h,
        get?_congr h]
    simp only [search, ofSnapshot, requireCorpus, bind, Except.bind, hscores]
  document? id := by simp only [document?, ofSnapshot, requireCorpus, Except.map, h.documents]
  size := by simp only [size, ofSnapshot, requireCorpus, Except.map, h.documents]
  snapshot := ⟨s, s', rfl, rfl, h⟩

end Same

end Bm25

end Search

namespace Snapshot

open Search

/-! ## Reading what was written -/

theorem scoreJson_eq {x : Float} {r : ℚ} (h : ofFloat? x = some r) : scoreJson x = .number r := by
  have h' : StoredScore.rational? x = some r := h
  rw [scoreJson, h']

theorem writable_scoreJson {x : Float} {r : ℚ} (h : ofFloat? x = some r) : (scoreJson x).Writable := by
  rw [scoreJson_eq h]
  exact (text?_of_ofFloat? h).1

/-- A finite score is read as it was. -/
theorem score_reread {x : Float} {r : ℚ} {bounds : List Bound} (h : ofFloat? x = some r) (hback : toFloat r = x)
    (hbounds : ∀ b ∈ bounds, b.holds (shown r) = true) : score bounds (scoreJson x).reread = .valid x := by
  have hshown : (Scoring.ofRat (shown r) : Float) = x := ((text?_of_ofFloat? h).2).trans hback
  rw [scoreJson_eq h, Json.reread, score, number_eq_valid hbounds, Checked.map, hshown]

theorem reread_nat {n : ℕ} (h : n < Binary.limit) : (Json.nat n).reread = .number n := by
  rw [Json.nat, Json.reread, shown_natCast h]

theorem reread_document (d : Document) : (Json.object [("id", .string d.id), ("text", .string d.text)]).reread
    = .object [("id", .string d.id), ("text", .string d.text)] := by
  simp only [Json.reread, Json.rereadMembers]
  exact Json.ofMembers_of_names (by simp) (by simp [Json.indexName?])

theorem documentShape_reread (d : Document) :
    documentShape (Json.object [("id", .string d.id), ("text", .string d.text)]).reread = .valid d := by
  rw [reread_document]
  rfl

/-- The members of a snapshot as they are read. -/
def readMembers (s : Bm25Snapshot Float) : List (String × Json) :=
  [("version", (Json.nat 1).reread), ("k1", .number (shown s.options.k1)), ("b", .number (shown s.options.b)),
    ("documents", .array (s.documents.map fun d =>
      (Json.object [("id", .string d.id), ("text", .string d.text)]).reread)),
    ("lengths", .array (s.lengths.map fun n => (Json.nat n).reread)),
    ("averageLength", (scoreJson s.averageLength).reread),
    ("df", Json.ofMembers (s.df.map fun e => (e.1, (Json.nat e.2).reread))),
    ("idf", Json.ofMembers (s.idf.map fun e => (e.1, (scoreJson e.2).reread)))]

theorem reread_bm25Json (s : Bm25Snapshot Float) : (bm25Json s).reread = .object (readMembers s) := by
  have hmembers : Json.rereadMembers (bm25Json s).members = readMembers s := by
    simp only [bm25Json, Json.members, Json.rereadMembers, Json.reread_array_map, Json.reread_object_map]
    rfl
  rw [show bm25Json s = .object (bm25Json s).members from rfl, Json.reread, hmembers]
  refine Json.ofMembers_of_names ?_ ?_
  · simp [readMembers]
  · simp [readMembers, Json.indexName?]

theorem version_readMembers (s : Bm25Snapshot Float) : version (readMembers s) = .valid () := by
  rw [version, readMembers, reread_nat (by decide)]
  rfl

/-- What is read of a snapshot passes the check and is the snapshot. -/
theorem bm25Shape_reread {s : Bm25Snapshot Float} (h : s.Storable) :
    ∃ r, bm25Shape (bm25Json s).reread = .valid r ∧ r.Same s := by
  -- member by member: what is read passes the check that the member has
  obtain ⟨hk1text, hk1pos, hk1m⟩ := text?_of_positive h.k1
  have hk1 : number [.positive] (.number (shown s.options.k1)) = .valid (shown s.options.k1) :=
    number_eq_valid (by simpa [Bound.holds] using shown_pos hk1text hk1pos hk1m)
  have hb : number [.atLeast 0, .atMost 1] (.number (shown s.options.b)) = .valid (shown s.options.b) :=
    number_eq_valid (by simpa [Bound.holds] using ⟨shown_nonneg h.b.1, shown_le_one h.b.1 h.b.2⟩)
  have hdocuments := @array_map _ _ _ _ id s.documents fun d _ => documentShape_reread d
  have hlengths := @array_map _ (natural [.atLeast 0]) _ (fun n => (Json.nat n).reread) id s.lengths fun n hn => by
    rw [reread_nat (h.lengths n hn), natural_eq_valid (by simp [Bound.holds]), id]
  obtain ⟨r, hr, hback, hnonneg⟩ := h.averageLength
  have haverage := @score_reread _ _ [.atLeast 0] hr hback (by simpa [Bound.holds] using shown_nonneg hnonneg)
  obtain ⟨df, hdf, hdfperm⟩ := @record_ofMembers _ (natural [.atLeast 1]) (fun n => (Json.nat n).reread) s.df h.df_names
    fun e he => by
      obtain ⟨-, hone, hlt⟩ := h.df e he
      rw [reread_nat hlt, natural_eq_valid (by simpa [Bound.holds] using hone)]
  obtain ⟨idf, hidf, hidfperm⟩ := @record_ofMembers _ (score []) (fun x => (scoreJson x).reread) s.idf h.idf_names
    fun e he => by
      obtain ⟨-, r, hr, hback⟩ := h.idf e he
      exact score_reread hr hback (by simp)
  rw [List.map_id] at hdocuments hlengths
  refine ⟨⟨⟨shown s.options.k1, shown s.options.b⟩, s.documents, s.lengths, s.averageLength, df, idf⟩, ?_, ?_⟩
  · rw [reread_bm25Json, bm25Shape]
    have hk1 : required "k1" _ (readMembers s) = _ := required_eq_valid rfl hk1
    have hb : required "b" _ (readMembers s) = _ := required_eq_valid rfl hb
    have hdocuments : required "documents" _ (readMembers s) = _ := required_eq_valid rfl hdocuments
    have hlengths : required "lengths" _ (readMembers s) = _ := required_eq_valid rfl hlengths
    have haverage : required "averageLength" _ (readMembers s) = _ := required_eq_valid rfl haverage
    have hdf : required "df" _ (readMembers s) = _ := required_eq_valid rfl hdf
    have hidf : required "idf" _ (readMembers s) = _ := required_eq_valid rfl hidf
    simp only [Schema.object, version_readMembers, hk1, hb, hdocuments, hlengths, haverage, hdf, hidf]
    exact if_pos h.one_each
  · have hb' := toFloat_shown (text?_isSome_of_le_one h.b.1 h.b.2) fun hneg => absurd hneg (not_lt.2 h.b.1)
    have hk1' := toFloat_shown hk1text fun hneg => absurd hneg (not_lt.2 hk1pos.le)
    exact ⟨hk1', hb', rfl, rfl, rfl, hdfperm, hidfperm, h.df_names, h.idf_names⟩

theorem writable_nat {n : ℕ} (h : n < Binary.limit) : (Json.nat n).Writable := by
  rw [Json.nat, Json.Writable, text?_isSome_iff]
  exact .inl ⟨Rat.den_natCast n, by simpa using h⟩

theorem writable_bm25Json {s : Bm25Snapshot Float} (h : s.Storable) : (bm25Json s).Writable := by
  obtain ⟨r, hr, -⟩ := h.averageLength
  have hdocuments : (Json.array (s.documents.map fun d =>
      .object [("id", .string d.id), ("text", .string d.text)])).Writable := by
    refine Json.writable_array_map fun d hd => ?_
    exact ⟨by decide, (h.documents d hd).1, by decide, (h.documents d hd).2, trivial⟩
  have hlengths : (Json.array (s.lengths.map Json.nat)).Writable :=
    Json.writable_array_map fun n hn => writable_nat (h.lengths n hn)
  have hdf : (Json.object (s.df.map fun e => (e.1, .nat e.2))).Writable :=
    @Json.writable_object_map _ Json.nat s.df fun e he => ⟨(h.df e he).1, writable_nat (h.df e he).2.2⟩
  have hidf : (Json.object (s.idf.map fun e => (e.1, scoreJson e.2))).Writable :=
    @Json.writable_object_map _ scoreJson s.idf fun e he => by
      obtain ⟨hname, r, hr, -⟩ := h.idf e he
      exact ⟨hname, writable_scoreJson hr⟩
  rw [bm25Json, Json.Writable, Json.writableMembers_iff]
  simp only [List.forall_mem_cons]
  exact ⟨⟨by decide, writable_nat (by decide)⟩, ⟨by decide, (text?_of_positive h.k1).1⟩,
    ⟨by decide, text?_isSome_of_le_one h.b.1 h.b.2⟩, ⟨by decide, hdocuments⟩, ⟨by decide, hlengths⟩,
    ⟨by decide, writable_scoreJson hr⟩, ⟨by decide, hdf⟩, ⟨by decide, hidf⟩, by simp⟩

/-! ## Snapshots of built indices -/

section Built

variable [Logarithm Float] {options : Bm25Options} {documents : List Document}

/-- The snapshot of a built index holds all that the index holds, and is kept when it is written. -/
theorem exists_storable (hlog : ∀ x : Float, Positive x → IsNumber (Logarithm.log x))
    (hk1 : Positive (toFloat options.k1)) (hb : 0 ≤ options.b ∧ options.b ≤ 1) (h : Indexable documents) :
    ∃ s, (Bm25.build options documents).toSnapshot = .ok s ∧ s.Storable ∧
      Bm25.ofSnapshot s = Bm25.build options documents := by
  have hlimit : Binary.limit = 2 ^ 53 := rfl
  have hfew := h.few
  -- the corpus under a name: compared as a whole it would be computed
  obtain ⟨c, hc⟩ : ∃ c : Corpus Float, c = Corpus.ofDocuments documents := ⟨_, rfl⟩
  have hdocuments : c.documents = documents := by rw [hc, Corpus.ofDocuments]
  have hlengths : c.lengths = documents.map fun d => (tokenize d.text).length := by
    simp [hc, Corpus.ofDocuments, Function.comp_def]
  have hfrequencies : (c.documents.map fun d => termFrequencies (tokenize d.text)) = c.frequencies := by
    simp [hc, Corpus.ofDocuments, Function.comp_def]
  have hstorable :
      Bm25Snapshot.Storable ⟨options, c.documents, c.lengths, c.averageLength, c.df.entries, c.idf.entries⟩ :=
    { k1 := hk1
      b := hb
      documents := hdocuments ▸ h.composed
      one_each := by rw [hdocuments, hlengths, List.length_map]
      lengths := by
        simp only [hlengths, List.forall_mem_map]
        exact h.short
      averageLength := hc ▸ exists_averageLength h.few h.short
      df := fun e he => by
        obtain ⟨hname, hone, hle⟩ := mem_df_ofDocuments (hc ▸ he)
        exact ⟨hname, hone, by omega⟩
      idf := fun e he => by
        obtain ⟨n, hn, hweight⟩ := mem_idf_ofDocuments (hc ▸ he)
        obtain ⟨hname, hone, hle⟩ := mem_df_ofDocuments hn
        exact ⟨hname, hweight ▸ isNumber_inverseFrequency hlog hone hle h.few⟩
      df_names := hc ▸ nodup_df_ofDocuments
      idf_names := hc ▸ nodup_idf_ofDocuments }
  refine ⟨_, ?_, hstorable, ?_⟩
  · rw [hc]
    rfl
  · rw [Bm25.ofSnapshot, hfrequencies, Bm25.build, ← hc]

/-- **The index that is restored from the text of a snapshot answers as the built one**: for every query and limit the
    same documents with the same scores in the same order, the same document of every id, the same size, and the same
    snapshot again. The logarithm of a positive number is taken to be finite, and not the negative zero. -/
theorem restored_answersAlike (hlog : ∀ x : Float, Positive x → IsNumber (Logarithm.log x))
    (hk1 : Positive (toFloat options.k1)) (hb : 0 ≤ options.b ∧ options.b ≤ 1) (h : Indexable documents) :
    ∃ (s r : Bm25Snapshot Float) (v : Json), (Bm25.build options documents).toSnapshot = .ok s ∧
      Json.parse? (bm25Json s).render = some v ∧ bm25Shape v = .valid r ∧
      Bm25.AnswersAlike (Bm25.ofSnapshot r) (Bm25.build options documents) := by
  obtain ⟨s, hs, hstorable, hrestored⟩ := exists_storable hlog hk1 hb h
  obtain ⟨r, hr, hsame⟩ := bm25Shape_reread hstorable
  exact ⟨s, r, _, hs, Json.parse?_render (writable_bm25Json hstorable), hr,
    hrestored ▸ Bm25.answersAlike_of_same hsame⟩

end Built

/-- Five documents with a term each: every term weighs the logarithm of three. -/
def fiveTerms : List Document :=
  [⟨"a.py", "alpha"⟩, ⟨"b.py", "beta"⟩, ⟨"c.py", "gamma"⟩, ⟨"1", "2026"⟩, ⟨"e.py", "42"⟩]

/-- The double nearest to the logarithm of three. -/
def log3 : Float := toFloat 1.0986122886681098

theorem fiveTerms_restored :
    (∀ x : Float, Positive x → IsNumber log3) ∧ Positive (toFloat 1.2) ∧ Indexable fiveTerms ∧
      ∃ (s r : Bm25Snapshot Float) (v : Json),
        (@Bm25.build Float _ ⟨fun _ => log3⟩ ⟨1.2, 0.75⟩ fiveTerms).toSnapshot = .ok s ∧
        Json.parse? (bm25Json s).render = some v ∧ bm25Shape v = .valid r ∧
        Bm25.AnswersAlike (Bm25.ofSnapshot r) (@Bm25.build Float _ ⟨fun _ => log3⟩ ⟨1.2, 0.75⟩ fiveTerms) := by
  have hlog : ∀ x : Float, Positive x → IsNumber log3 := fun _ _ =>
    isNumber_toFloat (by norm_num) (by decide +kernel)
  have hk1 : Positive (toFloat 1.2) := positive_toFloat (by norm_num) (by decide +kernel) (by decide +kernel)
  have hindexable : Indexable fiveTerms := ⟨by decide +kernel, by decide, by decide +kernel⟩
  exact ⟨hlog, hk1, hindexable,
    @restored_answersAlike ⟨fun _ => log3⟩ ⟨1.2, 0.75⟩ fiveTerms hlog hk1 ⟨by norm_num, by norm_num⟩ hindexable⟩

end Snapshot

end CodeAtlas
