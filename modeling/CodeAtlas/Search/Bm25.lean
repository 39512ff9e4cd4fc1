import CodeAtlas.Dict
import CodeAtlas.Fault
import CodeAtlas.Score
import CodeAtlas.Search.Document
import CodeAtlas.Search.Terms

set_option autoImplicit false

/-! # Okapi BM25

The statistics of the corpus are computed once, when the index is built, and stored in its snapshot; a
reloaded index scores by the stored ones. -/

namespace CodeAtlas.Search

/-- The two parameters: how fast repetitions saturate, and how much length counts. -/
structure Bm25Options where
  k1 : Rat
  b : Rat
deriving DecidableEq

/-- The documents with their term counts, and the statistics over all of them. -/
structure Corpus (α : Type) where
  documents : List Document
  frequencies : List (Dict String Nat)
  lengths : List Nat
  averageLength : α
  df : Dict String Nat
  idf : Dict String α

/-- A lexical index; it has no corpus until it is built or restored. -/
structure Bm25 (α : Type) where
  options : Bm25Options
  corpus : Option (Corpus α)

/-- The stored form of an index. -/
structure Bm25Snapshot (α : Type) where
  options : Bm25Options
  documents : List Document
  lengths : List Nat
  averageLength : α
  df : List (String × Nat)
  idf : List (String × α)

/-- How often each term occurs in a list, in the order of first occurrence. -/
def termFrequencies (terms : List String) : Dict String Nat :=
  terms.foldl (fun d t => d.update t 0 (· + 1)) .empty

/-- In how many of the documents each term occurs. -/
def documentFrequencies (frequencies : List (Dict String Nat)) : Dict String Nat :=
  frequencies.foldl (fun df tf => tf.keys.foldl (fun df t => df.update t 0 (· + 1)) df) .empty

namespace Corpus

variable {α : Type} [Scoring α] [Logarithm α]

/-- The weight of a term that occurs in `count` of `total` documents. -/
def inverseFrequency (total count : Nat) : α :=
  let half : α := Scoring.ofRat 0.5
  Logarithm.log ((Scoring.ofNat total - Scoring.ofNat count + half) / (Scoring.ofNat count + half))

/-- The corpus of documents. -/
def ofDocuments (documents : List Document) : Corpus α :=
  let terms := documents.map fun d => tokenize d.text
  let frequencies := terms.map termFrequencies
  let lengths := terms.map List.length
  let df := documentFrequencies frequencies
  let total := documents.length
  let allLengths := lengths.foldl (· + ·) 0
  { documents, frequencies, lengths, df
    averageLength :=
      if total = 0 then Scoring.ofNat 0 else Scoring.ofNat allLengths / Scoring.ofNat total
    idf := ⟨df.entries.map fun (t, n) => (t, inverseFrequency total n)⟩ }

end Corpus

namespace Bm25

variable {α : Type}

def unbuilt (options : Bm25Options) : Bm25 α := ⟨options, none⟩

def isBuilt (ix : Bm25 α) : Bool := ix.corpus.isSome

/-- The corpus; an index without one is a fault. -/
def requireCorpus (ix : Bm25 α) : Except Fault (Corpus α) :=
  match ix.corpus with
  | some c => .ok c
  | none => .error (.indexNotBuilt "BM25 index")

def size (ix : Bm25 α) : Except Fault Nat :=
  ix.requireCorpus.map (·.documents.length)

/-- The document of an id; of several with one id, the last. -/
def document? (ix : Bm25 α) (id : String) : Except Fault (Option Document) :=
  ix.requireCorpus.map fun c => c.documents.reverse.find? (·.id = id)

section Scores

variable [Scoring α]

/-- The length normalisation of a document. -/
def norm (o : Bm25Options) (length : Nat) (averageLength : α) : α :=
  let k1 : α := Scoring.ofRat o.k1
  let b : α := Scoring.ofRat o.b
  k1 * (Scoring.ofNat 1 - b + b * Scoring.ofNat length / averageLength)

/-- What one query term adds to the score of a document that has it `count` times. -/
def contribution (o : Bm25Options) (idf norm : α) (count : Nat) : α :=
  idf * Scoring.ofNat count * (Scoring.ofRat o.k1 + Scoring.ofNat 1) / (Scoring.ofNat count + norm)

/-- The score of a document for a list of query terms, each counted as often as it is repeated. -/
def documentScore (o : Bm25Options) (c : Corpus α) (tf : Dict String Nat) (length : Nat)
    (terms : List String) : α :=
  let n := norm o length c.averageLength
  terms.foldl (fun score t =>
    match tf.get? t with
    | none => score
    | some 0 => score
    | some count => score + contribution o ((c.idf.get? t).getD (Scoring.ofNat 0)) n count)
    (Scoring.ofNat 0)

/-- The scores of all documents, in document order. -/
def scores (o : Bm25Options) (c : Corpus α) (terms : List String) : List (Scored α) :=
  (c.documents.zip (c.frequencies.zip c.lengths)).map fun (d, tf, length) =>
    ⟨d.id, documentScore o c tf length terms⟩

/-- The documents that score above zero, best first. -/
def search (ix : Bm25 α) (query : String) (topK : Rat) : Except Fault (List (Scored α)) := do
  let c ← ix.requireCorpus
  let terms := tokenize query
  if terms = [] ∨ topK ≤ 0 then return []
  else
    let positive := (scores ix.options c terms).filter fun s => Scoring.less (Scoring.ofNat 0) s.score
    return upTo topK (Scored.rank positive)

/-- The index of a list of documents. -/
def build [Logarithm α] (options : Bm25Options) (documents : List Document) : Bm25 α :=
  ⟨options, some (Corpus.ofDocuments documents)⟩

end Scores

/-- The stored form of a built index. -/
def toSnapshot (ix : Bm25 α) : Except Fault (Bm25Snapshot α) :=
  ix.requireCorpus.map fun c =>
    ⟨ix.options, c.documents, c.lengths, c.averageLength, c.df.entries, c.idf.entries⟩

/-- The index of a snapshot. Term counts are taken from the texts again, the statistics as stored. -/
def ofSnapshot (s : Bm25Snapshot α) : Bm25 α :=
  ⟨s.options, some {
    documents := s.documents
    frequencies := s.documents.map fun d => termFrequencies (tokenize d.text)
    lengths := s.lengths
    averageLength := s.averageLength
    df := ⟨s.df⟩
    idf := ⟨s.idf⟩ }⟩

end Bm25

end CodeAtlas.Search
