import CodeAtlas.Proofs.LowerCase
import CodeAtlas.Proofs.Search.NameSegments
import CodeAtlas.Search.Document

set_option autoImplicit false

/-! # Terms of joined texts

The terms of a text are the runs of letters and digits of the text in lower case, those of one unit left out. Where a
text is joined to another one by a blank, no run goes across the blank and nothing is put in lower case differently, so
the terms of both are the terms of each, one after the other. A term by itself has itself as its only term, since it
is one run and in lower case. -/

namespace CodeAtlas.Search

open Unicode Text

variable {c : Char} {w : List Char} {t text : String}

/-! ## Runs -/

theorem letterRuns_append_separator (h : isLetterOrNumber c = false) (l m : List Char) :
    letterRuns (l ++ c :: m) = letterRuns l ++ letterRuns m := by
  rw [letterRuns, splitList_append (by simp [h]), List.filter_append]
  rfl

theorem letterRuns_of_forall (h : ∀ c ∈ w, isLetterOrNumber c = true) (hw : w ≠ []) : letterRuns w = [w] := by
  rw [letterRuns, splitList_of_forall fun c hc => by simp [h c hc]]
  simp [hw]

theorem mem_of_mem_letterRuns {l : List Char} (hw : w ∈ letterRuns l) (hc : c ∈ w) :
    c ∈ l ∧ isLetterOrNumber c = true := by
  rw [← List.mem_filter, ← flatten_letterRuns]
  exact List.mem_flatten_of_mem hw hc

/-! ## Terms -/

/-- The empty runs at the ends of a text, and between neighbouring separators, are no terms. -/
theorem tokenize_eq (text : String) :
    tokenize text = ((letterRuns (lower text).toList).map String.ofList).filter fun t => 1 < unitLength t := by
  have hempty : ∀ w : List Char,
      (decide (1 < unitLength (String.ofList w)) && decide (w ≠ [])) = decide (1 < unitLength (String.ofList w)) := by
    intro w
    cases w with
    | nil => decide
    | cons c w => simp
  simp only [tokenize, runs, split, letterRuns, List.filter_map, List.filter_filter, Function.comp_def, hempty]

theorem tokenize_append_blank (a b : String) : tokenize (a ++ " " ++ b) = tokenize a ++ tokenize b := by
  have hblank : isLetterOrNumber ' ' = false := by decide
  have hjoint : (lower (a ++ " " ++ b)).toList = (lower a).toList ++ ' ' :: (lower b).toList := by
    rw [lower_append_blank]
    simp
  simp only [tokenize_eq, hjoint, letterRuns_append_separator hblank, List.map_append, List.filter_append]

theorem tokenize_intercalate (l : List String) : tokenize (" ".intercalate l) = l.flatMap tokenize := by
  induction l with
  | nil => rfl
  | cons s rest ih =>
      by_cases hrest : rest = []
      · simp [hrest]
      · rw [String.intercalate_cons_of_ne_nil hrest, tokenize_append_blank, ih, List.flatMap_cons]

/-- A text that is one run of letters and digits, in lower case, and longer than one unit. -/
structure IsTerm (t : String) : Prop where
  lowered : lower t = t
  letters : ∀ c ∈ t.toList, isLetterOrNumber c = true
  length : 1 < unitLength t

theorem isTerm_of_mem_tokenize (h : t ∈ tokenize text) : IsTerm t := by
  rw [tokenize_eq, List.mem_filter, List.mem_map] at h
  obtain ⟨⟨w, hw, rfl⟩, hlength⟩ := h
  refine ⟨lower_eq_self_of_subset (s := text) fun c hc => ?_, fun c hc => ?_, by simpa using hlength⟩
  · exact (mem_of_mem_letterRuns hw (by simpa using hc)).1
  · exact (mem_of_mem_letterRuns hw (by simpa using hc)).2

theorem IsTerm.tokenize_eq (h : IsTerm t) : tokenize t = [t] := by
  have hne : t.toList ≠ [] := fun hnil => by
    have hlength := h.length
    simp [unitLength, hnil] at hlength
  rw [Search.tokenize_eq, h.lowered, letterRuns_of_forall h.letters hne]
  simp [h.length]

/-- An empty part that is left out has no terms. -/
theorem flatMap_tokenize_nonEmpty? (part : Option String) :
    (nonEmpty? part).toList.flatMap tokenize = tokenize (part.getD "") := by
  have hempty : tokenize "" = [] := rfl
  cases part with
  | none => simp [nonEmpty?, hempty]
  | some s => by_cases hs : s = "" <;> simp [nonEmpty?, Option.filter, hs, hempty]

/-- **The terms of joined texts are those of the texts, in their order.** That holds of two texts with a blank between
    them, and of the terms of a text, which joined by blanks are its terms again; by itself, a text is its only term
    exactly if it is one run of letters and digits in lower case, longer than one unit. So the text of an entity has the
    terms of its name, of its doc, of its parameters, of what it returns and of the excerpt, one after the other. -/
theorem tokenize_compositional :
    (∀ a b, tokenize (a ++ " " ++ b) = tokenize a ++ tokenize b) ∧
    (∀ text, tokenize (" ".intercalate (tokenize text)) = tokenize text) ∧
    (∀ t, tokenize t = [t] ↔ IsTerm t) ∧
    (∀ e excerpt, tokenize (documentText e excerpt) =
      tokenize e.name ++ tokenize (e.docstring.getD "") ++ (e.metadata.stringList "parameters").flatMap tokenize
        ++ tokenize ((e.metadata.stringValue? "returns").getD "") ++ tokenize (excerpt.getD "")) := by
  refine ⟨tokenize_append_blank, fun text => ?_, fun t => ?_, fun e excerpt => ?_⟩
  · rw [tokenize_intercalate, List.flatMap_congr fun t ht => (isTerm_of_mem_tokenize ht).tokenize_eq]
    exact List.flatMap_singleton' _
  · exact ⟨fun hself => isTerm_of_mem_tokenize (hself ▸ List.mem_singleton_self t), IsTerm.tokenize_eq⟩
  · rw [documentText, tokenize_intercalate]
    simp only [List.flatMap_append, flatMap_tokenize_nonEmpty?, List.flatMap_singleton]

example : tokenize "x, Hello-World! a b2 " = ["hello", "world", "b2"] := by decide +kernel

end CodeAtlas.Search
