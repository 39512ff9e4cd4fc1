import CodeAtlas.Reference
import Mathlib.Data.List.TakeWhile

set_option autoImplicit false

/-! # Targets of import rules

The target of an import rule stands in quotation marks, alone or in the form of a function call. What is read is the
text up to a blank or a closing parenthesis, also inside the quotation marks, and nothing of what follows them. So a
local path is read whole exactly if it has neither (`importTarget?_quoted_iff`). -/

namespace CodeAtlas

namespace Text

/-! ## Bytes of a text -/

theorem byteArray_toList_loop (bytes : ByteArray) (i : ℕ) (before : List UInt8) :
    ByteArray.toList.loop bytes i before = before.reverse ++ bytes.data.toList.drop i := by
  fun_induction ByteArray.toList.loop bytes i before with
  | case1 i before h ih =>
      have hi : i < bytes.data.toList.length := h
      rw [ih, List.drop_eq_getElem_cons hi]
      simp [ByteArray.get!, h]
  | case2 i before h =>
      rw [List.drop_eq_nil_of_le (Nat.le_of_not_lt h), List.append_nil]

theorem toUTF8_toList (c : Char) : c.toString.toUTF8.toList = String.utf8EncodeChar c := by
  have hbytes : c.toString.toUTF8 = [c].utf8Encode := by simp [String.toUTF8_eq_toByteArray]
  rw [hbytes, ByteArray.toList, byteArray_toList_loop, List.utf8Encode]
  simp

/-- A text is what its characters' bytes spell. -/
theorem fromUTF8?_flatMap_toUTF8 (cs : List Char) :
    String.fromUTF8? (cs.flatMap fun c => c.toString.toUTF8.toList).toByteArray = some (String.ofList cs) := by
  have hbytes : (cs.flatMap fun c => c.toString.toUTF8.toList).toByteArray = (String.ofList cs).toByteArray := by
    simp only [toUTF8_toList, String.toByteArray_ofList, List.utf8Encode]
  rw [hbytes, String.fromUTF8?, dif_pos (String.ofList cs).isValidUTF8]
  rfl

end Text

namespace Reference

/-! ## Local paths -/

/-- A path that a URL can name as it stands: it has no quotation mark and none of the marks that end a path in a URL, and
    names no other site. -/
structure IsLocal (path : String) : Prop where
  ne_empty : path ≠ ""
  no_quote : ∀ c ∈ path.toList, isQuote c = false
  no_mark : ∀ c ∈ path.toList, c ∉ [':', '?', '#', '%']
  no_site : ¬ ['/', '/'] <+: path.toList

/-- Its beginnings are local paths too. -/
theorem IsLocal.of_isPrefix {path start : String} (h : IsLocal path) (hstart : start.toList <+: path.toList)
    (hne : start ≠ "") : IsLocal start where
  ne_empty := hne
  no_quote c hc := h.no_quote c (hstart.subset hc)
  no_mark c hc := h.no_mark c (hstart.subset hc)
  no_site hsite := h.no_site (hsite.trans hstart)

theorem percentBytes?_of_no_percent {cs : List Char} (h : '%' ∉ cs) :
    percentBytes? cs = some (cs.flatMap fun c => c.toString.toUTF8.toList) := by
  induction cs with
  | nil => rfl
  | cons c rest ih =>
      rw [List.mem_cons, not_or] at h
      have hc : c ≠ '%' := fun he => h.1 he.symm
      rw [percentBytes?.eq_def]
      split <;> simp_all

theorem percentDecode_of_no_percent {s : String} (h : '%' ∉ s.toList) : percentDecode s = s := by
  rw [percentDecode, percentBytes?_of_no_percent h]
  simp only [Text.fromUTF8?_flatMap_toUTF8, String.ofList_toList, Option.getD_some]

/-- A URL that spells a local path names it. -/
theorem target?_of_isLocal {path : String} (h : IsLocal path) : target? path = some path := by
  have hmark (c : Char) (hc : c ∈ [':', '?', '#', '%']) : c ∉ path.toList := fun hmem => h.no_mark c hmem hc
  have hscheme : hasScheme path.toList = false := by
    rw [← Bool.not_eq_true, hasScheme, Bool.and_eq_true, decide_eq_true_eq]
    rintro ⟨-, hcolon⟩
    exact hmark ':' (by simp) ((List.dropWhile_suffix _).subset (List.mem_of_mem_head? hcolon))
  have hsite : ['/', '/'].isPrefixOf path.toList = false := by
    rw [← Bool.not_eq_true, List.isPrefixOf_iff_prefix]
    exact h.no_site
  have hhash : path.toList.head? ≠ some '#' := fun he => hmark '#' (by simp) (List.mem_of_mem_head? he)
  have hexternal : isExternal path = false := by simp [isExternal, hscheme, hsite, hhash]
  have hbare : path.toList.takeWhile (fun c => c ≠ '?' && c ≠ '#') = path.toList := by
    rw [List.takeWhile_eq_self_iff]
    intro c hc
    have hno := h.no_mark c hc
    simp only [List.mem_cons, not_or] at hno
    simp [hno]
  rw [target?, hexternal, hbare, String.ofList_toList]
  simp [h.ne_empty, percentDecode_of_no_percent (hmark '%' (by simp))]

/-! ## What is read -/

/-- A way to write the target of an import rule: in quotation marks of one kind, alone or in a function call. -/
structure Quotation where
  mark : Char
  isCall : Bool
  isQuote_mark : isQuote mark = true

/-- A target as it is written. -/
def Quotation.write (q : Quotation) (path : String) : String :=
  let quoted := q.mark.toString ++ path ++ q.mark.toString
  if q.isCall then "url(" ++ quoted ++ ")" else quoted

/-- The part of a target that is read. -/
def readPart (path : String) : String :=
  String.ofList (path.toList.takeWhile fun c => c ≠ ')' && !Text.isBlank c)

theorem eq_of_isQuote {c : Char} (h : isQuote c = true) : c = '"' ∨ c = '\'' := by simpa [isQuote] using h

/-- Between quotation marks the first blank or closing parenthesis ends what is read, and else the mark does. -/
theorem quotedTarget_quoted {mark : Char} (hmark : isQuote mark = true) {cs : List Char}
    (h : ∀ c ∈ cs, isQuote c = false) (after : List Char) :
    quotedTarget (mark :: (cs ++ mark :: after)) = cs.takeWhile fun c => c ≠ ')' && !Text.isBlank c := by
  have hstart : (mark :: (cs ++ mark :: after)).head?.any isQuote = true := by simp [hmark]
  rw [quotedTarget, if_pos hstart, List.drop_succ_cons, List.drop_zero]
  induction cs with
  | nil => simp [hmark]
  | cons c rest ih =>
      have hrest := ih (fun c' hc' => h c' (List.mem_cons_of_mem _ hc')) (by simp [hmark])
      rw [List.cons_append, List.takeWhile_cons, List.takeWhile_cons, hrest, h c (List.mem_cons_self ..)]
      simp

theorem Quotation.toList_write (q : Quotation) (path after : String) :
    (q.write path ++ after).toList
      = if q.isCall then 'u' :: 'r' :: 'l' :: '(' :: q.mark :: (path.toList ++ q.mark :: ')' :: after.toList)
        else q.mark :: (path.toList ++ q.mark :: after.toList) := by
  cases hcall : q.isCall <;> simp [Quotation.write, hcall]

/-- What follows the target is not read. Where nothing of the target is read, a call is taken for the text of a URL. -/
theorem importUrl_write (q : Quotation) {path : String} (h : ∀ c ∈ path.toList, isQuote c = false) (after : String) :
    importUrl (q.write path ++ after)
      = if readPart path = "" then (if q.isCall then "url(" else "") else readPart path := by
  have hblank : Text.isBlank q.mark = false := by
    rcases eq_of_isQuote q.isQuote_mark with hq | hq <;> rw [hq] <;> decide
  have hquoted := quotedTarget_quoted q.isQuote_mark h
  have hempty : (path.toList.takeWhile fun c => c ≠ ')' && !Text.isBlank c) = [] ↔ readPart path = "" := by
    rw [readPart, ← String.toList_inj, String.toList_ofList, String.toList_empty]
  rw [importUrl, q.toList_write]
  cases q.isCall with
  | false =>
      have hcall : ['u', 'r', 'l', '('].isPrefixOf (q.mark :: (path.toList ++ q.mark :: after.toList)) = false := by
        rcases eq_of_isQuote q.isQuote_mark with hq | hq <;> rw [hq] <;> rfl
      simp only [Bool.false_eq_true, if_false, List.dropWhile_cons, hblank, hcall, hquoted, List.isEmpty_nil, if_true]
      split
      · next hnone => exact hnone
      · rfl
  | true =>
      have hletters : Text.isBlank 'u' = false := by decide
      have hurl : quotedTarget ('u' :: 'r' :: 'l' :: '(' :: q.mark :: (path.toList ++ q.mark :: ')' :: after.toList))
          = ['u', 'r', 'l', '('] := by
        rcases eq_of_isQuote q.isQuote_mark with hq | hq <;> rw [hq] <;> rfl
      simp only [if_true, List.dropWhile_cons, hletters, Bool.false_eq_true, if_false]
      simp only [List.isPrefixOf, beq_self_eq_true, Bool.and_true, if_true, List.length_cons, List.length_nil,
        List.drop_succ_cons, List.drop_zero, List.dropWhile_cons, hblank, Bool.false_eq_true, if_false, hquoted, hurl,
        List.isEmpty_iff, hempty]
      split
      · rfl
      · rfl

/-- **The target of an import rule is read up to a blank or a closing parenthesis.** -/
theorem importTarget?_write (q : Quotation) {path : String} (h : IsLocal path) (after : String) :
    importTarget? (q.write path ++ after)
      = if readPart path = "" then (if q.isCall then some "url(" else none) else some (readPart path) := by
  have hcall : target? "url(" = some "url(" :=
    target?_of_isLocal ⟨by decide, by simp [isQuote], by simp, by decide⟩
  rw [importTarget?, importUrl_write q h.no_quote after]
  by_cases hpart : readPart path = ""
  · cases q.isCall <;> simp [hpart, hcall]
  · have hlocal : IsLocal (readPart path) :=
      h.of_isPrefix (by rw [readPart, String.toList_ofList]; exact List.takeWhile_prefix _) hpart
    simp [hpart, target?_of_isLocal hlocal]

theorem readPart_eq_self_iff (path : String) :
    readPart path = path ↔ ∀ c ∈ path.toList, c ≠ ')' ∧ Text.isBlank c = false := by
  rw [readPart, ← String.toList_inj, String.toList_ofList, List.takeWhile_eq_self_iff]
  simp

/-- **Where the target of an import rule is read whole.** However a local path is put in quotation marks and whatever
    follows, it is the target exactly if it has no blank and no closing parenthesis. -/
theorem importTarget?_quoted_iff (q : Quotation) {path : String} (h : IsLocal path) (after : String) :
    importTarget? (q.write path ++ after) = some path ↔
      ∀ c ∈ path.toList, c ≠ ')' ∧ Text.isBlank c = false := by
  rw [importTarget?_write q h after, ← readPart_eq_self_iff]
  by_cases hpart : readPart path = ""
  · refine iff_of_false (fun htarget => ?_) fun hwhole => h.ne_empty (hwhole.symm.trans hpart)
    cases hcall : q.isCall with
    | false => simp [hpart, hcall] at htarget
    | true =>
        -- a call that is taken for the text of a URL has neither, so some of it would be read
        obtain rfl : "url(" = path := by simpa [hpart, hcall] using htarget
        exact absurd hpart (by decide)
  · rw [if_neg hpart, Option.some.injEq]

/-- A blank in the name of a style sheet cuts the target off; without one it is read whole. -/
theorem importTarget?_styleSheets : (IsLocal "my sheet.css" ∧ IsLocal "theme/dark.css") ∧
    importTarget? "\"my sheet.css\" screen" = some "my" ∧
    importTarget? "\"my sheet.css\" screen" ≠ some "my sheet.css" ∧
    importTarget? "url('theme/dark.css') print" = some "theme/dark.css" := by
  have hblank : IsLocal "my sheet.css" := ⟨by decide, by simp [isQuote], by simp, by decide⟩
  have hplain : IsLocal "theme/dark.css" := ⟨by decide, by simp [isQuote], by simp, by decide⟩
  have hcut := (importTarget?_quoted_iff ⟨'"', false, rfl⟩ hblank " screen").not.2 fun hwhole =>
    absurd (hwhole ' ' (by simp)).2 (by decide)
  have hwhole := (importTarget?_quoted_iff ⟨'\'', true, rfl⟩ hplain " print").2 (by simp [Text.isBlank])
  exact ⟨⟨hblank, hplain⟩, by decide +kernel, hcut, hwhole⟩

end Reference

end CodeAtlas
