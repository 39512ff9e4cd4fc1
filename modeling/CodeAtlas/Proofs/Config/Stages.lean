import CodeAtlas.Proofs.Config.Layers
import CodeAtlas.Proofs.Schema
import Mathlib.Tactic.NormNum

set_option autoImplicit false

/-! # Configuration in stages

A configuration can be taken for a layer: it is read back as itself, and a layer laid over it does what it does when
laid over the layers that gave the configuration. Filling in the defaults early neither hides nor uncovers what comes
later, because what a check makes of a member is decided by what stands there alone, and an object is laid over member
by member (`Staged`, `StagedShape`).

What an object inherits is the exception. It is read, but left behind when the object is laid over once more, so that
one layer more can change what is read even if it says nothing. `resolve_stages_iff` says that nothing else can go
wrong: stages are fine exactly if going into every object and saying nothing changes nothing, as it is for layers in
which no member says what an object inherits (`isPlain`). -/

namespace CodeAtlas.Config

open Schema

/-! ## Members in stages -/

/-- A member can be checked in stages. What its check makes of a value can be written down and checked again. If it
    makes the same of the value after something that says nothing (`touch`) is laid over it, then a plain value comes
    to the same, laid over the first value or over what was written. Where nothing is inherited, what says nothing
    changes nothing. -/
structure Staged {α : Type} (item : Json → Checked α) (default : α) (written : α → Option Json)
    (touch : Option Json) : Prop where
  reread : ∀ {v a}, valueOr item default v = .valid a → valueOr item default (written a) = .valid a
  touch_default : ∀ t ∈ touch, item t = .valid default
  overlay : ∀ {m : Option Merged} {a}, valueOr item default (m.map Merged.toJson) = .valid a →
    (∀ t ∈ touch, item (overlayValue m t).toJson = .valid a) → ∀ {v}, isPlain v = true →
      item (overlayValue m v).toJson = item (overlayValue ((written a).map .value) v).toJson
  kept : ∀ {m : Option Merged} {a}, (∀ x ∈ m, x.Flat) → valueOr item default (m.map Merged.toJson) = .valid a →
    ∀ t ∈ touch, item (overlayValue m t).toJson = .valid a

/-- The same of the members of an object, of which some may be inherited. -/
structure StagedShape {α : Type} (shape : Layer → Checked α) (written : α → Layer) (touch : Layer) : Prop where
  touch_plain : isPlainLayer touch = true
  reread : ∀ {ms a}, shape ms = .valid a → shape (written a) = .valid a
  overlay : ∀ {own inherited a}, shape (Merged.membersToJson (own ++ inherited)) = .valid a →
    shape (Merged.membersToJson (laid own touch)) = .valid a → ∀ {o}, isPlainLayer o = true →
      shape (Merged.membersToJson (laid own o)) = shape (Merged.membersToJson (laid (raw (written a)) o))
  kept : ∀ {own a}, (∀ m ∈ own, m.2.Flat) → shape (Merged.membersToJson own) = .valid a →
    shape (Merged.membersToJson (laid own touch)) = .valid a

section Staged

variable {α : Type} {item : Json → Checked α} {default : α} {written : α → Option Json} {touch : Option Json}

/-- A member that is no object. -/
theorem Staged.leaf (hobject : ∀ ms ms', item (.object ms) = item (.object ms'))
    (hwritten : ∀ v a, item v = .valid a → written a = some v)
    (hdefault : valueOr item default (written default) = .valid default) : Staged item default written none where
  reread {v a} h := by
    cases v with
    | none => cases h; exact hdefault
    | some v => rw [hwritten v a h]; exact h
  touch_default := by simp
  overlay {m a} _ _ v _ := by
    -- an object stays one, anything else replaces what was there
    have hlaid (base : Option Merged) (upper : Layer) :
        ∃ ms, (overlayValue base (.object upper)).toJson = .object ms := by
      rw [overlayValue]
      split <;> exact ⟨_, rfl⟩
    cases v with
    | object upper =>
        obtain ⟨ms, hms⟩ := hlaid m upper
        obtain ⟨ms', hms'⟩ := hlaid ((written a).map .value) upper
        rw [hms, hms', hobject]
    | _ => simp only [overlayValue]
  kept := by simp

section Object

variable {shape : Layer → Checked α} {members : α → Layer} {touchMembers : Layer}

theorem object_eq_valid_iff {v : Json} {a : α} :
    object shape v = .valid a ↔ ∃ ms, v = .object ms ∧ shape ms = .valid a := by
  cases v <;> simp [Schema.object, wrongType, issue]

/-- What an object is laid over: members of which some may be inherited, and which are none if nothing is there. -/
theorem exists_members_of_valid (hdefault : shape [] = .valid default) {m : Option Merged} {a : α}
    (hm : valueOr (object shape) default (m.map Merged.toJson) = .valid a) :
    ∃ own inherited, shape (Merged.membersToJson (own ++ inherited)) = .valid a ∧
      (∀ {upper}, isPlainLayer upper = true →
        (overlayValue m (.object upper)).toJson = .object (Merged.membersToJson (laid own upper))) ∧
      ((∀ x ∈ m, x.Flat) → inherited = [] ∧ ∀ x ∈ own, x.2.Flat) := by
  cases m with
  | none =>
      cases hm
      exact ⟨[], [], hdefault, fun hu => by rw [laid_nil hu, membersToJson_raw]; rfl, fun _ => ⟨rfl, by simp⟩⟩
  | some m =>
      obtain ⟨ms, hms, hshape⟩ := object_eq_valid_iff.1 hm
      have hover {own : List (String × Merged)} (hown : m.own? = some own) {upper : Layer}
          (hu : isPlainLayer upper = true) :
          (overlayValue (some m) (.object upper)).toJson = .object (Merged.membersToJson (laid own upper)) := by
        rw [overlayValue_object hown hu, Merged.toJson, Merged.membersToJson, List.append_nil]
      cases m with
      | value v =>
          obtain rfl : v = .object ms := by rwa [Merged.toJson] at hms
          exact ⟨raw ms, [], by rwa [List.append_nil, membersToJson_raw], hover rfl, fun _ => ⟨rfl, flat_raw ms⟩⟩
      | object own inherited =>
          rw [Merged.toJson, Json.object.injEq] at hms
          refine ⟨own, inherited, by rwa [membersToJson_append, hms], hover rfl, fun hflat => ?_⟩
          cases hflat _ rfl with
          | object h => exact ⟨rfl, h⟩

/-- An object that is checked by its members. -/
theorem Staged.object (h : StagedShape shape members touchMembers) (hdefault : shape [] = .valid default) :
    Staged (object shape) default (fun a => some (.object (members a))) (some (.object touchMembers)) where
  reread {v a} hv := by
    have hshape : ∃ ms, shape ms = .valid a := by
      cases v with
      | none => cases hv; exact ⟨[], hdefault⟩
      | some v =>
          obtain ⟨ms, -, hms⟩ := object_eq_valid_iff.1 hv
          exact ⟨ms, hms⟩
    obtain ⟨ms, hms⟩ := hshape
    exact h.reread hms
  touch_default t ht := by
    cases ht
    have hempty : ∀ m ∈ ([] : List (String × Merged)), m.2.Flat := by simp
    have hkept := h.kept hempty hdefault
    rwa [laid_nil h.touch_plain, membersToJson_raw] at hkept
  overlay {m a} hm htouch v hv := by
    cases v with
    | object upper =>
        obtain ⟨own, inherited, hshape, hover, -⟩ := exists_members_of_valid hdefault hm
        have htouched := htouch _ rfl
        rw [hover h.touch_plain] at htouched
        rw [hover hv, Option.map_some, overlayValue_object rfl hv, Merged.toJson, Merged.membersToJson, List.append_nil]
        exact h.overlay hshape htouched hv
    | _ => simp only [overlayValue]
  kept {m a} hflat hm t ht := by
    cases ht
    obtain ⟨own, inherited, hshape, hover, hnone⟩ := exists_members_of_valid hdefault hm
    obtain ⟨rfl, hown⟩ := hnone hflat
    rw [List.append_nil] at hshape
    rw [hover h.touch_plain]
    exact h.kept hown hshape

end Object

section WithDefault

variable {name : String} {touchMembers : Layer} {own inherited : List (String × Merged)} {a : α}

theorem Staged.withDefault_reread (h : Staged item default written touch) {ms ms' : Layer}
    (hlookup : ms'.lookup name = written a) (hvalid : withDefault name item default ms = .valid a) :
    withDefault name item default ms' = .valid a := by
  rw [withDefault_eq_valid_iff, hlookup]
  exact h.reread (withDefault_eq_valid_iff.1 hvalid)

theorem Staged.withDefault_kept (h : Staged item default written touch) (hplain : isPlainLayer touchMembers = true)
    (htouch : touchMembers.lookup name = touch) (hflat : ∀ m ∈ own, m.2.Flat)
    (hvalid : withDefault name item default (Merged.membersToJson own) = .valid a) :
    withDefault name item default (Merged.membersToJson (laid own touchMembers)) = .valid a := by
  rw [withDefault_eq_valid_iff, lookup_membersToJson] at hvalid ⊢
  rw [lookup_laid hplain, htouch]
  cases touch with
  | none => exact hvalid
  | some t => exact h.kept (flat_of_lookup hflat) hvalid t rfl

/-- What says nothing shows what is there without what is inherited. -/
theorem Staged.settled (h : Staged item default written touch) (hplain : isPlainLayer touchMembers = true)
    (htouch : touchMembers.lookup name = touch)
    (hvalid : withDefault name item default (Merged.membersToJson (own ++ inherited)) = .valid a)
    (htouched : withDefault name item default (Merged.membersToJson (laid own touchMembers)) = .valid a) :
    valueOr item default ((own.lookup name).map Merged.toJson) = .valid a ∧
      ∀ t ∈ touch, item (overlayValue (own.lookup name) t).toJson = .valid a := by
  rw [withDefault_eq_valid_iff, lookup_membersToJson] at hvalid htouched
  rw [lookup_laid hplain, htouch] at htouched
  cases touch with
  | none => exact ⟨htouched, by simp⟩
  | some t =>
      refine ⟨?_, fun t' ht' => by cases ht'; exact htouched⟩
      cases hown : own.lookup name with
      | some m => rwa [List.lookup_append, hown, Option.some_or] at hvalid
      | none =>
          -- nothing is there, and that is how the default comes about
          have hdefault : item t = .valid a := by
            rw [hown] at htouched
            simpa [valueOr, overlayValue_none, Merged.toJson] using htouched
          rw [h.touch_default t rfl] at hdefault
          exact hdefault

theorem Staged.withDefault_overlay (h : Staged item default written touch) (ms : Layer)
    (hlookup : ms.lookup name = written a) (hplain : isPlainLayer touchMembers = true)
    (htouch : touchMembers.lookup name = touch)
    (hvalid : withDefault name item default (Merged.membersToJson (own ++ inherited)) = .valid a)
    (htouched : withDefault name item default (Merged.membersToJson (laid own touchMembers)) = .valid a)
    {o : Layer} (ho : isPlainLayer o = true) :
    withDefault name item default (Merged.membersToJson (laid own o)) =
      withDefault name item default (Merged.membersToJson (laid (raw ms) o)) := by
  obtain ⟨hown, hlaid⟩ := h.settled hplain htouch hvalid htouched
  rw [withDefault_eq_under, withDefault_eq_under]
  simp only [lookup_membersToJson, lookup_laid ho, lookup_raw, hlookup]
  congr 1
  cases hv : o.lookup name with
  | some v => exact h.overlay hown hlaid (isPlain_of_mem ho (mem_of_lookup hv))
  | none =>
      have hwritten := h.reread hown
      rw [hown, Option.map_map]
      cases hw : written a <;> simpa [hw, Merged.toJson] using hwritten.symm

end WithDefault

end Staged

/-! ## The members of a configuration -/

theorem staged_number {bounds : List Bound} {default : ℚ} (h : ∀ b ∈ bounds, b.holds default = true) :
    Staged (number bounds) default (fun r => some (.number r)) none :=
  .leaf (fun _ _ => rfl) (fun _ _ hv => congrArg some (number_eq_valid_iff.1 hv).1.symm) (number_eq_valid h)

theorem staged_natural {bounds : List Bound} (hbounds : bounds.any Bound.fromZero = true) {default : ℕ}
    (h : ∀ b ∈ bounds, b.holds default = true) :
    Staged (natural bounds) default (fun n => some (.nat n)) none :=
  .leaf (fun _ _ => rfl) (fun _ _ hv => congrArg some ((natural_eq_valid_iff hbounds).1 hv).1.symm) (natural_eq_valid h)

theorem staged_boolean (default : Bool) : Staged boolean default (fun b => some (.bool b)) none :=
  .leaf (fun _ _ => rfl) (fun _ _ hv => congrArg some (boolean_eq_valid_iff.1 hv).symm) rfl

theorem staged_string (default : String) : Staged string default (fun s => some (.string s)) none :=
  .leaf (fun _ _ => rfl) (fun _ _ hv => congrArg some (string_eq_valid_iff.1 hv).symm) rfl

theorem staged_strings (default : List String) :
    Staged (array string) default (fun l => some (.array (l.map Json.string))) none :=
  .leaf (fun _ _ => rfl) (fun _ _ hv => congrArg some (eq_array_of_valid (fun _ _ => string_eq_valid_iff.1) hv).symm)
    (by simpa [valueOr] using array_map fun (s : String) _ => (rfl : string (.string s) = .valid s))

theorem eq_string_of_extension {v : Json} {s : String} (h : extensionShape v = .valid s) : v = .string s := by
  rw [extensionShape] at h
  split at h
  · next s' hs =>
      rw [string_eq_valid_iff.1 hs]
      split at h
      · split at h
        · cases h; rfl
        · cases h
      · cases h
  · cases h

theorem staged_extensions :
    Staged (fun v => (array extensionShape v).map some) none (Option.map fun l => .array (l.map Json.string)) none :=
  .leaf (fun _ _ => rfl) (fun v a hv => by
    obtain ⟨l, hl, rfl⟩ := map_eq_valid_iff.1 hv
    rw [eq_array_of_valid (fun _ _ => eq_string_of_extension) hl]
    rfl) rfl

/-- The weights as members. -/
def weightsMembers (w : Weights) : Layer :=
  [("text", .number w.text), ("graph", .number w.graph), ("agreementBonus", .number w.agreementBonus)]

/-- The ranking as members. -/
def retrievalMembers (r : RetrievalConfig) : Layer :=
  [("k1", .number r.k1), ("b", .number r.b), ("topK", .nat r.topK), ("fuzzyThreshold", .number r.fuzzyThreshold),
    ("fileContentLines", .nat r.fileContentLines), ("weights", .object (weightsMembers r.weights))]

/-- The filters as members. -/
def graphMembers (g : GraphConfig) : Layer :=
  (match g.extensions with
    | some l => [("extensions", .array (l.map Json.string))]
    | none => []) ++
  [("skipPatterns", .array (g.skipPatterns.map Json.string)), ("respectGitignore", .bool g.respectGitignore),
    ("maxDepth", .nat g.maxDepth), ("maxFileSize", .nat g.maxFileSize), ("concurrency", .nat g.concurrency)]

theorem toLayer_eq (c : Config) : c.toLayer =
    [("graph", .object (graphMembers c.graph)), ("retrieval", .object (retrievalMembers c.retrieval)),
      ("cacheDir", .string c.cacheDir)] := rfl

theorem weightsShape_eq_valid_iff {ms : Layer} {w : Weights} : weightsShape ms = .valid w ↔
    withDefault "text" (number [.atLeast 0]) defaultWeights.text ms = .valid w.text ∧
    withDefault "graph" (number [.atLeast 0]) defaultWeights.graph ms = .valid w.graph ∧
    withDefault "agreementBonus" (number [.atLeast 0]) defaultWeights.agreementBonus ms = .valid w.agreementBonus := by
  simp only [weightsShape, seq_eq_valid_iff, map_eq_valid_iff]
  constructor
  · rintro ⟨_, ⟨_, ⟨_, h₁, rfl⟩, _, h₂, rfl⟩, _, h₃, rfl⟩
    exact ⟨h₁, h₂, h₃⟩
  · rintro ⟨h₁, h₂, h₃⟩
    exact ⟨_, ⟨_, ⟨_, h₁, rfl⟩, _, h₂, rfl⟩, _, h₃, rfl⟩

theorem retrievalShape_eq_valid_iff {ms : Layer} {r : RetrievalConfig} : retrievalShape ms = .valid r ↔
    withDefault "k1" (number [.positive]) defaultRetrieval.k1 ms = .valid r.k1 ∧
    withDefault "b" (number [.atLeast 0, .atMost 1]) defaultRetrieval.b ms = .valid r.b ∧
    withDefault "topK" (natural [.positive]) defaultRetrieval.topK ms = .valid r.topK ∧
    withDefault "fuzzyThreshold" (number [.atLeast 0, .atMost 1]) defaultRetrieval.fuzzyThreshold ms =
      .valid r.fuzzyThreshold ∧
    withDefault "fileContentLines" (natural [.atLeast 0]) defaultRetrieval.fileContentLines ms =
      .valid r.fileContentLines ∧
    withDefault "weights" (object weightsShape) defaultWeights ms = .valid r.weights := by
  simp only [retrievalShape, seq_eq_valid_iff, map_eq_valid_iff]
  constructor
  · rintro ⟨_, ⟨_, ⟨_, ⟨_, ⟨_, ⟨_, h₁, rfl⟩, _, h₂, rfl⟩, _, h₃, rfl⟩, _, h₄, rfl⟩, _, h₅, rfl⟩, _, h₆, rfl⟩
    exact ⟨h₁, h₂, h₃, h₄, h₅, h₆⟩
  · rintro ⟨h₁, h₂, h₃, h₄, h₅, h₆⟩
    exact ⟨_, ⟨_, ⟨_, ⟨_, ⟨_, ⟨_, h₁, rfl⟩, _, h₂, rfl⟩, _, h₃, rfl⟩, _, h₄, rfl⟩, _, h₅, rfl⟩, _, h₆, rfl⟩

theorem graphShape_eq_valid_iff {ms : Layer} {g : GraphConfig} : graphShape ms = .valid g ↔
    withDefault "extensions" (fun v => (array extensionShape v).map some) none ms = .valid g.extensions ∧
    withDefault "skipPatterns" (array string) defaultSkipPatterns ms = .valid g.skipPatterns ∧
    withDefault "respectGitignore" boolean true ms = .valid g.respectGitignore ∧
    withDefault "maxDepth" (natural [.atLeast 0]) 20 ms = .valid g.maxDepth ∧
    withDefault "maxFileSize" (natural [.positive]) 1048576 ms = .valid g.maxFileSize ∧
    withDefault "concurrency" (natural [.atLeast 1, .atMost 64]) 8 ms = .valid g.concurrency := by
  simp only [graphShape, seq_eq_valid_iff, map_eq_valid_iff, optional_eq_withDefault]
  constructor
  · rintro ⟨_, ⟨_, ⟨_, ⟨_, ⟨_, ⟨_, h₁, rfl⟩, _, h₂, rfl⟩, _, h₃, rfl⟩, _, h₄, rfl⟩, _, h₅, rfl⟩, _, h₆, rfl⟩
    exact ⟨h₁, h₂, h₃, h₄, h₅, h₆⟩
  · rintro ⟨h₁, h₂, h₃, h₄, h₅, h₆⟩
    exact ⟨_, ⟨_, ⟨_, ⟨_, ⟨_, ⟨_, h₁, rfl⟩, _, h₂, rfl⟩, _, h₃, rfl⟩, _, h₄, rfl⟩, _, h₅, rfl⟩, _, h₆, rfl⟩

theorem shape_eq_valid_iff {home : String} {ms : Layer} {c : Config} : shape home ms = .valid c ↔
    withDefault "graph" (object graphShape) defaultGraph ms = .valid c.graph ∧
    withDefault "retrieval" (object retrievalShape) defaultRetrieval ms = .valid c.retrieval ∧
    withDefault "cacheDir" string (defaultCacheDir home) ms = .valid c.cacheDir := by
  simp only [shape, seq_eq_valid_iff, map_eq_valid_iff]
  constructor
  · rintro ⟨_, ⟨_, ⟨_, h₁, rfl⟩, _, h₂, rfl⟩, _, h₃, rfl⟩
    exact ⟨h₁, h₂, h₃⟩
  · rintro ⟨h₁, h₂, h₃⟩
    exact ⟨_, ⟨_, ⟨_, h₁, rfl⟩, _, h₂, rfl⟩, _, h₃, rfl⟩

/-! ## Shapes in stages -/

/-- What goes into every object of the ranking and says nothing. -/
def touchRetrieval : Layer := [("weights", .object [])]

/-- What goes into every object of a configuration and says nothing. -/
def touchAll : Layer := [("graph", .object []), ("retrieval", .object touchRetrieval)]

theorem stagedShape_weights : StagedShape weightsShape weightsMembers [] := by
  have hweight (default : ℚ) (h : 0 ≤ default) :
      Staged (number [.atLeast 0]) default (fun r => some (.number r)) none :=
    staged_number (by simpa [Bound.holds] using h)
  have htext := hweight defaultWeights.text (by norm_num [defaultWeights])
  have hgraph := hweight defaultWeights.graph (by norm_num [defaultWeights])
  have hbonus := hweight defaultWeights.agreementBonus (by norm_num [defaultWeights])
  refine ⟨rfl, fun {ms w} h => ?_, fun {own inherited w} h htouched o ho => ?_, fun {own w} hflat h => ?_⟩
  · rw [weightsShape_eq_valid_iff] at h ⊢
    obtain ⟨h₁, h₂, h₃⟩ := h
    exact ⟨htext.withDefault_reread rfl h₁, hgraph.withDefault_reread rfl h₂, hbonus.withDefault_reread rfl h₃⟩
  · obtain ⟨h₁, h₂, h₃⟩ := weightsShape_eq_valid_iff.1 h
    obtain ⟨t₁, t₂, t₃⟩ := weightsShape_eq_valid_iff.1 htouched
    rw [weightsShape, weightsShape, htext.withDefault_overlay (weightsMembers w) rfl rfl rfl h₁ t₁ ho,
      hgraph.withDefault_overlay (weightsMembers w) rfl rfl rfl h₂ t₂ ho,
      hbonus.withDefault_overlay (weightsMembers w) rfl rfl rfl h₃ t₃ ho]
  · rw [weightsShape_eq_valid_iff] at h ⊢
    obtain ⟨h₁, h₂, h₃⟩ := h
    exact ⟨htext.withDefault_kept rfl rfl hflat h₁, hgraph.withDefault_kept rfl rfl hflat h₂,
      hbonus.withDefault_kept rfl rfl hflat h₃⟩

theorem stagedShape_retrieval : StagedShape retrievalShape retrievalMembers touchRetrieval := by
  have hk1 : Staged (number [.positive]) defaultRetrieval.k1 (fun r => some (.number r)) none :=
    staged_number (by norm_num [Bound.holds, defaultRetrieval])
  have hb : Staged (number [.atLeast 0, .atMost 1]) defaultRetrieval.b (fun r => some (.number r)) none :=
    staged_number (by norm_num [Bound.holds, defaultRetrieval])
  have htop : Staged (natural [.positive]) defaultRetrieval.topK (fun n => some (.nat n)) none :=
    staged_natural rfl (by simp [Bound.holds, defaultRetrieval])
  have hfuzzy : Staged (number [.atLeast 0, .atMost 1]) defaultRetrieval.fuzzyThreshold (fun r => some (.number r))
      none :=
    staged_number (by norm_num [Bound.holds, defaultRetrieval])
  have hlines : Staged (natural [.atLeast 0]) defaultRetrieval.fileContentLines (fun n => some (.nat n)) none :=
    staged_natural rfl (by simp [Bound.holds, defaultRetrieval])
  have hweights : Staged (object weightsShape) defaultWeights (fun w => some (.object (weightsMembers w)))
      (some (.object [])) := .object stagedShape_weights rfl
  refine ⟨rfl, fun {ms r} h => ?_, fun {own inherited r} h htouched o ho => ?_, fun {own r} hflat h => ?_⟩
  · rw [retrievalShape_eq_valid_iff] at h ⊢
    obtain ⟨h₁, h₂, h₃, h₄, h₅, h₆⟩ := h
    exact ⟨hk1.withDefault_reread rfl h₁, hb.withDefault_reread rfl h₂, htop.withDefault_reread rfl h₃,
      hfuzzy.withDefault_reread rfl h₄, hlines.withDefault_reread rfl h₅, hweights.withDefault_reread rfl h₆⟩
  · obtain ⟨h₁, h₂, h₃, h₄, h₅, h₆⟩ := retrievalShape_eq_valid_iff.1 h
    obtain ⟨t₁, t₂, t₃, t₄, t₅, t₆⟩ := retrievalShape_eq_valid_iff.1 htouched
    rw [retrievalShape, retrievalShape, hk1.withDefault_overlay (retrievalMembers r) rfl rfl rfl h₁ t₁ ho,
      hb.withDefault_overlay (retrievalMembers r) rfl rfl rfl h₂ t₂ ho,
      htop.withDefault_overlay (retrievalMembers r) rfl rfl rfl h₃ t₃ ho,
      hfuzzy.withDefault_overlay (retrievalMembers r) rfl rfl rfl h₄ t₄ ho,
      hlines.withDefault_overlay (retrievalMembers r) rfl rfl rfl h₅ t₅ ho,
      hweights.withDefault_overlay (retrievalMembers r) rfl rfl rfl h₆ t₆ ho]
  · rw [retrievalShape_eq_valid_iff] at h ⊢
    obtain ⟨h₁, h₂, h₃, h₄, h₅, h₆⟩ := h
    exact ⟨hk1.withDefault_kept rfl rfl hflat h₁, hb.withDefault_kept rfl rfl hflat h₂,
      htop.withDefault_kept rfl rfl hflat h₃, hfuzzy.withDefault_kept rfl rfl hflat h₄,
      hlines.withDefault_kept rfl rfl hflat h₅, hweights.withDefault_kept rfl rfl hflat h₆⟩

theorem lookup_graphMembers_extensions (g : GraphConfig) :
    (graphMembers g).lookup "extensions" = g.extensions.map fun l => .array (l.map Json.string) := by
  unfold graphMembers
  cases g.extensions <;> rfl

/-- What stands at the other names does not depend on the extensions. -/
theorem lookup_graphMembers_of_ne (g : GraphConfig) (name : String) (h : name ≠ "extensions") {v : Option Json}
    (hv : (graphMembers { g with extensions := none }).lookup name = v) : (graphMembers g).lookup name = v := by
  rw [← hv]
  unfold graphMembers
  cases g.extensions with
  | none => rfl
  | some l => rw [List.singleton_append, lookup_cons_eq_ite, if_neg h]; rfl

theorem stagedShape_graph : StagedShape graphShape graphMembers [] := by
  have hextensions := staged_extensions
  have hskip := staged_strings defaultSkipPatterns
  have hignore := staged_boolean true
  have hdepth : Staged (natural [.atLeast 0]) 20 (fun n => some (.nat n)) none :=
    staged_natural rfl (by simp [Bound.holds])
  have hsize : Staged (natural [.positive]) 1048576 (fun n => some (.nat n)) none :=
    staged_natural rfl (by simp [Bound.holds])
  have hjobs : Staged (natural [.atLeast 1, .atMost 64]) 8 (fun n => some (.nat n)) none :=
    staged_natural rfl (by norm_num [Bound.holds])
  have l₁ := lookup_graphMembers_extensions
  have l₂ (g : GraphConfig) := lookup_graphMembers_of_ne g "skipPatterns" (by decide) rfl
  have l₃ (g : GraphConfig) := lookup_graphMembers_of_ne g "respectGitignore" (by decide) rfl
  have l₄ (g : GraphConfig) := lookup_graphMembers_of_ne g "maxDepth" (by decide) rfl
  have l₅ (g : GraphConfig) := lookup_graphMembers_of_ne g "maxFileSize" (by decide) rfl
  have l₆ (g : GraphConfig) := lookup_graphMembers_of_ne g "concurrency" (by decide) rfl
  refine ⟨rfl, fun {ms g} h => ?_, fun {own inherited g} h htouched o ho => ?_, fun {own g} hflat h => ?_⟩
  · rw [graphShape_eq_valid_iff] at h ⊢
    obtain ⟨h₁, h₂, h₃, h₄, h₅, h₆⟩ := h
    exact ⟨hextensions.withDefault_reread (l₁ g) h₁, hskip.withDefault_reread (l₂ g) h₂,
      hignore.withDefault_reread (l₃ g) h₃, hdepth.withDefault_reread (l₄ g) h₄,
      hsize.withDefault_reread (l₅ g) h₅, hjobs.withDefault_reread (l₆ g) h₆⟩
  · obtain ⟨h₁, h₂, h₃, h₄, h₅, h₆⟩ := graphShape_eq_valid_iff.1 h
    obtain ⟨t₁, t₂, t₃, t₄, t₅, t₆⟩ := graphShape_eq_valid_iff.1 htouched
    rw [graphShape, graphShape, optional_eq_withDefault, optional_eq_withDefault,
      hextensions.withDefault_overlay (graphMembers g) (l₁ g) rfl rfl h₁ t₁ ho,
      hskip.withDefault_overlay (graphMembers g) (l₂ g) rfl rfl h₂ t₂ ho,
      hignore.withDefault_overlay (graphMembers g) (l₃ g) rfl rfl h₃ t₃ ho,
      hdepth.withDefault_overlay (graphMembers g) (l₄ g) rfl rfl h₄ t₄ ho,
      hsize.withDefault_overlay (graphMembers g) (l₅ g) rfl rfl h₅ t₅ ho,
      hjobs.withDefault_overlay (graphMembers g) (l₆ g) rfl rfl h₆ t₆ ho]
  · rw [graphShape_eq_valid_iff] at h ⊢
    obtain ⟨h₁, h₂, h₃, h₄, h₅, h₆⟩ := h
    exact ⟨hextensions.withDefault_kept rfl rfl hflat h₁, hskip.withDefault_kept rfl rfl hflat h₂,
      hignore.withDefault_kept rfl rfl hflat h₃, hdepth.withDefault_kept rfl rfl hflat h₄,
      hsize.withDefault_kept rfl rfl hflat h₅, hjobs.withDefault_kept rfl rfl hflat h₆⟩

theorem stagedShape_config (home : String) : StagedShape (shape home) toLayer touchAll := by
  have hgraph : Staged (object graphShape) defaultGraph (fun g => some (.object (graphMembers g)))
      (some (.object [])) := .object stagedShape_graph rfl
  have hretrieval : Staged (object retrievalShape) defaultRetrieval (fun r => some (.object (retrievalMembers r)))
      (some (.object touchRetrieval)) := .object stagedShape_retrieval rfl
  have hcache := staged_string (defaultCacheDir home)
  refine ⟨by decide, fun {ms c} h => ?_, fun {own inherited c} h htouched o ho => ?_, fun {own c} hflat h => ?_⟩
  · rw [shape_eq_valid_iff] at h ⊢
    obtain ⟨h₁, h₂, h₃⟩ := h
    exact ⟨hgraph.withDefault_reread rfl h₁, hretrieval.withDefault_reread rfl h₂, hcache.withDefault_reread rfl h₃⟩
  · obtain ⟨h₁, h₂, h₃⟩ := shape_eq_valid_iff.1 h
    obtain ⟨t₁, t₂, t₃⟩ := shape_eq_valid_iff.1 htouched
    rw [shape, shape, hgraph.withDefault_overlay c.toLayer rfl (by decide) rfl h₁ t₁ ho,
      hretrieval.withDefault_overlay c.toLayer rfl (by decide) rfl h₂ t₂ ho,
      hcache.withDefault_overlay c.toLayer rfl (by decide) rfl h₃ t₃ ho]
  · rw [shape_eq_valid_iff] at h ⊢
    obtain ⟨h₁, h₂, h₃⟩ := h
    exact ⟨hgraph.withDefault_kept (by decide) rfl hflat h₁, hretrieval.withDefault_kept (by decide) rfl hflat h₂,
      hcache.withDefault_kept (by decide) rfl hflat h₃⟩

/-! ## Configurations in stages -/

theorem isPlainLayer_toLayer (c : Config) : isPlainLayer c.toLayer = true := by
  rw [toLayer_eq, graphMembers]
  cases c.graph.extensions <;>
    simp [retrievalMembers, weightsMembers, isPlainLayer, isPlain, inheritName, Json.nat]

theorem resolve_eq_ok_iff {home : String} {layers : List Layer} {own inherited : List (String × Merged)} {c : Config}
    (h : mergeLayers layers = .object own inherited) :
    resolve home layers = .ok c ↔ shape home (Merged.membersToJson (own ++ inherited)) = .valid c := by
  rw [resolve, h, Merged.toJson, ← membersToJson_append, Json.members]
  cases shape home (Merged.membersToJson (own ++ inherited)) <;> simp

/-- **When configuration can be resolved in stages.** A configuration that layers resolve to resolves to itself. Any
    further plain layer comes to the same over it and over the layers, with the same issues if it is wrong, exactly if
    the layer that goes into every object and says nothing changes nothing over the layers. Over plain layers it does
    not. -/
theorem resolve_stages_iff {home : String} {layers : List Layer} {c : Config} (h : resolve home layers = .ok c) :
    resolve home [c.toLayer] = .ok c ∧
    ((∀ o, isPlainLayer o = true → resolve home [c.toLayer, o] = resolve home (layers ++ [o])) ↔
      resolve home (layers ++ [touchAll]) = .ok c) ∧
    ((∀ l ∈ layers, isPlainLayer l = true) →
      ∀ o, isPlainLayer o = true → resolve home [c.toLayer, o] = resolve home (layers ++ [o])) := by
  have hstaged := stagedShape_config home
  obtain ⟨own, inherited, hmerged⟩ := exists_mergeLayers_eq layers
  have hvalid := (resolve_eq_ok_iff hmerged).1 h
  have hself : mergeLayers [c.toLayer] = .object (raw c.toLayer) [] := by
    change overlayValue (some (.object [] [])) (.object c.toLayer) = _
    rw [overlayValue_object rfl (isPlainLayer_toLayer c), laid_nil (isPlainLayer_toLayer c)]
  -- what a further layer comes to
  have hlayers {o : Layer} (ho : isPlainLayer o = true) : mergeLayers (layers ++ [o]) = .object (laid own o) [] := by
    rw [mergeLayers_concat, hmerged, overlayValue_object rfl ho]
  have hover {o : Layer} (ho : isPlainLayer o = true) :
      mergeLayers [c.toLayer, o] = .object (laid (raw c.toLayer) o) [] := by
    rw [show [c.toLayer, o] = [c.toLayer] ++ [o] from rfl, mergeLayers_concat, hself, overlayValue_object rfl ho]
  have hstages (htouched : resolve home (layers ++ [touchAll]) = .ok c) (o : Layer) (ho : isPlainLayer o = true) :
      resolve home [c.toLayer, o] = resolve home (layers ++ [o]) := by
    rw [resolve_eq_ok_iff (hlayers hstaged.touch_plain), List.append_nil] at htouched
    rw [resolve, resolve, hlayers ho, hover ho]
    simp only [Merged.toJson, Merged.membersToJson, List.append_nil, Json.members]
    rw [hstaged.overlay hvalid htouched ho]
  have hreread : shape home (Merged.membersToJson (raw c.toLayer)) = .valid c := by
    rw [membersToJson_raw]
    exact hstaged.reread hvalid
  refine ⟨(resolve_eq_ok_iff hself).2 (by rwa [List.append_nil]), ⟨fun hall => ?_, hstages⟩, fun hplain => hstages ?_⟩
  · rw [← hall touchAll hstaged.touch_plain, resolve_eq_ok_iff (hover hstaged.touch_plain), List.append_nil]
    exact hstaged.kept (flat_raw _) hreread
  · obtain ⟨own', hmerged', hflat⟩ := mergeLayers_flat hplain
    obtain ⟨rfl, rfl⟩ := Merged.object.inj (hmerged.symm.trans hmerged')
    rw [resolve_eq_ok_iff (hlayers hstaged.touch_plain), List.append_nil]
    rw [List.append_nil] at hvalid
    exact hstaged.kept hflat hvalid

/-- A layer for the index and one for the ranking, which also says something that no shape asks for. -/
def twoLayers : List Layer :=
  [[("graph", .object [("maxDepth", .nat 3), ("extensions", .array [.string ".py"])])],
    [("retrieval", .object [("weights", .object [("text", .nat 1)])]), ("colour", .string "red")]]

/-- A layer with one wrong value. -/
def wrongDepth : Layer := [("graph", .object [("maxDepth", .string "deep")]), ("cacheDir", .string "/c")]

theorem resolve_twoLayers_stages : ∃ c, resolve "/home" twoLayers = .ok c ∧ resolve "/home" [c.toLayer] = .ok c ∧
    resolve "/home" [c.toLayer, wrongDepth] = resolve "/home" (twoLayers ++ [wrongDepth]) ∧
    resolve "/home" (twoLayers ++ [wrongDepth]) =
      .error ⟨"Invalid configuration", ["graph.maxDepth: Expected number, received string"]⟩ := by
  obtain ⟨c, hc⟩ : ∃ c, resolve "/home" twoLayers = .ok c := ⟨_, rfl⟩
  obtain ⟨hself, -, hstages⟩ := resolve_stages_iff hc
  exact ⟨c, hc, hself, hstages (by decide) wrongDepth (by decide), by decide +kernel⟩

/-- A layer that says what is inherited. -/
def inheriting : Layer := [(inheritName, .object [("cacheDir", .string "/c")])]

/-- What is inherited is read and becomes a member of its own when the configuration is taken for a layer; left as it
    is, it is gone with the next layer. -/
example : ∃ c, resolve "/home" [inheriting] = .ok c ∧
    (resolve "/home" [c.toLayer, []]).map (·.cacheDir) = .ok "/c" ∧
    (resolve "/home" [inheriting, []]).map (·.cacheDir) = .ok (defaultCacheDir "/home") :=
  ⟨_, rfl, by decide +kernel, by decide +kernel⟩

end CodeAtlas.Config
