import CodeAtlas.Proofs.Json.RoundTrip
import CodeAtlas.Schema
import Mathlib.Data.List.Perm.Basic

set_option autoImplicit false

/-! # Values that pass their checks

A check of an array or of an object is passed item by item (`checkItems_eq_valid`, `checkMembers_eq_valid`), also in the
order that an object puts its members in (`record_ofMembers`). The other way round, a value that passes is known from
what the check makes of it (`natural_eq_valid_iff`, `eq_array_of_valid`), and a shape is passed member by member
(`seq_eq_valid_iff`). -/

namespace CodeAtlas.Schema

variable {α : Type} {item : Json → Checked α}

theorem number_eq_valid {bounds : List Bound} {r : ℚ} (h : ∀ b ∈ bounds, b.holds r = true) :
    number bounds (.number r) = .valid r := by
  have hpass : bounds.filter (fun b => !b.holds r) = [] := List.filter_eq_nil_iff.2 fun b hb => by simp [h b hb]
  simp only [number, hpass]

/-- A whole number passes as itself. -/
theorem natural_eq_valid {bounds : List Bound} {n : ℕ} (h : ∀ b ∈ bounds, b.holds n = true) :
    natural bounds (.number n) = .valid n := by
  have hwhole : ∀ b ∈ Bound.whole :: bounds, b.holds n = true := List.forall_mem_cons.2 ⟨by simp [Bound.holds], h⟩
  rw [natural, number_eq_valid hwhole, Checked.map, Rat.num_natCast, Int.toNat_natCast]

theorem required_eq_valid {name : String} {ms : List (String × Json)} {v : Json} {a : α}
    (hlookup : ms.lookup name = some v) (h : item v = .valid a) : required name item ms = .valid a := by
  simp only [required, hlookup, h, Checked.under]

theorem checkItems_eq_valid {l : List Json} {l' : List α} (h : List.Forall₂ (fun v a => item v = .valid a) l l')
    (k : ℕ) : checkItems item k l = .valid l' := by
  induction h generalizing k with
  | nil => rfl
  | cons hv _ ih => rw [checkItems, hv, ih, Checked.under, Checked.map, Checked.app]

theorem checkMembers_eq_valid {ms : List (String × Json)} {l : List (String × α)}
    (h : List.Forall₂ (fun m e => m.1 = e.1 ∧ item m.2 = .valid e.2) ms l) : checkMembers item ms = .valid l := by
  induction h with
  | nil => rfl
  | @cons m e ms l hm _ ih =>
      obtain ⟨n, v⟩ := m
      obtain ⟨n', a⟩ := e
      obtain ⟨rfl, hv⟩ := hm
      rw [checkMembers, hv, ih, Checked.under, Checked.map, Checked.app]

/-- An array of values that pass. -/
theorem array_map {β : Type} {f : β → Json} {g : β → α} {l : List β} (h : ∀ x ∈ l, item (f x) = .valid (g x)) :
    array item (.array (l.map f)) = .valid (l.map g) := by
  refine checkItems_eq_valid ?_ 0
  rw [List.forall₂_map_left_iff, List.forall₂_map_right_iff, List.forall₂_same]
  exact h

/-- An object of values that pass, up to the order of its members. -/
theorem record_ofMembers {f : α → Json} {l : List (String × α)} (hnodup : (l.map (·.1)).Nodup)
    (h : ∀ e ∈ l, item (f e.2) = .valid e.2) :
    ∃ l', record item (Json.ofMembers (l.map fun e => (e.1, f e.2))) = .valid l' ∧ l'.Perm l := by
  have hnames : ((l.map fun e => (e.1, f e.2)).map (·.1)).Nodup := by simpa [Function.comp_def] using hnodup
  obtain ⟨ms, hms, hperm⟩ := Json.ofMembers_perm hnames
  have hpass : List.Forall₂ (fun (m : String × Json) (e : String × α) => m.1 = e.1 ∧ item m.2 = .valid e.2)
      (l.map fun e => (e.1, f e.2)) l := by
    rw [List.forall₂_map_left_iff, List.forall₂_same]
    exact fun e he => ⟨rfl, h e he⟩
  -- the values are reordered with their members
  obtain ⟨l', hl', hperm'⟩ := List.perm_comp_forall₂ hperm hpass
  exact ⟨l', by rw [hms]; exact checkMembers_eq_valid hl', hperm'⟩

/-! ## What has passed -/

theorem string_eq_valid_iff {v : Json} {s : String} : string v = .valid s ↔ v = .string s := by
  cases v <;> simp [string, wrongType, issue]

theorem boolean_eq_valid_iff {v : Json} {b : Bool} : boolean v = .valid b ↔ v = .bool b := by
  cases v <;> simp [boolean, wrongType, issue]

theorem number_eq_valid_iff {bounds : List Bound} {v : Json} {r : ℚ} :
    number bounds v = .valid r ↔ v = .number r ∧ ∀ b ∈ bounds, b.holds r = true := by
  constructor
  · cases v with
    | number r' =>
        intro h
        simp only [number] at h
        split at h
        · next hpass =>
            cases h
            exact ⟨rfl, by simpa [List.filter_eq_nil_iff] using hpass⟩
        · cases h
    | _ => simp [number, wrongType, issue]
  · rintro ⟨rfl, h⟩
    exact number_eq_valid h

/-- Does the condition keep numbers from being negative? -/
def Bound.fromZero : Bound → Bool
  | positive | atLeast _ => true
  | whole | atMost _ => false

theorem Bound.nonneg_of_holds {b : Bound} (hb : b.fromZero = true) {r : ℚ} (h : b.holds r = true) : 0 ≤ r := by
  cases b with
  | positive => exact le_of_lt (by simpa [holds] using h)
  | atLeast n => exact le_trans (Nat.cast_nonneg n) (by simpa [holds] using h)
  | _ => cases hb

/-- A check that no negative number passes is passed by the natural numbers within the bounds. -/
theorem natural_eq_valid_iff {bounds : List Bound} (hbounds : bounds.any Bound.fromZero = true)
    {v : Json} {n : ℕ} : natural bounds v = .valid n ↔ v = .nat n ∧ ∀ b ∈ bounds, b.holds n = true := by
  constructor
  · intro h
    cases hr : number (.whole :: bounds) v with
    | invalid l => simp [natural, hr, Checked.map] at h
    | valid r =>
        obtain ⟨rfl, hholds⟩ := number_eq_valid_iff.1 hr
        obtain ⟨hwhole, hrest⟩ := List.forall_mem_cons.1 hholds
        rw [natural, hr, Checked.map, Checked.valid.injEq] at h
        have hden : r.den = 1 := by simpa [Bound.holds] using hwhole
        obtain ⟨b, hb, hzero⟩ := List.any_eq_true.1 hbounds
        have hnum : 0 ≤ r.num := Rat.num_nonneg.2 (b.nonneg_of_holds hzero (hrest b hb))
        have hreq : r = (n : ℚ) := by
          rw [← Rat.den_eq_one_iff r |>.1 hden, ← Int.toNat_of_nonneg hnum, h, Int.cast_natCast]
        exact ⟨by rw [Json.nat, hreq], hreq ▸ hrest⟩
  · rintro ⟨rfl, h⟩
    exact natural_eq_valid h

theorem checkItems_eq_valid_iff {l : List Json} {l' : List α} {k : ℕ} :
    checkItems item k l = .valid l' ↔ List.Forall₂ (fun v a => item v = .valid a) l l' := by
  refine ⟨fun h => ?_, fun h => checkItems_eq_valid h k⟩
  induction l generalizing k l' with
  | nil =>
      cases h
      exact .nil
  | cons v rest ih =>
      rw [checkItems] at h
      cases hv : item v with
      | invalid _ => simp [hv, Checked.under, Checked.map, Checked.app] at h
      | valid a =>
          cases hrest : checkItems item (k + 1) rest with
          | invalid _ => simp [hv, hrest, Checked.under, Checked.map, Checked.app] at h
          | valid as =>
              simp only [hv, hrest, Checked.under, Checked.map, Checked.app, Checked.valid.injEq] at h
              exact h ▸ .cons hv (ih hrest)

/-- If an item is known from what its check makes of it, so is an array. -/
theorem eq_array_of_valid {f : α → Json} (hitem : ∀ v a, item v = .valid a → v = f a) {v : Json} {l : List α}
    (h : array item v = .valid l) : v = .array (l.map f) := by
  cases v with
  | array items =>
      have hitems : List.Forall₂ (fun v a => v = f a) items l := (checkItems_eq_valid_iff.1 h).imp hitem
      rw [← List.forall₂_map_right_iff (f := f) (R := Eq), List.forall₂_eq_eq_eq] at hitems
      rw [hitems]
  | _ => simp [array, wrongType, issue] at h

/-- What a member with a default makes of what stands at its name. -/
def valueOr (item : Json → Checked α) (default : α) (v : Option Json) : Checked α := (v.map item).getD (.valid default)

theorem under_eq_valid_iff {x : Checked α} {step : String} {a : α} : x.under step = .valid a ↔ x = .valid a := by
  cases x <;> simp [Checked.under]

theorem withDefault_eq_under (name : String) (item : Json → Checked α) (default : α) (ms : List (String × Json)) :
    withDefault name item default ms = (valueOr item default (ms.lookup name)).under name := by
  unfold withDefault optional valueOr
  cases ms.lookup name with
  | none => rfl
  | some v => cases h : item v <;> simp [h, Checked.map, Checked.under]

/-- A member that may be missing is one with the default that nothing is there. -/
theorem optional_eq_withDefault (name : String) (item : Json → Checked α) (ms : List (String × Json)) :
    optional name item ms = withDefault name (fun v => (item v).map some) none ms := by
  rw [withDefault_eq_under, optional, valueOr]
  cases ms.lookup name <;> rfl

theorem withDefault_eq_valid_iff {name : String} {default : α} {ms : List (String × Json)} {a : α} :
    withDefault name item default ms = .valid a ↔ valueOr item default (ms.lookup name) = .valid a := by
  rw [withDefault_eq_under, under_eq_valid_iff]

theorem map_eq_valid_iff {β : Type} {f : α → β} {x : Checked α} {b : β} :
    f <$> x = .valid b ↔ ∃ a, x = .valid a ∧ f a = b := by
  change Checked.map f x = _ ↔ _
  cases x <;> simp [Checked.map]

theorem seq_eq_valid_iff {β : Type} {f : Checked (α → β)} {x : Checked α} {b : β} :
    f <*> x = .valid b ↔ ∃ g, f = .valid g ∧ ∃ a, x = .valid a ∧ g a = b := by
  change Checked.app f x = _ ↔ _
  cases f <;> cases x <;> simp [Checked.app]

end CodeAtlas.Schema
