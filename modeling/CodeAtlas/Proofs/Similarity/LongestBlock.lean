import CodeAtlas.Similarity

set_option autoImplicit false

/-! # The earliest of the longest common blocks

The scan for a block goes through a range of the first text unit by unit, and for each of them through a range of the
second. A row says how long the longest common block of the ranges is that ends at the one place and at the other
(`ending`): one unit longer than at the places before them if the units between are the same, else nothing.

Before every comparison the scan holds the row as far as it has been filled (`FilledTo`) and the best of the common
blocks that end where it has been (`BestBy`). A block that ends later and is longer takes its place. One of the same
size that ends later also starts later, so the strict comparison keeps the earliest
(`earliestLongestIn_longestBlock`). -/

namespace CodeAtlas.Similarity

variable {a b : List UInt16} {aLo aHi bLo bHi e f i j : Nat} {k k' best : Block}

/-! ## Common blocks -/

/-- Do two texts have the same units where a block says? -/
structure Common (a b : List UInt16) (k : Block) : Prop where
  left_le : k.left + k.size ≤ a.length
  right_le : k.right + k.size ≤ b.length
  units_eq : (a.drop k.left).take k.size = (b.drop k.right).take k.size

/-- Does a block start no later than another one, in the first text and, at one place of it, in the second? -/
def Block.StartsBy (k k' : Block) : Prop := k.left < k'.left ∨ k.left = k'.left ∧ k.right ≤ k'.right

theorem Block.StartsBy.antisymm (h : k.StartsBy k') (h' : k'.StartsBy k) (hsize : k.size = k'.size) : k = k' := by
  unfold Block.StartsBy at h h'
  obtain ⟨left, right, size⟩ := k
  obtain ⟨left', right', size'⟩ := k'
  rw [Block.mk.injEq]
  dsimp only at *
  omega

/-- A common block of two texts that lies in a range of each. -/
structure CommonIn (a b : List UInt16) (aLo aHi bLo bHi : Nat) (k : Block) : Prop extends Common a b k where
  left_ge : aLo ≤ k.left
  left_end_le : k.left + k.size ≤ aHi
  right_ge : bLo ≤ k.right
  right_end_le : k.right + k.size ≤ bHi

/-- The common block of two ranges that no other one exceeds, and of those the one that starts first. -/
structure EarliestLongestIn (a b : List UInt16) (aLo aHi bLo bHi : Nat) (k : Block) : Prop where
  common : CommonIn a b aLo aHi bLo bHi k
  longest : ∀ k', CommonIn a b aLo aHi bLo bHi k' → k'.size ≤ k.size
  earliest : ∀ k', CommonIn a b aLo aHi bLo bHi k' → k'.size = k.size → k.StartsBy k'

theorem EarliestLongestIn.unique (h : EarliestLongestIn a b aLo aHi bLo bHi k)
    (h' : EarliestLongestIn a b aLo aHi bLo bHi k') : k = k' :=
  have hsize : k.size = k'.size := Nat.le_antisymm (h'.longest k h.common) (h.longest k' h'.common)
  (h.earliest k' h'.common hsize.symm).antisymm (h'.earliest k h.common hsize) hsize

theorem take_drop_eq_iff (n : Nat) :
    (a.drop i).take n = (b.drop j).take n ↔ ∀ m < n, a[i + m]? = b[j + m]? := by
  constructor
  · intro h m hm
    have hat := congrArg (·[m]?) h
    simpa [List.getElem?_take_of_lt hm, List.getElem?_drop] using hat
  · intro h
    refine List.ext_getElem? fun m => ?_
    by_cases hm : m < n
    · simpa [List.getElem?_take_of_lt hm, List.getElem?_drop] using h m hm
    · rw [List.getElem?_take_eq_none (Nat.le_of_not_lt hm), List.getElem?_take_eq_none (Nat.le_of_not_lt hm)]

/-! ## Where blocks end -/

/-- The length of the longest common block that ends before place `i` of the first text and before place `j` of the
    second, and starts in neither before the ranges do. -/
def ending (a b : List UInt16) (aLo bLo : Nat) : Nat → Nat → Nat
  | i + 1, j + 1 => if aLo ≤ i ∧ bLo ≤ j ∧ a[i]? = b[j]? then ending a b aLo bLo i j + 1 else 0
  | _, _ => 0

theorem ending_left (a b : List UInt16) (aLo bLo j : Nat) : ending a b aLo bLo aLo j = 0 := by
  cases aLo with
  | zero => rfl
  | succ i =>
      cases j with
      | zero => rfl
      | succ j => exact if_neg fun h => Nat.not_succ_le_self i h.1

theorem ending_right (a b : List UInt16) (aLo bLo i : Nat) : ending a b aLo bLo i bLo = 0 := by
  cases bLo with
  | zero => cases i <;> rfl
  | succ j =>
      cases i with
      | zero => rfl
      | succ i => exact if_neg fun h => Nat.not_succ_le_self j h.2.1

theorem ending_succ (hi : aLo ≤ i) (hj : bLo ≤ j) :
    ending a b aLo bLo (i + 1) (j + 1) = if a[i]? = b[j]? then ending a b aLo bLo i j + 1 else 0 := by
  simp [ending, hi, hj]

theorem le_ending_iff {n : Nat} (hi : aLo ≤ i) (hj : bLo ≤ j) :
    n ≤ ending a b aLo bLo i j ↔ aLo + n ≤ i ∧ bLo + n ≤ j ∧ ∀ m < n, a[i - n + m]? = b[j - n + m]? := by
  induction i generalizing j n with
  | zero => cases n <;> simp [ending, hi, hj]
  | succ i ih =>
      cases n with
      | zero => simp [hi, hj]
      | succ n =>
          -- a block that ends here is one that ends a unit before, and the unit
          have hunits : ∀ j, n ≤ i → n ≤ j → ((∀ m < n + 1, a[i + 1 - (n + 1) + m]? = b[j + 1 - (n + 1) + m]?) ↔
              (∀ m < n, a[i - n + m]? = b[j - n + m]?) ∧ a[i]? = b[j]?) := fun j hni hnj => by
            rw [Nat.forall_lt_succ_right, Nat.add_sub_add_right, Nat.add_sub_add_right, Nat.sub_add_cancel hni,
              Nat.sub_add_cancel hnj]
          cases j with
          | zero => simp [ending]
          | succ j =>
              by_cases hlo : aLo ≤ i ∧ bLo ≤ j
              · rw [ending_succ hlo.1 hlo.2]
                by_cases hunit : a[i]? = b[j]?
                · rw [if_pos hunit, Nat.add_le_add_iff_right, ih hlo.1 hlo.2]
                  constructor
                  · rintro ⟨ha, hb, h⟩
                    exact ⟨by omega, by omega, (hunits j (by omega) (by omega)).2 ⟨h, hunit⟩⟩
                  · rintro ⟨ha, hb, h⟩
                    exact ⟨by omega, by omega, ((hunits j (by omega) (by omega)).1 h).1⟩
                · rw [if_neg hunit]
                  refine iff_of_false (by omega) fun h => hunit ?_
                  exact ((hunits j (by omega) (by omega)).1 h.2.2).2
              · rw [ending, if_neg fun h => hlo ⟨h.1, h.2.1⟩]
                omega

/-- Of the blocks that end at two places of the ranges, those are common that are short enough. -/
theorem commonIn_iff_of_ends (ha : aHi ≤ a.length) (hb : bHi ≤ b.length) (hi : aLo ≤ i) (hi' : i ≤ aHi) (hj : bLo ≤ j)
    (hj' : j ≤ bHi) (hleft : k.left + k.size = i) (hright : k.right + k.size = j) :
    CommonIn a b aLo aHi bLo bHi k ↔ k.size ≤ ending a b aLo bLo i j := by
  have hunits : (∀ m < k.size, a[i - k.size + m]? = b[j - k.size + m]?)
      ↔ (a.drop k.left).take k.size = (b.drop k.right).take k.size := by
    rw [take_drop_eq_iff, ← hleft, ← hright, Nat.add_sub_cancel, Nat.add_sub_cancel]
  rw [le_ending_iff hi hj, hunits]
  refine ⟨fun h => ⟨?_, ?_, h.units_eq⟩, fun h => ⟨⟨by omega, by omega, h.2.2⟩, ?_, ?_, ?_, ?_⟩⟩
  · have := h.left_ge
    omega
  · have := h.right_ge
    omega
  all_goals omega

/-! ## The best block so far -/

/-- Does a block end before place `e` of the first text, or there and by place `f` of the second? -/
def Block.EndsBy (k : Block) (e f : Nat) : Prop :=
  k.left + k.size < e ∨ k.left + k.size = e ∧ k.right + k.size ≤ f

/-- Of the common blocks of two ranges that end by `e` and `f`, the one that no other one exceeds and that starts
    first. -/
structure BestBy (a b : List UInt16) (aLo aHi bLo bHi e f : Nat) (best : Block) : Prop where
  common : CommonIn a b aLo aHi bLo bHi best
  ends : best.EndsBy e f
  longest : ∀ k, CommonIn a b aLo aHi bLo bHi k → k.EndsBy e f → k.size ≤ best.size
  earliest : ∀ k, CommonIn a b aLo aHi bLo bHi k → k.EndsBy e f → k.size = best.size → best.StartsBy k

namespace BestBy

/-- Before the scan only blocks of no units have ended. -/
theorem initial (ha : aLo ≤ aHi) (ha' : aHi ≤ a.length) (hb : bLo ≤ bHi) (hb' : bHi ≤ b.length) :
    BestBy a b aLo aHi bLo bHi aLo bHi ⟨aLo, bLo, 0⟩ where
  common := ⟨⟨Nat.le_trans ha ha', Nat.le_trans hb hb', by simp⟩, Nat.le_refl _, ha, Nat.le_refl _, hb⟩
  ends := .inr ⟨rfl, hb⟩
  longest k hk hends := by
    have hleft := hk.left_ge
    unfold Block.EndsBy at hends
    omega
  earliest k hk _ _ := by
    have hleft := hk.left_ge
    have hright := hk.right_ge
    unfold Block.StartsBy
    dsimp only
    omega

/-- At the start of the second range no further block ends. -/
theorem nextLine (h : BestBy a b aLo aHi bLo bHi e bHi best) : BestBy a b aLo aHi bLo bHi (e + 1) bLo best where
  common := h.common
  ends := by
    have hends := h.ends
    unfold Block.EndsBy at *
    omega
  longest k hk hends := by
    by_cases hsize : k.size = 0
    · omega
    · refine h.longest k hk ?_
      have hright := hk.right_ge
      have hright' := hk.right_end_le
      unfold Block.EndsBy at *
      omega
  earliest k hk hends hsize := by
    have hbest := h.ends
    by_cases hold : k.EndsBy e bHi
    · exact h.earliest k hk hold hsize
    · have hright := hk.right_ge
      have hright' := hk.right_end_le
      unfold Block.EndsBy Block.StartsBy at *
      omega

/-- One unit further in the second range the longest block that ends there comes in. -/
theorem next (ha : aHi ≤ a.length) (hb : bHi ≤ b.length) (hi : aLo ≤ i) (hi' : i < aHi) (hj : bLo ≤ j) (hj' : j < bHi)
    (h : BestBy a b aLo aHi bLo bHi (i + 1) j best) :
    BestBy a b aLo aHi bLo bHi (i + 1) (j + 1)
      (if best.size < ending a b aLo bLo (i + 1) (j + 1) then
        ⟨i + 1 - ending a b aLo bLo (i + 1) (j + 1), j + 1 - ending a b aLo bLo (i + 1) (j + 1),
          ending a b aLo bLo (i + 1) (j + 1)⟩ else best) := by
  obtain ⟨hleft, hright, -⟩ := (le_ending_iff (a := a) (b := b) (Nat.le_succ_of_le hi) (Nat.le_succ_of_le hj)).1
    (Nat.le_refl (ending a b aLo bLo (i + 1) (j + 1)))
  have hshort : ∀ k : Block, k.left + k.size = i + 1 → k.right + k.size = j + 1 →
      (CommonIn a b aLo aHi bLo bHi k ↔ k.size ≤ ending a b aLo bLo (i + 1) (j + 1)) := fun k =>
    commonIn_iff_of_ends ha hb (Nat.le_succ_of_le hi) hi' (Nat.le_succ_of_le hj) hj'
  -- what is new ends with the two units
  have hcases : ∀ k : Block, k.EndsBy (i + 1) (j + 1) →
      k.EndsBy (i + 1) j ∨ k.left + k.size = i + 1 ∧ k.right + k.size = j + 1 := fun k hends => by
    unfold Block.EndsBy at *
    omega
  generalize ending a b aLo bLo (i + 1) (j + 1) = n at *
  split
  · next hlt =>
      refine ⟨(hshort _ (by dsimp only; omega) (by dsimp only; omega)).2 (Nat.le_refl _),
        .inr ⟨by dsimp only; omega, by dsimp only; omega⟩, fun k hk hends => ?_, fun k hk hends hsize => ?_⟩
      · rcases hcases k hends with hold | ⟨hk₁, hk₂⟩
        · exact Nat.le_trans (h.longest k hk hold) (Nat.le_of_lt hlt)
        · exact (hshort k hk₁ hk₂).1 hk
      · rcases hcases k hends with hold | hends
        · exact absurd (h.longest k hk hold) (by dsimp only at hsize; omega)
        · dsimp only [Block.StartsBy] at *
          omega
  · next hle =>
      refine ⟨h.common, ?_, fun k hk hends => ?_, fun k hk hends hsize => ?_⟩
      · have hends := h.ends
        unfold Block.EndsBy at *
        omega
      · rcases hcases k hends with hold | ⟨hk₁, hk₂⟩
        · exact h.longest k hk hold
        · exact Nat.le_trans ((hshort k hk₁ hk₂).1 hk) (Nat.le_of_not_lt hle)
      · rcases hcases k hends with hold | hends
        · exact h.earliest k hk hold hsize
        · -- of the same size and ended before
          have hbest := h.ends
          unfold Block.EndsBy Block.StartsBy at *
          omega

/-- A block that is the best of all that have ended is the best of all once everything was read. -/
theorem earliestLongestIn (h : BestBy a b aLo aHi bLo bHi aHi bHi best) :
    EarliestLongestIn a b aLo aHi bLo bHi best := by
  have hends : ∀ k, CommonIn a b aLo aHi bLo bHi k → k.EndsBy aHi bHi := fun k hk => by
    have hleft := hk.left_end_le
    have hright := hk.right_end_le
    unfold Block.EndsBy
    omega
  exact ⟨h.common, fun k hk => h.longest k hk (hends k hk), fun k hk => h.earliest k hk (hends k hk)⟩

end BestBy

/-! ## The scan -/

/-- A row of the places before `i`, filled up to place `j` of the second text. -/
structure FilledTo (a b : List UInt16) (aLo bLo bHi i j : Nat) (row : List Nat) : Prop where
  length_eq : row.length = bHi - bLo + 1
  getD_eq : ∀ m, bLo ≤ m → m ≤ bHi → row.getD (m - bLo) 0 = if m ≤ j then ending a b aLo bLo i m else 0

theorem filledTo_emptyRow (a b : List UInt16) (aLo bLo bHi i : Nat) :
    FilledTo a b aLo bLo bHi i bLo (emptyRow bLo bHi) where
  length_eq := List.length_replicate
  getD_eq m hm hm' := by
    rw [emptyRow, List.getD_eq_getElem?_getD, List.getElem?_replicate, if_pos (by omega), Option.getD_some]
    split
    · next hle =>
        obtain rfl : m = bLo := by omega
        exact (ending_right a b aLo m i).symm
    · rfl

theorem filledTo_first (a b : List UInt16) (aLo bLo bHi : Nat) :
    FilledTo a b aLo bLo bHi aLo bHi (emptyRow bLo bHi) where
  length_eq := List.length_replicate
  getD_eq m hm hm' := by
    rw [emptyRow, List.getD_eq_getElem?_getD, List.getElem?_replicate, if_pos (by omega), Option.getD_some,
      if_pos hm', ending_left]

/-- What holds before a run through a range and is kept by every step holds after it. -/
theorem foldl_range'_of_step {β : Type} {P : Nat → β → Prop} {f : β → Nat → β} {lo hi : Nat} {x : β} (h : lo ≤ hi)
    (hlo : P lo x) (hstep : ∀ i x, lo ≤ i → i < hi → P i x → P (i + 1) (f x i)) :
    P hi ((List.range' lo (hi - lo)).foldl f x) := by
  obtain ⟨n, rfl⟩ := Nat.exists_eq_add_of_le h
  rw [Nat.add_sub_cancel_left]
  clear h
  induction n generalizing lo x with
  | zero => exact hlo
  | succ n ih =>
      rw [List.range'_succ, List.foldl_cons, ← Nat.add_assoc, Nat.add_right_comm]
      exact ih (hstep lo x (Nat.le_refl _) (by omega) hlo) fun i x hi hi' => hstep i x (by omega) (by omega)

/-- What the scan holds in the midst of a row. -/
def RowState (a b : List UInt16) (aLo aHi bLo bHi i j : Nat) (state : List Nat × Block) : Prop :=
  FilledTo a b aLo bLo bHi i j state.1 ∧ BestBy a b aLo aHi bLo bHi i j state.2

theorem RowState.compareUnits {previous : List Nat} {state : List Nat × Block} (ha : aHi ≤ a.length)
    (hb : bHi ≤ b.length) (hi : aLo ≤ i) (hi' : i < aHi) (hprevious : FilledTo a b aLo bLo bHi i bHi previous)
    (hj : bLo ≤ j) (hj' : j < bHi) (h : RowState a b aLo aHi bLo bHi (i + 1) j state) :
    RowState a b aLo aHi bLo bHi (i + 1) (j + 1) (compareUnits a b bLo i previous state j) := by
  obtain ⟨hrow, hbest⟩ := h
  have hlength := hrow.length_eq
  have hnext := hbest.next ha hb hi hi' hj hj'
  have hbefore : previous.getD (j - bLo) 0 = ending a b aLo bLo i j := by
    rw [hprevious.getD_eq j hj (Nat.le_of_lt hj'), if_pos (Nat.le_of_lt hj')]
  have hending := ending_succ (a := a) (b := b) hi hj
  by_cases hunit : a[i]? = b[j]?
  · rw [if_pos hunit] at hending
    rw [Similarity.compareUnits, if_pos hunit, hbefore, ← hending]
    refine ⟨⟨by rw [List.length_set, hlength], fun m hm hm' => ?_⟩, hnext⟩
    by_cases hplace : m = j + 1
    · subst hplace
      rw [if_pos (Nat.le_refl _), Nat.sub_add_comm hj, List.getD_eq_getElem?_getD,
        List.getElem?_set_self (by omega), Option.getD_some]
    · rw [List.getD_eq_getElem?_getD, List.getElem?_set_ne (by omega), ← List.getD_eq_getElem?_getD,
        hrow.getD_eq m hm hm']
      simp only [show m ≤ j + 1 ↔ m ≤ j by omega]
  · rw [if_neg hunit] at hending
    rw [hending, if_neg (Nat.not_lt_zero _)] at hnext
    rw [Similarity.compareUnits, if_neg hunit]
    refine ⟨⟨hlength, fun m hm hm' => ?_⟩, hnext⟩
    rw [hrow.getD_eq m hm hm']
    by_cases hplace : m = j + 1
    · subst hplace
      rw [if_neg (by omega), if_pos (Nat.le_refl _), hending]
    · simp only [show m ≤ j + 1 ↔ m ≤ j by omega]

theorem RowState.scanRow {state : List Nat × Block} (ha : aHi ≤ a.length) (hb : bLo ≤ bHi) (hb' : bHi ≤ b.length)
    (hi : aLo ≤ i) (hi' : i < aHi) (h : RowState a b aLo aHi bLo bHi i bHi state) :
    RowState a b aLo aHi bLo bHi (i + 1) bHi (scanRow a b bLo bHi state i) :=
  foldl_range'_of_step (P := RowState a b aLo aHi bLo bHi (i + 1)) hb
    ⟨filledTo_emptyRow a b aLo bLo bHi (i + 1), h.2.nextLine⟩
    fun _ _ hj hj' => RowState.compareUnits ha hb' hi hi' h.1 hj hj'

/-- **The longest block of two ranges is the earliest of their longest common blocks.** -/
theorem earliestLongestIn_longestBlock (ha : aLo ≤ aHi) (ha' : aHi ≤ a.length) (hb : bLo ≤ bHi) (hb' : bHi ≤ b.length) :
    EarliestLongestIn a b aLo aHi bLo bHi (longestBlock a b aLo aHi bLo bHi) :=
  have hend := foldl_range'_of_step (P := fun i => RowState a b aLo aHi bLo bHi i bHi) ha
    ⟨filledTo_first a b aLo bLo bHi, BestBy.initial ha ha' hb hb'⟩
    fun _ _ hi hi' => RowState.scanRow ha' hb hb' hi hi'
  hend.2.earliestLongestIn

end CodeAtlas.Similarity
