import CodeAtlas.Graph.Index
import CodeAtlas.Proofs.Graph.Valid
import Mathlib.Data.List.Chain
import Mathlib.Data.List.Perm.Subperm
import Mathlib.Data.Nat.Find

set_option autoImplicit false

/-! # Shortest chains

The search for a chain goes round by round. `Graph.Walk` says what it searches for: the ids reached from a
start along a number of relationships, and `Graph.Distance` is the least such number. Before round `k` the
search has visited what is at a distance below `k + 1` and is about to expand what is at distance `k`; every
visited id but the start remembers a predecessor one hop nearer (`SearchTree`). Within a round the ids at
distance `k + 1` are added one by one (`Round`).

`GraphIndex.shortestPath_spec` says what comes out: a chain exactly if there is one of at most so many hops, and
then one with the least number of hops. -/

namespace CodeAtlas.Graph

/-! ## Walks -/

/-- Is there a relationship from `a` to `b`? -/
def Leads (g : Graph) (a b : String) : Prop := ∃ r ∈ g.relationships, r.source = a ∧ r.target = b

/-- `id` is reached from `start` along `n` relationships. -/
inductive Walk (g : Graph) (start : String) : Nat → String → Prop
  | here : Walk g start 0 start
  | step {n : Nat} {a b : String} (h : Walk g start n a) (hab : Leads g a b) : Walk g start (n + 1) b

/-- The least number of relationships that lead from `start` to `id`. -/
structure Distance (g : Graph) (start : String) (n : Nat) (id : String) : Prop where
  walk : Walk g start n id
  least : ∀ m, Walk g start m id → n ≤ m

variable {g : Graph} {start : String}

theorem Walk.exists_distance {n : Nat} {id : String} (h : Walk g start n id) :
    ∃ m ≤ n, Distance g start m id := by
  classical
  have hex : ∃ m, Walk g start m id := ⟨n, h⟩
  exact ⟨Nat.find hex, Nat.find_min' hex h, Nat.find_spec hex, fun m hm => Nat.find_min' hex hm⟩

theorem Distance.unique {m n : Nat} {id : String} (hm : Distance g start m id) (hn : Distance g start n id) :
    m = n :=
  Nat.le_antisymm (hm.least n hn.walk) (hn.least m hm.walk)

theorem Distance.zero : Distance g start 0 start := ⟨.here, fun _ _ => Nat.zero_le _⟩

theorem Distance.eq_start {id : String} (h : Distance g start 0 id) : id = start := by
  cases h.walk
  rfl

/-- On the way to an id at distance `n + 1` the last id before it is at distance `n`. -/
theorem Distance.pred {n : Nat} {id : String} (h : Distance g start (n + 1) id) :
    ∃ a, Distance g start n a ∧ Leads g a id := by
  cases h.walk with
  | step hwalk hab =>
      refine ⟨_, ⟨hwalk, fun m hm => ?_⟩, hab⟩
      have := h.least (m + 1) (.step hm hab)
      omega

/-- Every smaller distance is met on the way. -/
theorem Distance.exists_of_le {n : Nat} : ∀ {id : String}, Distance g start n id → ∀ m ≤ n,
    ∃ a, Distance g start m a := by
  induction n with
  | zero => intro id h m hm; exact ⟨id, by rwa [Nat.le_zero.1 hm]⟩
  | succ n ih =>
      intro id h m hm
      rcases Nat.lt_or_ge n m with hlt | hle
      · exact ⟨id, by rwa [show m = n + 1 by omega]⟩
      · obtain ⟨a, ha, -⟩ := h.pred
        exact ih ha m hle

end CodeAtlas.Graph

namespace CodeAtlas.GraphIndex

open CodeAtlas.Graph

variable {g : Graph} {start goal : String}

/-! ## What a search remembers -/

/-- Every visited id has a distance, and every one but the start a predecessor one hop nearer. -/
structure SearchTree (g : Graph) (start : String) (f : Frontier) : Prop where
  keys_nodup : f.previous.keys.Nodup
  start_visited : start ∈ f.visited
  has_previous : ∀ id ∈ f.visited, id ≠ start → ∃ p, f.previous.get? id = some p
  of_previous : ∀ id p, f.previous.get? id = some p →
    ∃ n, Distance g start n p ∧ Distance g start (n + 1) id ∧ Leads g p id ∧ p ∈ f.visited

namespace SearchTree

variable {f : Frontier}

/-- A start with nothing visited but itself. -/
theorem initial : SearchTree g start ⟨[start], .empty, [start]⟩ where
  keys_nodup := List.nodup_nil
  start_visited := List.mem_singleton.2 rfl
  has_previous id hid hne := absurd (List.mem_singleton.1 hid) hne
  of_previous id p hp := absurd hp (by simp)

/-- The start has no predecessor. -/
theorem previous_start (h : SearchTree g start f) : f.previous.get? start = none := by
  cases hp : f.previous.get? start with
  | none => rfl
  | some p =>
      obtain ⟨n, -, hn, -, -⟩ := h.of_previous start p hp
      exact absurd (hn.least 0 .here) (by omega)

/-- One more id, reached from a visited one, whatever comes next. -/
theorem visit (h : SearchTree g start f) {n : Nat} {a b : String} (next : List String)
    (ha : Distance g start n a) (hvisited : a ∈ f.visited) (hb : Distance g start (n + 1) b)
    (hab : Leads g a b) :
    SearchTree g start ⟨b :: f.visited, f.previous.insert b a, next⟩ where
  keys_nodup := Dict.nodup_keys_insert h.keys_nodup b a
  start_visited := List.mem_cons_of_mem _ h.start_visited
  has_previous id hid hne := by
    rw [Dict.get?_insert]
    by_cases hb : id = b
    · exact ⟨a, if_pos hb⟩
    · rw [if_neg hb]
      exact h.has_previous id ((List.mem_cons.1 hid).resolve_left hb) hne
  of_previous id p hp := by
    rw [Dict.get?_insert] at hp
    split at hp
    · next hid =>
        cases hp
        exact ⟨n, ha, hid ▸ hb, hid ▸ hab, List.mem_cons_of_mem _ hvisited⟩
    · obtain ⟨m, hm, hm', hlead, hmem⟩ := h.of_previous id p hp
      exact ⟨m, hm, hm', hlead, List.mem_cons_of_mem _ hmem⟩

/-- The way back has as many different keys as the id is hops away. -/
theorem exists_keys (h : SearchTree g start f) : ∀ (n : Nat) (id : String), Distance g start n id →
    id ∈ f.visited → ∃ l : List String, l.length = n ∧ l.Nodup ∧
      ∀ x ∈ l, x ∈ f.previous.keys ∧ ∃ m ≤ n, Distance g start m x := by
  intro n
  induction n with
  | zero => intro id _ _; exact ⟨[], rfl, List.nodup_nil, by simp⟩
  | succ n ih =>
      intro id hn hid
      have hne : id ≠ start := by
        rintro rfl
        exact absurd (hn.least 0 .here) (by omega)
      obtain ⟨p, hp⟩ := h.has_previous id hid hne
      obtain ⟨m, hm, hm', -, hpmem⟩ := h.of_previous id p hp
      obtain rfl : m = n := by have := hm'.unique hn; omega
      obtain ⟨l, hlen, hnodup, hl⟩ := ih p hm hpmem
      refine ⟨id :: l, by simp [hlen], List.nodup_cons.2 ⟨fun hmem => ?_, hnodup⟩, ?_⟩
      · obtain ⟨-, k, hk, hkid⟩ := hl id hmem
        have := hkid.unique hn
        omega
      · intro x hx
        rcases List.mem_cons.1 hx with rfl | hx
        · refine ⟨?_, m + 1, Nat.le_refl _, hn⟩
          rw [← Dict.contains_iff_mem_keys, Dict.contains_eq_isSome_get?, hp]
          rfl
        · obtain ⟨hkey, k, hk, hkx⟩ := hl x hx
          exact ⟨hkey, k, by omega, hkx⟩

/-- A distance is at most the number of remembered predecessors. -/
theorem distance_le_size (h : SearchTree g start f) {n : Nat} {id : String} (hn : Distance g start n id)
    (hid : id ∈ f.visited) : n ≤ f.previous.size := by
  obtain ⟨l, hlen, hnodup, hl⟩ := h.exists_keys n id hn hid
  have hle := (List.subperm_of_subset hnodup fun x hx => (hl x hx).1).length_le
  rw [Dict.keys, List.length_map, hlen] at hle
  exact hle

end SearchTree

/-! ## The way back -/

/-- A chain of `n` hops from `start` to `id`, each along a relationship. -/
structure ChainTo (g : Graph) (start : String) (n : Nat) (id : String) (chain : List String) : Prop where
  length_eq : chain.length = n + 1
  head_eq : chain.head? = some start
  last_eq : chain.getLast? = some id
  leads : chain.IsChain (Leads g)

/-- A chain of no hops. -/
theorem ChainTo.here : ChainTo g start 0 start [start] := ⟨rfl, rfl, rfl, .singleton start⟩

/-- One more hop. -/
theorem ChainTo.snoc {n : Nat} {a b : String} {chain : List String} (h : ChainTo g start n a chain)
    (hab : Leads g a b) : ChainTo g start (n + 1) b (chain ++ [b]) where
  length_eq := by simp [h.length_eq]
  head_eq := by rw [List.head?_append, h.head_eq]; rfl
  last_eq := by simp
  leads := by
    refine List.isChain_append.2 ⟨h.leads, .singleton b, fun x hx y hy => ?_⟩
    rw [h.last_eq] at hx
    cases hx
    cases hy
    exact hab

/-- Following the predecessors back gives a chain of as many hops as the id is away. -/
theorem trace_spec {f : Frontier} (h : SearchTree g start f) : ∀ (n fuel : Nat) (id : String) (tail : List String),
    n ≤ fuel → Distance g start n id → id ∈ f.visited →
    ∃ chain, trace f.previous fuel id tail = chain ++ tail ∧ ChainTo g start n id chain := by
  intro n
  induction n with
  | zero =>
      intro fuel id tail _ hid _
      obtain rfl := hid.eq_start
      refine ⟨[id], ?_, .here⟩
      cases fuel with
      | zero => rfl
      | succ fuel => rw [trace, h.previous_start]; rfl
  | succ n ih =>
      intro fuel id tail hfuel hid hvisited
      obtain ⟨fuel, rfl⟩ : ∃ k, fuel = k + 1 := ⟨fuel - 1, by omega⟩
      have hne : id ≠ start := by
        rintro rfl
        exact absurd (hid.least 0 .here) (by omega)
      obtain ⟨p, hp⟩ := h.has_previous id hvisited hne
      obtain ⟨m, hm, hm', hlead, hpmem⟩ := h.of_previous id p hp
      obtain rfl : m = n := by have := hm'.unique hid; omega
      obtain ⟨chain, heq, hchain⟩ := ih fuel p (id :: tail) (by omega) hm hpmem
      refine ⟨chain ++ [id], ?_, hchain.snoc hlead⟩
      rw [trace, hp]
      simp [heq]

/-! ## One round -/

/-- Before a round: what is at a distance up to `k` was visited, what is at distance `k` comes next. -/
structure Searched (g : Graph) (start goal : String) (k : Nat) (f : Frontier) : Prop where
  tree : SearchTree g start f
  visited_iff : ∀ id, id ∈ f.visited ↔ ∃ n ≤ k, Distance g start n id
  next_iff : ∀ id, id ∈ f.next ↔ Distance g start k id
  goal_ahead : goal ∉ f.visited

/-- Within a round: of what is at distance `k + 1`, the visited part comes next. -/
structure Round (g : Graph) (start goal : String) (k : Nat) (f : Frontier) : Prop where
  tree : SearchTree g start f
  near_visited : ∀ id n, n ≤ k → Distance g start n id → id ∈ f.visited
  visited_near : ∀ id ∈ f.visited, ∃ n ≤ k + 1, Distance g start n id
  next_iff : ∀ id, id ∈ f.next ↔ id ∈ f.visited ∧ Distance g start (k + 1) id
  goal_ahead : goal ∉ f.visited

/-- What a search may find in a round: the goal, one hop beyond the distance `k`. -/
structure Found (g : Graph) (start goal : String) (k : Nat) (f : Frontier) : Prop where
  tree : SearchTree g start f
  goal_visited : goal ∈ f.visited
  distance : Distance g start (k + 1) goal

/-- A round starts with nothing that comes next. -/
theorem Searched.round {k : Nat} {f : Frontier} (h : Searched g start goal k f) :
    Round g start goal k { f with next := [] } where
  tree := ⟨h.tree.keys_nodup, h.tree.start_visited, h.tree.has_previous, h.tree.of_previous⟩
  near_visited id n hn hid := (h.visited_iff id).2 ⟨n, hn, hid⟩
  visited_near id hid := by
    obtain ⟨n, hn, hd⟩ := (h.visited_iff id).1 hid
    exact ⟨n, by omega, hd⟩
  next_iff id := by
    refine ⟨fun hid => absurd hid (by simp), fun ⟨hid, hd⟩ => ?_⟩
    obtain ⟨n, hn, hdn⟩ := (h.visited_iff id).1 hid
    have := hdn.unique hd
    omega
  goal_ahead := h.goal_ahead

/-- Within a round an id not visited yet, one relationship beyond the distance `k`, is at distance `k + 1`. -/
theorem Round.distance {k : Nat} {f : Frontier} (h : Round g start goal k f) {a b : String}
    (ha : Distance g start k a) (hab : Leads g a b) (hb : b ∉ f.visited) : Distance g start (k + 1) b := by
  refine ⟨.step ha.walk hab, fun m hm => ?_⟩
  by_contra hlt
  obtain ⟨n, hn, hd⟩ := hm.exists_distance
  exact hb (h.near_visited b n (by omega) hd)

/-- Another id but the goal is visited and comes next. -/
theorem Round.visit {k : Nat} {f : Frontier} (h : Round g start goal k f) {a b : String}
    (ha : Distance g start k a) (hab : Leads g a b) (hb : b ∉ f.visited) (hgoal : b ≠ goal) :
    Round g start goal k ⟨b :: f.visited, f.previous.insert b a, f.next ++ [b]⟩ where
  tree := h.tree.visit _ ha (h.near_visited a k (Nat.le_refl _) ha) (h.distance ha hab hb) hab
  near_visited x n hn hx := List.mem_cons_of_mem _ (h.near_visited x n hn hx)
  visited_near x hx := by
    rcases List.mem_cons.1 hx with rfl | hx
    · exact ⟨k + 1, Nat.le_refl _, h.distance ha hab hb⟩
    · exact h.visited_near x hx
  next_iff x := by
    rw [List.mem_append, h.next_iff, List.mem_singleton, List.mem_cons, or_and_right]
    constructor
    · rintro (hx | rfl)
      · exact .inr hx
      · exact .inl ⟨rfl, h.distance ha hab hb⟩
    · rintro (⟨rfl, -⟩ | hx)
      · exact .inr rfl
      · exact .inl hx
  goal_ahead hmem := by
    rcases List.mem_cons.1 hmem with heq | hmem
    · exact hgoal heq.symm
    · exact h.goal_ahead hmem

/-- Expanding an id at distance `k` visits what its relationships lead to, up to the goal. -/
theorem expand_spec {k : Nat} {id : String} (hid : Distance g start k id) (rs : List Relationship) :
    ∀ {f : Frontier}, Round g start goal k f → (∀ r ∈ rs, Leads g id r.target) →
      (∃ f', expand goal id rs f = (true, f') ∧ Found g start goal k f') ∨
      (∃ f', expand goal id rs f = (false, f') ∧ Round g start goal k f' ∧
        (∀ x ∈ f.visited, x ∈ f'.visited) ∧ ∀ r ∈ rs, r.target ∈ f'.visited) := by
  induction rs with
  | nil =>
      intro f h _
      exact .inr ⟨f, rfl, h, fun x hx => hx, by simp⟩
  | cons r rest ih =>
      intro f h hleads
      have hlead := hleads r (List.mem_cons_self ..)
      have hrest : ∀ r' ∈ rest, Leads g id r'.target := fun r' hr' => hleads r' (List.mem_cons_of_mem _ hr')
      by_cases hseen : r.target ∈ f.visited
      · rw [expand, if_pos hseen]
        rcases ih h hrest with ⟨f', heq, hfound⟩ | ⟨f', heq, hround, hkeep, htargets⟩
        · exact .inl ⟨f', heq, hfound⟩
        · exact .inr ⟨f', heq, hround, hkeep, List.forall_mem_cons.2 ⟨hkeep _ hseen, htargets⟩⟩
      · rw [expand, if_neg hseen]
        by_cases hgoal : r.target = goal
        · -- the rest is not looked at
          have hdist := h.distance hid hlead hseen
          have htree := h.tree.visit f.next hid (h.near_visited id k (Nat.le_refl _) hid) hdist hlead
          simp only [hgoal, if_true] at htree ⊢
          exact .inl ⟨_, rfl, htree, List.mem_cons_self .., hgoal ▸ hdist⟩
        · simp only [hgoal, if_false]
          rcases ih (h.visit hid hlead hseen hgoal) hrest with
            ⟨f', heq, hfound⟩ | ⟨f', heq, hround, hkeep, htargets⟩
          · exact .inl ⟨f', heq, hfound⟩
          · have htarget : r.target ∈ f'.visited := hkeep _ (List.mem_cons_self ..)
            exact .inr ⟨f', heq, hround, fun x hx => hkeep x (List.mem_cons_of_mem _ hx),
              List.forall_mem_cons.2 ⟨htarget, htargets⟩⟩

/-- Expanding ids at distance `k` one after another visits all they lead to, up to the goal. -/
theorem expandAll_spec (hg : Valid g) {k : Nat} (ids : List String) :
    ∀ {f : Frontier}, Round g start goal k f → (∀ id ∈ ids, Distance g start k id) →
      (∃ f', expandAll g goal ids f = (true, f') ∧ Found g start goal k f') ∨
      (∃ f', expandAll g goal ids f = (false, f') ∧ Round g start goal k f' ∧
        (∀ x ∈ f.visited, x ∈ f'.visited) ∧ ∀ id ∈ ids, ∀ x, Leads g id x → x ∈ f'.visited) := by
  induction ids with
  | nil =>
      intro f h _
      exact .inr ⟨f, rfl, h, fun x hx => hx, by simp⟩
  | cons id rest ih =>
      intro f h hids
      have hout : ∀ r, r ∈ g.outgoing id ↔ r ∈ g.relationships ∧ r.source = id := fun r => by
        simp [hg.outgoing_eq]
      have hleads : ∀ r ∈ g.outgoing id, Leads g id r.target := fun r hr =>
        ⟨r, ((hout r).1 hr).1, ((hout r).1 hr).2, rfl⟩
      rcases expand_spec (hids id (List.mem_cons_self ..)) (g.outgoing id) h hleads with
        ⟨f₁, heq, hfound⟩ | ⟨f₁, heq, hround, hkeep, htargets⟩
      · exact .inl ⟨f₁, by rw [expandAll, heq], hfound⟩
      · have hids' : ∀ id' ∈ rest, Distance g start k id' := fun id' hid' => hids id' (List.mem_cons_of_mem _ hid')
        rw [expandAll, heq]
        rcases ih hround hids' with ⟨f₂, heq₂, hfound⟩ | ⟨f₂, heq₂, hround₂, hkeep₂, htargets₂⟩
        · exact .inl ⟨f₂, heq₂, hfound⟩
        · refine .inr ⟨f₂, heq₂, hround₂, fun x hx => hkeep₂ x (hkeep x hx), fun id' hid' x hx => ?_⟩
          rcases List.mem_cons.1 hid' with rfl | hid'
          · obtain ⟨r, hr, hs, rfl⟩ := hx
            exact hkeep₂ _ (htargets r ((hout r).2 ⟨hr, hs⟩))
          · exact htargets₂ id' hid' x hx

/-- A round that does not meet the goal gets the search one hop further. -/
theorem Round.searched {k : Nat} {f : Frontier} (h : Round g start goal k f)
    (hall : ∀ id, Distance g start k id → ∀ x, Leads g id x → x ∈ f.visited) :
    Searched g start goal (k + 1) f := by
  have hvisited : ∀ id, Distance g start (k + 1) id → id ∈ f.visited := fun id hid => by
    obtain ⟨a, ha, hlead⟩ := hid.pred
    exact hall a ha id hlead
  refine ⟨h.tree, fun id => ⟨h.visited_near id, fun ⟨n, hn, hid⟩ => ?_⟩, fun id => ?_, h.goal_ahead⟩
  · rcases Nat.lt_or_ge k n with hlt | hle
    · obtain rfl : n = k + 1 := by omega
      exact hvisited id hid
    · exact h.near_visited id n hle hid
  · rw [h.next_iff]
    exact ⟨And.right, fun hid => ⟨hvisited id hid, hid⟩⟩

/-! ## The search -/

/-- The search of at most `hops` more rounds finds a chain exactly if the goal is that near, and then one of
    as many hops as the goal is away. -/
theorem searchPath_spec (hg : Valid g) (hops : Nat) : ∀ (k : Nat) (f : Frontier),
    Searched g start goal k f →
      (searchPath g goal hops f = none ∧ ∀ n ≤ k + hops, ¬ Distance g start n goal) ∨
      (∃ chain n, searchPath g goal hops f = some chain ∧ n ≤ k + hops ∧ Distance g start n goal ∧
        ChainTo g start n goal chain) := by
  induction hops with
  | zero =>
      intro k f h
      exact .inl ⟨rfl, fun n hn hd => h.goal_ahead ((h.visited_iff goal).2 ⟨n, by omega, hd⟩)⟩
  | succ hops ih =>
      intro k f h
      cases hnext : f.next with
      | nil =>
          -- with nothing at distance `k` there is nothing further away either
          refine .inl ⟨by rw [searchPath, hnext], fun n hn hd => ?_⟩
          rcases Nat.lt_or_ge k n with hlt | hle
          · obtain ⟨a, ha⟩ := hd.exists_of_le k (by omega)
            have hmem := (h.next_iff a).2 ha
            rw [hnext] at hmem
            exact absurd hmem (by simp)
          · exact h.goal_ahead ((h.visited_iff goal).2 ⟨n, hle, hd⟩)
      | cons first rest =>
          have hround : ∀ id ∈ first :: rest, Distance g start k id := fun id hid =>
            (h.next_iff id).1 (by rwa [hnext])
          rcases expandAll_spec hg (first :: rest) h.round hround with
            ⟨f', heq, hfound⟩ | ⟨f', heq, hround', -, hall⟩
          · obtain ⟨chain, htrace, hchain⟩ := trace_spec hfound.tree (k + 1) f'.previous.size goal []
              (hfound.tree.distance_le_size hfound.distance hfound.goal_visited) hfound.distance
              hfound.goal_visited
            refine .inr ⟨chain, k + 1, ?_, by omega, hfound.distance, hchain⟩
            rw [searchPath, hnext]
            simp [heq, htrace]
          · have hsearched := hround'.searched fun id hid x hx =>
              hall id (by rw [← hnext]; exact (h.next_iff id).2 hid) x hx
            have hstep : searchPath g goal (hops + 1) f = searchPath g goal hops f' := by
              rw [searchPath, hnext]
              simp [heq]
            rw [hstep, show k + (hops + 1) = k + 1 + hops by omega]
            exact ih (k + 1) f' hsearched

/-- The search for a chain gives none exactly if an end is unknown or no chain of at most `maxLength` hops
    leads from the one to the other; otherwise it gives one with the least number of hops. -/
theorem shortestPath_spec {ix : GraphIndex} (hg : Valid ix.graph) (start goal : String) (maxLength : Nat) :
    (ix.shortestPath start goal maxLength = none ∧
      ∀ n ≤ maxLength, Distance ix.graph start n goal →
        ¬ (ix.graph.hasEntity start = true ∧ ix.graph.hasEntity goal = true)) ∨
    (∃ chain n, ix.shortestPath start goal maxLength = some chain ∧
      ix.graph.hasEntity start = true ∧ ix.graph.hasEntity goal = true ∧ n ≤ maxLength ∧
      Distance ix.graph start n goal ∧ ChainTo ix.graph start n goal chain) := by
  unfold shortestPath
  cases hs : ix.graph.hasEntity start with
  | false => exact .inl ⟨by simp, by simp⟩
  | true =>
      cases ht : ix.graph.hasEntity goal with
      | false => exact .inl ⟨by simp, by simp⟩
      | true =>
          by_cases hsame : start = goal
          · subst hsame
            exact .inr ⟨[start], 0, by simp, rfl, rfl, Nat.zero_le _, Distance.zero, .here⟩
          · have hstart : Searched ix.graph start goal 0 ⟨[start], .empty, [start]⟩ := by
              refine ⟨.initial, fun id => ?_, fun id => ?_, fun h => hsame (List.mem_singleton.1 h).symm⟩
              · rw [List.mem_singleton]
                constructor
                · rintro rfl
                  exact ⟨0, Nat.le_refl _, Distance.zero⟩
                · rintro ⟨n, hn, hd⟩
                  obtain rfl := Nat.le_zero.1 hn
                  exact hd.eq_start
              · rw [List.mem_singleton]
                exact ⟨fun h => h ▸ Distance.zero, Distance.eq_start⟩
            rcases searchPath_spec hg maxLength 0 _ hstart with ⟨hnone, hfar⟩ | ⟨chain, n, hsome, hn, hd, hc⟩
            · refine .inl ⟨by simpa [hsame] using hnone, fun n hn hd => ?_⟩
              exact absurd hd (hfar n (by omega))
            · exact .inr ⟨chain, n, by simpa [hsame] using hsome, rfl, rfl, by omega, hd, hc⟩

end CodeAtlas.GraphIndex
