import JavaCallGraph.CallGraph.Digraph
import JavaCallGraph.Proofs.CallGraph
import JavaCallGraph.Proofs.Distinct
import Mathlib.Data.List.Permutation

/-!
# Distances between methods

The callees of a method at any depth are found level by level. After `n` levels the frontier holds the
methods whose shortest chain of calls has `n` links, and what was not seen yet has longer chains only
(`Searching`). So every level lists the methods at one distance, in order, and a deeper search goes on
where a shallower one stops.

* `CallGraph.Chain`, `CallGraph.Distance` — chains of calls and their lengths.
* `CallGraph.mem_nodes_toDigraph`, `CallGraph.mem_edges_toDigraph` — the directed graph of a call graph.
* `CallGraph.Searching.step` — what one level keeps.
* `CallGraph.Searching.mem_reach`, `CallGraph.Searching.pairwise_reach` — what all levels find.
* `CallGraph.transitive_callees_by_distance` — callees at any depth.
-/

namespace JavaCallGraph

namespace CallGraph

variable {g : CallGraph}

/-! ## Chains of calls -/

/-- A chain of `n` calls leads from `a` to `b`. -/
inductive Chain (g : CallGraph) : (n : Nat) → (a b : String) → Prop where
  | here (a : String) : Chain g 0 a a
  | call {n : Nat} {a b c : String} (h_first : Chain g n a b) (h_last : g.Calls b c) :
      Chain g (n + 1) a c

/-- The shortest chain of calls from `a` to `b` has `n` links. -/
def Distance (g : CallGraph) (a b : String) (n : Nat) : Prop :=
  g.Chain n a b ∧ ∀ m, g.Chain m a b → n ≤ m

theorem Distance.unique {a b : String} {n m : Nat} (h : g.Distance a b n) (h' : g.Distance a b m) :
    n = m :=
  Nat.le_antisymm (h.2 m h'.1) (h'.2 n h.1)

theorem chain_zero_iff {a b : String} : g.Chain 0 a b ↔ a = b := by
  constructor
  · rintro ⟨⟩
    rfl
  · rintro rfl
    exact .here a

theorem distance_zero_iff {a b : String} : g.Distance a b 0 ↔ a = b := by
  rw [Distance, chain_zero_iff]
  simp

/-- A method is one call farther than another if that one calls it and no chain is as short. -/
theorem distance_succ_iff {a c : String} {n : Nat} :
    g.Distance a c (n + 1) ↔
      (∀ m, g.Chain m a c → n < m) ∧ ∃ b, g.Distance a b n ∧ g.Calls b c := by
  constructor
  · rintro ⟨h_chain, h_least⟩
    refine ⟨h_least, ?_⟩
    cases h_chain with
    | @call _ _ b _ h_first h_last =>
      -- a shorter chain to the caller would be a shorter one to `c`
      refine ⟨b, ⟨h_first, fun m h_other => ?_⟩, h_last⟩
      exact Nat.le_of_succ_le_succ (h_least _ (.call h_other h_last))
  · rintro ⟨h_least, b, h_b, h_last⟩
    exact ⟨.call h_b.1 h_last, h_least⟩

/-! ## The directed graph -/

/-- The signature is that of a caller or of a callee. -/
def Occurs (g : CallGraph) (signature : String) : Prop :=
  g.contains signature = true ∨ ∃ caller, g.Calls caller signature

theorem Calls.occurs {a b : String} (h : g.Calls a b) : g.Occurs b := .inr ⟨a, h⟩

theorem mem_calls {a b : String} : (a, b) ∈ g.calls ↔ g.Calls a b := by
  rw [calls, List.mem_flatMap]
  constructor
  · rintro ⟨⟨caller, callees⟩, h_entry, h_mem⟩
    obtain ⟨callee, h_callee, h_pair⟩ := List.mem_map.1 h_mem
    cases h_pair
    exact ⟨callees, KeyMap.mem_toList_iff.1 h_entry, h_callee⟩
  · rintro ⟨callees, h_entry, h_callee⟩
    exact ⟨(a, callees), KeyMap.mem_toList_iff.2 h_entry, List.mem_map.2 ⟨b, h_callee, rfl⟩⟩

theorem mem_occurrences {signature : String} : signature ∈ g.occurrences ↔ g.Occurs signature := by
  rw [occurrences, List.mem_flatMap]
  constructor
  · rintro ⟨⟨caller, callees⟩, h_entry, h_mem⟩
    have h_callees : g.callees? caller = some callees := KeyMap.mem_toList_iff.1 h_entry
    rcases List.mem_cons.1 h_mem with rfl | h_callee
    · exact .inl (contains_iff.2 ⟨callees, h_callees⟩)
    · exact .inr ⟨caller, callees, h_callees, h_callee⟩
  · rintro (h_caller | ⟨caller, callees, h_callees, h_callee⟩)
    · obtain ⟨callees, h_callees⟩ := contains_iff.1 h_caller
      exact ⟨(signature, callees), KeyMap.mem_toList_iff.2 h_callees, List.mem_cons_self⟩
    · exact ⟨(caller, callees), KeyMap.mem_toList_iff.2 h_callees, List.mem_cons_of_mem _ h_callee⟩

theorem mem_nodes_toDigraph {signature : String} :
    signature ∈ g.toDigraph.nodes ↔ g.Occurs signature :=
  List.mem_eraseDups.trans mem_occurrences

theorem mem_edges_toDigraph {a b : String} : (a, b) ∈ g.toDigraph.edges ↔ g.Calls a b :=
  List.mem_eraseDups.trans mem_calls

theorem nodup_nodes_toDigraph (g : CallGraph) : g.toDigraph.nodes.Nodup :=
  pairwise_eraseDupsBy (f := id) g.occurrences

theorem hasEdgeFrom_toDigraph {sources : List String} {node : String} :
    g.toDigraph.hasEdgeFrom sources node = true ↔ ∃ a ∈ sources, g.Calls a node := by
  rw [Digraph.hasEdgeFrom, List.any_eq_true]
  simp only [List.contains_iff_mem, mem_edges_toDigraph]

end CallGraph

/-! ## Levels -/

namespace Digraph

variable {d : Digraph}

theorem reach_nil (d : Digraph) (depth : Nat) (unseen : List String) (distance : Nat) :
    d.reach depth unseen [] distance = [] := by
  cases depth with
  | zero => rfl
  | succ depth =>
    have h_none : unseen.filter (d.hasEdgeFrom []) = [] := by simp [hasEdgeFrom]
    rw [reach, h_none]

/-- One level, then the levels after it. Stopping at an empty level leaves nothing out. -/
theorem reach_succ (d : Digraph) (depth : Nat) (unseen frontier : List String) (distance : Nat) :
    d.reach (depth + 1) unseen frontier distance =
      (unseen.filter (d.hasEdgeFrom frontier)).map (·, distance + 1) ++
        d.reach depth (unseen.filter (!d.hasEdgeFrom frontier ·))
          (unseen.filter (d.hasEdgeFrom frontier)) (distance + 1) := by
  rw [reach]
  split
  · rename_i h_none
    rw [h_none, reach_nil]
    rfl
  · rfl

/-- A deeper search goes on where a shallower one stops. -/
theorem reach_prefix (d : Digraph) {depth deeper : Nat} (h : depth ≤ deeper)
    (unseen frontier : List String) (distance : Nat) :
    d.reach depth unseen frontier distance <+: d.reach deeper unseen frontier distance := by
  induction depth generalizing deeper unseen frontier distance with
  | zero => exact List.nil_prefix
  | succ depth ih =>
    obtain ⟨deeper, rfl⟩ : ∃ k, deeper = k + 1 := ⟨deeper - 1, by omega⟩
    rw [reach_succ, reach_succ, List.prefix_append_right_inj]
    exact ih (Nat.le_of_succ_le_succ h) _ _ _

end Digraph

namespace CallGraph

variable {g : CallGraph} {start : String} {n : Nat} {unseen frontier : List String}

/-- The search from `start` after `n` levels: the frontier is at distance `n`, and the rest, in order, can
be reached by longer chains only. -/
structure Searching (g : CallGraph) (start : String) (n : Nat) (unseen frontier : List String) :
    Prop where
  at_distance : ∀ t, t ∈ frontier ↔ g.Distance start t n
  farther : ∀ t, t ∈ unseen ↔ g.Occurs t ∧ ∀ m, g.Chain m start t → n < m
  ascend : unseen.Pairwise (· < ·)

namespace Searching

/-- What is found on the next level is one call farther. -/
theorem mem_next (h : g.Searching start n unseen frontier) {t : String} :
    t ∈ unseen.filter (g.toDigraph.hasEdgeFrom frontier) ↔ g.Distance start t (n + 1) := by
  rw [List.mem_filter, hasEdgeFrom_toDigraph, h.farther, distance_succ_iff]
  simp only [h.at_distance]
  constructor
  · rintro ⟨⟨-, h_least⟩, h_calls⟩
    exact ⟨h_least, h_calls⟩
  · rintro ⟨h_least, b, h_b, h_last⟩
    exact ⟨⟨h_last.occurs, h_least⟩, b, h_b, h_last⟩

/-- One level. -/
theorem step (h : g.Searching start n unseen frontier) :
    g.Searching start (n + 1) (unseen.filter (!g.toDigraph.hasEdgeFrom frontier ·))
      (unseen.filter (g.toDigraph.hasEdgeFrom frontier)) where
  at_distance := fun _ => h.mem_next
  farther := by
    intro t
    have h_next := h.mem_next (t := t)
    rw [List.mem_filter, h.farther] at h_next
    rw [List.mem_filter, h.farther, Bool.not_eq_true', ← Bool.not_eq_true]
    constructor
    · rintro ⟨⟨h_occurs, h_least⟩, h_not_next⟩
      refine ⟨h_occurs, fun m h_chain => ?_⟩
      -- a chain with one link more than before would be a shortest one
      have h_ne : m ≠ n + 1 := by
        rintro rfl
        exact h_not_next (h_next.2 ⟨h_chain, h_least⟩).2
      have := h_least m h_chain
      omega
    · rintro ⟨h_occurs, h_least⟩
      have h_least' : ∀ m, g.Chain m start t → n < m := fun m h_chain =>
        Nat.lt_of_succ_lt (h_least m h_chain)
      refine ⟨⟨h_occurs, h_least'⟩, fun h_edge => ?_⟩
      have h_distance := h_next.1 ⟨⟨h_occurs, h_least'⟩, h_edge⟩
      exact Nat.lt_irrefl _ (h_least _ h_distance.1)
  ascend := h.ascend.filter _

/-- What some levels find: the methods that are farther away, up to that many calls. -/
theorem mem_reach (h : g.Searching start n unseen frontier) (depth : Nat) {t : String} {k : Nat} :
    (t, k) ∈ g.toDigraph.reach depth unseen frontier n ↔
      n < k ∧ k ≤ n + depth ∧ g.Distance start t k := by
  induction depth generalizing n unseen frontier with
  | zero =>
    simp only [Digraph.reach, List.not_mem_nil, false_iff]
    omega
  | succ depth ih =>
    rw [Digraph.reach_succ, List.mem_append, ih h.step, List.mem_map]
    constructor
    · rintro (⟨u, h_u, h_pair⟩ | ⟨h_lt, h_le, h_distance⟩)
      · cases h_pair
        exact ⟨Nat.lt_succ_self n, by omega, h.mem_next.1 h_u⟩
      · exact ⟨by omega, by omega, h_distance⟩
    · rintro ⟨h_lt, h_le, h_distance⟩
      by_cases h_k : k = n + 1
      · subst h_k
        exact .inl ⟨t, h.mem_next.2 h_distance, rfl⟩
      · exact .inr ⟨by omega, by omega, h_distance⟩

/-- What some levels find is in order: nearer methods first, and those at one distance by name. -/
theorem pairwise_reach (h : g.Searching start n unseen frontier) (depth : Nat) :
    (g.toDigraph.reach depth unseen frontier n).Pairwise fun a b =>
      a.2 < b.2 ∨ a.2 = b.2 ∧ a.1 < b.1 := by
  induction depth generalizing n unseen frontier with
  | zero => exact .nil
  | succ depth ih =>
    rw [Digraph.reach_succ]
    refine List.pairwise_append.2 ⟨?_, ih h.step, ?_⟩
    · refine List.pairwise_map.2 ((h.ascend.filter _).imp fun h_lt => ?_)
      exact .inr ⟨rfl, h_lt⟩
    · rintro a ha ⟨t, k⟩ hb
      obtain ⟨u, -, rfl⟩ := List.mem_map.1 ha
      exact .inl ((h.step.mem_reach depth).1 hb).1

end Searching

/-! ## Callees at any depth -/

theorem pairwise_lt_mergeSort {names : List String} (h : names.Nodup) :
    (names.mergeSort fun a b => !decide (b < a)).Pairwise (· < ·) := by
  have h_sorted : (names.mergeSort fun a b => !decide (b < a)).Pairwise
      fun a b => (!decide (b < a)) = true := by
    apply List.pairwise_mergeSort
    · intro a b c h_ab h_bc
      simp only [Bool.not_eq_true', decide_eq_false_iff_not, String.not_lt] at *
      exact String.le_trans h_ab h_bc
    · intro a b
      simp only [Bool.or_eq_true, Bool.not_eq_true', decide_eq_false_iff_not, String.not_lt]
      exact String.le_total a b
  have h_nodup := (List.mergeSort_perm names fun a b => !decide (b < a)).nodup_iff.2 h
  refine (h_sorted.and h_nodup).imp fun ⟨h_le, h_ne⟩ => ?_
  by_contra h_lt
  exact h_ne (KeyMap.eq_of_not_lt h_lt (by simpa using h_le))

/-- The search before its first level. -/
theorem searching_start (g : CallGraph) (start : String) :
    g.Searching start 0
      ((g.toDigraph.nodes.filter (· != start)).mergeSort fun a b => !decide (b < a)) [start] where
  at_distance := by
    intro t
    rw [List.mem_singleton, distance_zero_iff, eq_comm]
  farther := by
    intro t
    rw [List.mem_mergeSort, List.mem_filter, mem_nodes_toDigraph, bne_iff_ne]
    refine and_congr_right fun _ => ⟨fun h_ne m h_chain => ?_, fun h_least => ?_⟩
    · by_contra h_zero
      obtain rfl : m = 0 := by omega
      exact h_ne (chain_zero_iff.1 h_chain).symm
    · rintro rfl
      exact Nat.lt_irrefl 0 (h_least 0 (.here t))
  ascend := pairwise_lt_mergeSort (g.nodup_nodes_toDigraph.filter _)

def levels (g : CallGraph) (signature : String) (depth : Nat) : List (String × Nat) :=
  g.toDigraph.reach depth
    ((g.toDigraph.nodes.filter (· != signature)).mergeSort fun a b => !decide (b < a)) [signature] 0

theorem transitiveCallees_of_occurs {signature : String} (h : g.Occurs signature) (depth : Nat) :
    g.transitiveCallees signature depth = .ok (g.levels signature depth) :=
  if_pos (List.contains_iff_mem.2 (mem_nodes_toDigraph.2 h))

theorem transitiveCallees_of_not_occurs {signature : String} (h : ¬ g.Occurs signature) (depth : Nat) :
    g.transitiveCallees signature depth = .error ⟨signature⟩ := by
  refine if_neg fun h_node => h ?_
  exact mem_nodes_toDigraph.1 (List.contains_iff_mem.1 h_node)

theorem mem_levels {signature t : String} {depth k : Nat} :
    (t, k) ∈ g.levels signature depth ↔ t ≠ signature ∧ g.Distance signature t k ∧ k ≤ depth := by
  rw [levels, (g.searching_start signature).mem_reach, Nat.zero_add]
  constructor
  · rintro ⟨h_pos, h_le, h_distance⟩
    refine ⟨?_, h_distance, h_le⟩
    rintro rfl
    exact Nat.lt_irrefl 0 (Nat.lt_of_lt_of_le h_pos (h_distance.2 0 (.here t)))
  · rintro ⟨h_ne, h_distance, h_le⟩
    refine ⟨Nat.pos_of_ne_zero ?_, h_le, h_distance⟩
    rintro rfl
    exact h_ne (distance_zero_iff.1 h_distance).symm

theorem nodup_levels (g : CallGraph) (signature : String) (depth : Nat) :
    ((g.levels signature depth).map Prod.fst).Nodup := by
  refine List.Nodup.map_on ?_ (((g.searching_start signature).pairwise_reach depth).imp ?_)
  · rintro ⟨t, k⟩ h_k ⟨u, j⟩ h_j h_same
    obtain rfl : t = u := h_same
    rw [(mem_levels.1 h_k).2.1.unique (mem_levels.1 h_j).2.1]
  · rintro a b h_before rfl
    rcases h_before with h_lt | ⟨-, h_lt⟩
    · exact Nat.lt_irrefl _ h_lt
    · exact String.lt_irrefl _ h_lt

/-- The callees of a signature at any depth are the methods that calls reach from it, each with its
distance: nearest first, in order of signatures at one distance, and without the signature itself. A deeper
search only adds methods that are farther away. A signature that does not occur in the graph is refused. -/
theorem transitive_callees_by_distance (g : CallGraph) (signature : String) (depth : Nat) :
    (g.transitiveCallees signature depth = .error ⟨signature⟩ ↔ ¬ g.Occurs signature) ∧
    (g.Occurs signature → ∃ rows, g.transitiveCallees signature depth = .ok rows ∧
      (rows.map Prod.fst).Nodup ∧
      (rows.Pairwise fun a b => a.2 < b.2 ∨ a.2 = b.2 ∧ a.1 < b.1) ∧
      (∀ t k, (t, k) ∈ rows ↔ t ≠ signature ∧ g.Distance signature t k ∧ k ≤ depth) ∧
      ∀ deeper, depth ≤ deeper →
        ∃ farther, g.transitiveCallees signature deeper = .ok (rows ++ farther)) := by
  constructor
  · constructor
    · intro h_error h_occurs
      rw [transitiveCallees_of_occurs h_occurs] at h_error
      cases h_error
    · exact fun h => transitiveCallees_of_not_occurs h depth
  · intro h_occurs
    refine ⟨g.levels signature depth, transitiveCallees_of_occurs h_occurs depth,
      g.nodup_levels signature depth, (g.searching_start signature).pairwise_reach depth,
      fun t k => mem_levels, fun deeper h_le => ?_⟩
    obtain ⟨farther, h_farther⟩ := g.toDigraph.reach_prefix h_le _ [signature] 0
    exact ⟨farther, by rw [transitiveCallees_of_occurs h_occurs, levels, ← h_farther]; rfl⟩

namespace Relay

/-- Methods that call each other in a circle, themselves and one callee twice; `d()` and `e()` call nothing. -/
def graph : CallGraph :=
  .ofEntries [("a()", ["b()", "b()", "a()"]), ("b()", ["a()", "d()", "c()"]), ("c()", ["d()", "e()", "a()"])]

end Relay

/-- Two calls lead from `a()` to `c()` and `d()`, and what is farther away comes after them. -/
theorem relay_callees_by_distance :
    Relay.graph.Occurs "a()" ∧
    Relay.graph.transitiveCallees "a()" 2 = .ok [("b()", 1), ("c()", 2), ("d()", 2)] ∧
    Relay.graph.Distance "a()" "d()" 2 ∧
    (∃ farther, Relay.graph.transitiveCallees "a()" 3 =
      .ok ([("b()", 1), ("c()", 2), ("d()", 2)] ++ farther)) ∧
    ¬ Relay.graph.Occurs "f()" := by
  have h_occurs : Relay.graph.Occurs "a()" := .inl (by decide +kernel)
  have h_rows : Relay.graph.transitiveCallees "a()" 2 = .ok [("b()", 1), ("c()", 2), ("d()", 2)] := by
    cbv
  obtain ⟨rows, h_ok, -, -, h_mem, h_deeper⟩ :=
    (transitive_callees_by_distance Relay.graph "a()" 2).2 h_occurs
  obtain rfl := Except.ok.inj (h_rows.symm.trans h_ok)
  refine ⟨h_occurs, h_rows, ((h_mem "d()" 2).1 (by decide)).2.1, h_deeper 3 (by decide), ?_⟩
  exact (transitive_callees_by_distance Relay.graph "f()" 1).1.1 (by decide +kernel)

end CallGraph

end JavaCallGraph
