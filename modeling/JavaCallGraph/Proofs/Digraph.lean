import JavaCallGraph.Proofs.CallDistance

/-!
# The directed graph of a call graph

The directed graph can be drawn while the entries are read: every signature becomes a node, at the next
place, and every call an edge, unless it is there already. The places are kept in a map beside the nodes.
After each step the nodes are the signatures read so far in the order in which they came first, the edges
are the calls read so far, and the map has the place of every node (`Drawing.Shows`).

* `Drawing` — a graph that is being drawn, with `addNode`, `addEdge` and `addEntry`.
* `Drawing.Shows.addEntry`, `Drawing.Shows.foldl` — what one entry and all entries leave behind.
* `Digraph.index?_eq_some_iff` — the place of a node.
* `CallGraph.toDigraph_is_simple` — nodes, places and edges of the graph.
-/

namespace JavaCallGraph

/-! ## Drawing a graph -/

theorem getElem?_concat_eq_some_iff {α : Type} {as : List α} {a b : α} {i : Nat} :
    (as ++ [a])[i]? = some b ↔ as[i]? = some b ∨ i = as.length ∧ a = b := by
  rw [List.getElem?_append]
  split
  · rename_i h_lt
    simp [Nat.ne_of_lt h_lt]
  · rename_i h_ge
    obtain ⟨k, rfl⟩ := Nat.exists_eq_add_of_le (Nat.le_of_not_lt h_ge)
    cases k <;> simp

/-- A directed graph that is being drawn, with the places of its nodes. -/
structure Drawing where
  graph : Digraph := ⟨[], []⟩
  places : KeyMap Nat := .empty

namespace Drawing

/-- With a node at the next place, unless it has one. -/
def addNode (d : Drawing) (name : String) : Drawing :=
  if d.places.contains name then d
  else ⟨⟨d.graph.nodes ++ [name], d.graph.edges⟩, d.places.insert name d.graph.nodes.length⟩

/-- With an edge, unless it is there. -/
def addEdge (d : Drawing) (edge : String × String) : Drawing :=
  if d.graph.edges.contains edge then d
  else ⟨⟨d.graph.nodes, d.graph.edges ++ [edge]⟩, d.places⟩

/-- With a caller, then with each of its callees and the edge to it. -/
def addEntry (d : Drawing) (entry : String × List String) : Drawing :=
  entry.2.foldl (fun d callee => (d.addNode callee).addEdge (entry.1, callee)) (d.addNode entry.1)

/-- The drawing holds the signatures and the calls that have been read. -/
structure Shows (d : Drawing) (names : List String) (calls : List (String × String)) : Prop where
  nodes : d.graph.nodes = names.eraseDups
  edges : d.graph.edges = calls.eraseDups
  places : ∀ name i, d.places.get? name = some i ↔ d.graph.nodes[i]? = some name

namespace Shows

variable {d : Drawing} {names : List String} {calls : List (String × String)}

theorem start : Shows {} [] [] where
  nodes := rfl
  edges := rfl
  places := by simp

/-- The names that have a place are those that have been read. -/
theorem contains_places (h : Shows d names calls) {name : String} :
    d.places.contains name = true ↔ name ∈ names := by
  rw [KeyMap.contains_iff, ← List.mem_eraseDups, ← h.nodes, List.mem_iff_getElem?]
  exact exists_congr fun i => h.places name i

theorem addNode (h : Shows d names calls) (name : String) :
    Shows (d.addNode name) (names ++ [name]) calls := by
  unfold Drawing.addNode
  split
  · -- nothing is drawn, and nothing new has been read
    rename_i h_old
    rw [h.contains_places] at h_old
    exact ⟨h.nodes.trans (eraseDups_concat_of_mem h_old).symm, h.edges, h.places⟩
  · rename_i h_new
    rw [h.contains_places] at h_new
    refine ⟨?_, h.edges, fun other i => ?_⟩
    · rw [eraseDups_concat_of_notMem h_new, ← h.nodes]
    · rw [KeyMap.get?_insert, getElem?_concat_eq_some_iff]
      by_cases h_other : other = name
      · -- the new node has the next place and no earlier one
        have h_ne : d.graph.nodes[i]? ≠ some name := by
          intro h_at
          have h_mem := List.mem_of_getElem? h_at
          rw [h.nodes, List.mem_eraseDups] at h_mem
          exact h_new h_mem
        simp [h_other, h_ne, eq_comm]
      · simp [h_other, h.places, Ne.symm h_other]

theorem addEdge (h : Shows d names calls) (edge : String × String) :
    Shows (d.addEdge edge) names (calls ++ [edge]) := by
  unfold Drawing.addEdge
  split
  · rename_i h_old
    rw [h.edges, List.contains_iff_mem, List.mem_eraseDups] at h_old
    exact ⟨h.nodes, h.edges.trans (eraseDups_concat_of_mem h_old).symm, h.places⟩
  · rename_i h_new
    rw [h.edges, List.contains_iff_mem, List.mem_eraseDups] at h_new
    refine ⟨h.nodes, ?_, h.places⟩
    rw [eraseDups_concat_of_notMem h_new, ← h.edges]

theorem addCallees (h : Shows d names calls) (caller : String) (callees : List String) :
    Shows (callees.foldl (fun d callee => (d.addNode callee).addEdge (caller, callee)) d)
      (names ++ callees) (calls ++ callees.map (caller, ·)) := by
  induction callees generalizing d names calls with
  | nil => simpa using h
  | cons callee callees ih =>
    have h_rest := ih ((h.addNode callee).addEdge (caller, callee))
    rwa [List.append_assoc, List.append_assoc] at h_rest

theorem addEntry (h : Shows d names calls) (entry : String × List String) :
    Shows (d.addEntry entry) (names ++ entry.1 :: entry.2) (calls ++ entry.2.map (entry.1, ·)) := by
  have h_entry := (h.addNode entry.1).addCallees entry.1 entry.2
  rwa [List.append_assoc] at h_entry

/-- What all entries leave behind. -/
theorem foldl (h : Shows d names calls) (entries : List (String × List String)) :
    Shows (entries.foldl Drawing.addEntry d)
      (names ++ entries.flatMap fun entry => entry.1 :: entry.2)
      (calls ++ entries.flatMap fun entry => entry.2.map (entry.1, ·)) := by
  induction entries generalizing d names calls with
  | nil => simpa using h
  | cons entry entries ih =>
    have h_rest := ih (h.addEntry entry)
    rwa [List.append_assoc, List.append_assoc] at h_rest

end Shows

end Drawing

/-! ## Places of nodes -/

/-- Where no node stands twice, the place of a name is where it stands. -/
theorem Digraph.index?_eq_some_iff {d : Digraph} (h : d.nodes.Nodup) {name : String} {i : Nat} :
    d.index? name = some i ↔ d.nodes[i]? = some name := by
  rw [index?, List.idxOf?_eq_some_iff, List.getElem?_eq_some_iff]
  refine exists_congr fun h_i => and_iff_left_of_imp fun h_at j h_j h_same => ?_
  have h_eq : j = i := h.getElem_inj_iff.1 (h_same.trans h_at.symm)
  omega

namespace CallGraph

def drawing (g : CallGraph) : Drawing := g.entries.toList.foldl Drawing.addEntry {}

theorem shows_drawing (g : CallGraph) : g.drawing.Shows g.occurrences g.calls :=
  Drawing.Shows.start.foldl g.entries.toList

theorem nodup_edges_toDigraph (g : CallGraph) : g.toDigraph.edges.Nodup :=
  pairwise_eraseDupsBy (f := id) g.calls

theorem graph_drawing (g : CallGraph) : g.drawing.graph = g.toDigraph := by
  rw [toDigraph, ← g.shows_drawing.nodes, ← g.shows_drawing.edges]

/-- The directed graph of a call graph has one node for each signature that occurs, in the order in which
they are first read, callers before their callees; a signature has the place of its node, and others have
none; and there is one edge for each pair of a caller and one of its callees. Drawing it in one pass over
the entries gives the same graph and the same places. -/
theorem toDigraph_is_simple (g : CallGraph) :
    g.toDigraph.nodes.Nodup ∧
    (∀ signature, signature ∈ g.toDigraph.nodes ↔ g.Occurs signature) ∧
    (g.toDigraph.nodes.Pairwise fun a b => g.occurrences.idxOf a < g.occurrences.idxOf b) ∧
    (∀ signature i, g.toDigraph.index? signature = some i ↔ g.toDigraph.nodes[i]? = some signature) ∧
    g.toDigraph.edges.Nodup ∧
    (∀ caller callee, (caller, callee) ∈ g.toDigraph.edges ↔ g.Calls caller callee) ∧
    g.drawing.graph = g.toDigraph ∧
    ∀ signature, g.drawing.places.get? signature = g.toDigraph.index? signature := by
  have h_index : ∀ signature i,
      g.toDigraph.index? signature = some i ↔ g.toDigraph.nodes[i]? = some signature :=
    fun _ _ => Digraph.index?_eq_some_iff g.nodup_nodes_toDigraph
  refine ⟨g.nodup_nodes_toDigraph, fun _ => mem_nodes_toDigraph, pairwise_idxOf_eraseDups g.occurrences,
    h_index, g.nodup_edges_toDigraph, fun _ _ => mem_edges_toDigraph, g.graph_drawing, fun signature => ?_⟩
  ext i
  rw [g.shows_drawing.places, g.graph_drawing, h_index]

-- a method that calls itself, a callee that is called twice, and one that comes as a caller later
example : (ofEntries [("b()", ["c()", "b()", "c()"]), ("c()", ["a()"])]).toDigraph =
    ⟨["b()", "c()", "a()"], [("b()", "c()"), ("b()", "b()"), ("c()", "a()")]⟩ := by
  decide +kernel

end CallGraph

end JavaCallGraph
