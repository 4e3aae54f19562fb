import JavaCallGraph.Proofs.ClosedWorld

/-!
# One key for all outputs of a unit

The graph, the snippets and the endpoints of a unit are collected one by one, and each writes the
signature of a method on its own. They can be joined because they agree on the signatures: the graph
and the snippets have the same keys, an endpoint names one of them, and where declarations share a
signature the snippet is that of the first.

* `contains_snippetsOf_iff_graphOf` — an entry in the graph goes with a snippet.
* `get?_snippetsOf_eq_find?` — whose lines a snippet shows.
* `Endpoint.exists_scope` — the method that an endpoint names.
* `outputs_share_keys` — the result.
-/

namespace JavaCallGraph

open Java

/-! ## Snippets -/

theorem LinesInSource.isSome {u : CompilationUnit} (h : LinesInSource u) {scope : Scope}
    (h_scope : scope ∈ Scope.callables u) :
    (u.linesBetween scope.method.startLine scope.method.endLine).isSome := by
  obtain ⟨h_start, h_le, h_stop⟩ := h scope h_scope
  exact isSome_linesBetween h_start h_le h_stop

/-- Where all lines are in the source, exactly the callers of the graph have a snippet. -/
theorem contains_snippetsOf_iff_graphOf {u : CompilationUnit} (h_lines : LinesInSource u)
    (solver : Solver) (k : String) :
    (snippetsOf u).contains k = true ↔ (solver.graphOf u).contains k = true := by
  rw [contains_snippetsOf, Solver.contains_graphOf]
  constructor
  · rintro ⟨scope, h_scope, h_key, -⟩
    exact ⟨scope, h_scope, h_key⟩
  · rintro ⟨scope, h_scope, h_key⟩
    exact ⟨scope, h_scope, h_key, h_lines.isSome h_scope⟩

/-- Among entries that all have a value, the first with a key gives the value of the key. -/
theorem lookup_filterMap_eq_find? {β : Type} {key : β → String} {value : β → Option String}
    {xs : List β} (h : ∀ x ∈ xs, (value x).isSome) (k : String) :
    (xs.filterMap fun x => (value x).map (key x, ·)).lookup k =
      (xs.find? fun x => key x == k).bind value := by
  induction xs with
  | nil => rfl
  | cons x rest ih =>
    obtain ⟨v, h_value⟩ := Option.isSome_iff_exists.1 (h x List.mem_cons_self)
    rw [List.filterMap_cons, List.find?_cons, h_value, Option.map_some]
    by_cases hk : k = key x
    · simp [hk, h_value]
    · have h_beq : (key x == k) = false := by simpa using Ne.symm hk
      rw [KeyMap.lookup_cons_ne hk, h_beq, ih fun y hy => h y (List.mem_cons_of_mem _ hy)]

/-- The snippet of a signature shows the lines of the first declaration that has it. -/
theorem get?_snippetsOf_eq_find? {u : CompilationUnit} (h_lines : LinesInSource u) (k : String) :
    (snippetsOf u).get? k =
      ((Scope.callables u).find? fun scope => scope.caller.text == k).bind fun scope =>
        u.linesBetween scope.method.startLine scope.method.endLine := by
  rw [get?_snippetsOf, snippetEntries]
  exact lookup_filterMap_eq_find? (fun scope h_scope => h_lines.isSome h_scope) k

/-! ## Endpoints -/

/-- An endpoint is that of a method which can be called by name, under the signature of the method. -/
theorem Endpoint.exists_scope {u : CompilationUnit} {e : Endpoint} (h : e ∈ Endpoint.ofUnit u) :
    ∃ scope ∈ Scope.callables u, scope.caller.text = e.method := by
  obtain ⟨scope, h_scope, h_endpoint⟩ := List.mem_filterMap.1 h
  refine ⟨scope, (List.mem_filter.1 h_scope).1, ?_⟩
  obtain ⟨⟨verb, mapping⟩, -, h_result⟩ := Option.bind_eq_some_iff.1 h_endpoint
  cases h_result
  rfl

/-! ## All outputs -/

/-- The outputs of a unit whose methods have their lines in the source, with whatever solver the graph
is built: graph and snippets have the same keys in the same order, every endpoint names a key, and the
snippet of a key shows the lines of the first declaration with that signature. -/
theorem outputs_share_keys (solver : Solver) (u : CompilationUnit) (h_lines : LinesInSource u) :
    (snippetsOf u).keys = (solver.graphOf u).entries.keys ∧
    (∀ e ∈ Endpoint.ofUnit u, e.method ∈ (solver.graphOf u).entries.keys) ∧
    ∀ k ∈ (solver.graphOf u).entries.keys, ∃ scope source,
      (Scope.callables u).find? (fun scope => scope.caller.text == k) = some scope ∧
      u.linesBetween scope.method.startLine scope.method.endLine = some source ∧
      (snippetsOf u).get? k = some source := by
  refine ⟨KeyMap.keys_congr (contains_snippetsOf_iff_graphOf h_lines solver), ?_, ?_⟩
  · intro e h_endpoint
    exact KeyMap.mem_keys_iff.2 (Solver.contains_graphOf.2 (Endpoint.exists_scope h_endpoint))
  · intro k h_key
    have h_snippet := (contains_snippetsOf_iff_graphOf h_lines solver k).2 (KeyMap.mem_keys_iff.1 h_key)
    obtain ⟨source, h_source⟩ := KeyMap.contains_iff.1 h_snippet
    have h_find := get?_snippetsOf_eq_find? h_lines k
    rw [h_source] at h_find
    obtain ⟨scope, h_scope, h_text⟩ := Option.bind_eq_some_iff.1 h_find.symm
    exact ⟨scope, source, h_scope, h_text, h_source⟩

namespace Orders

def method (name : String) (annotations : List Annotation) (line : Nat) : Method :=
  ⟨name, some "void", [], [], [], annotations, false, true, line, line⟩

def step (line : Nat) : TypeDecl :=
  ⟨"Step", "Orders.Step", .classType, none, [], [], [], [method "run" [] line], [], line, line⟩

/-- A controller with two local types of one name. -/
def unit : CompilationUnit :=
  ⟨"Orders.java", "type\nlist\nfirst\nsecond\n", some "shop", [],
    [⟨"Orders", "Orders", .classType, none, [], [⟨"RestController", []⟩], [],
      [method "list" [⟨"GetMapping", [⟨none, "\"/orders\""⟩]⟩] 2], [step 3, step 4], 1, 4⟩]⟩

end Orders

/-- In the unit `Orders` the endpoint has an entry in the graph, and of the two local types with one
signature the first gives the snippet. -/
theorem orders_outputs_share_keys :
    LinesInSource Orders.unit ∧
    (snippetsOf Orders.unit).keys = (Solver.blind.graphOf Orders.unit).entries.keys ∧
    "shop.Orders.list()" ∈ (Solver.blind.graphOf Orders.unit).entries.keys ∧
    (snippetsOf Orders.unit).get? "shop.Orders.Step.run()" = some "first" := by
  have h_lines : LinesInSource Orders.unit := by decide +kernel
  obtain ⟨h_keys, h_endpoints, h_first⟩ := outputs_share_keys .blind Orders.unit h_lines
  refine ⟨h_lines, h_keys, ?_, ?_⟩
  · exact h_endpoints ⟨"shop.Orders.list()", "GET", "/orders", "", "/orders"⟩ (by decide +kernel)
  · obtain ⟨scope, source, h_find, h_text, h_get⟩ :=
      h_first "shop.Orders.Step.run()" (by decide +kernel)
    have h_lines_of : ((Scope.callables Orders.unit).find? fun scope =>
        scope.caller.text == "shop.Orders.Step.run()").bind (fun scope =>
          Orders.unit.linesBetween scope.method.startLine scope.method.endLine) = some "first" := by
      decide +kernel
    rw [h_find, Option.bind_some, h_text] at h_lines_of
    rw [h_get, h_lines_of]

end JavaCallGraph
