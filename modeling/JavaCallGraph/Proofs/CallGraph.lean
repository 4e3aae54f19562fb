import JavaCallGraph.Project
import JavaCallGraph.Proofs.KeyMap
import Mathlib.Logic.Basic

/-!
# Entries of call graphs and snippets

Which methods have an entry in the graph and a snippet of a unit, and of several units together. Both
are keyed by the callers of a unit, so what holds of one scope holds of the whole.

* `CallGraph.Calls` — a method calls another.
* `CallGraph.callees?_extend`, `CallGraph.callees?_merge` — callees after growing a graph.
* `Solver.contains_graphOf`, `Solver.calls_graphOf` — entries of the graph of a unit.
* `contains_snippetsOf` — keys of the snippets of a unit.
* `contains_mergedGraph`, `calls_mergedGraph`, `contains_mergedSnippets` — the same of many units.
-/

namespace JavaCallGraph

open Java

namespace CallGraph

/-! ## Growing a graph -/

def Calls (g : CallGraph) (caller callee : String) : Prop :=
  ∃ callees, g.callees? caller = some callees ∧ callee ∈ callees

theorem contains_iff {g : CallGraph} {k : String} :
    g.contains k = true ↔ ∃ callees, g.callees? k = some callees := KeyMap.contains_iff

theorem callees?_extend (g : CallGraph) (caller : String) (callees : List String) (k : String) :
    (g.extend caller callees).callees? k =
      if k = caller then some ((g.callees? caller).getD [] ++ callees) else g.callees? k :=
  KeyMap.get?_modify _ _ _ _

theorem contains_extend {g : CallGraph} {caller : String} {callees : List String} {k : String} :
    (g.extend caller callees).contains k = true ↔ k = caller ∨ g.contains k = true := by
  rw [contains_iff, contains_iff, callees?_extend]
  by_cases hk : k = caller
  · simp [hk]
  · simp [hk]

theorem calls_extend {g : CallGraph} {caller : String} {callees : List String} {a b : String} :
    (g.extend caller callees).Calls a b ↔ g.Calls a b ∨ a = caller ∧ b ∈ callees := by
  rw [Calls, Calls, callees?_extend]
  by_cases ha : a = caller
  · subst ha
    cases h : g.callees? a <;> simp
  · simp [ha]

theorem entries_foldl_extend (entries : List (String × List String)) (g : CallGraph) :
    (entries.foldl (fun g e => g.extend e.1 e.2) g).entries =
      entries.foldl (fun m e => m.modify e.1 fun old => old.getD [] ++ e.2) g.entries := by
  induction entries generalizing g with
  | nil => rfl
  | cons e rest ih => exact ih (g.extend e.1 e.2)

/-- Merging puts the callees of the second graph after those of the first. -/
theorem callees?_merge (g h : CallGraph) (k : String) :
    (g.merge h).callees? k =
      ((h.callees? k).map fun callees => (g.callees? k).getD [] ++ callees).or (g.callees? k) := by
  refine (congrArg (KeyMap.get? · k) (entries_foldl_extend h.entries.toList g)).trans ?_
  exact KeyMap.get?_foldl_modify (fun callees old => old.getD [] ++ callees) h.entries.ascend _ k

theorem contains_merge {g h : CallGraph} {k : String} :
    (g.merge h).contains k = true ↔ g.contains k = true ∨ h.contains k = true := by
  rw [contains_iff, contains_iff, contains_iff, callees?_merge]
  cases h.callees? k <;> simp

theorem calls_merge {g h : CallGraph} {a b : String} :
    (g.merge h).Calls a b ↔ g.Calls a b ∨ h.Calls a b := by
  rw [Calls, Calls, Calls, callees?_merge]
  cases h.callees? a <;> cases g.callees? a <;> simp

/-! ## Growing step by step -/

section Fold

variable {β : Type} {caller : β → String} {callees : β → List String}

theorem contains_foldl_extend {xs : List β} {g : CallGraph} {k : String} :
    (xs.foldl (fun g x => g.extend (caller x) (callees x)) g).contains k = true ↔
      g.contains k = true ∨ ∃ x ∈ xs, caller x = k := by
  induction xs generalizing g with
  | nil => simp
  | cons x rest ih =>
    rw [List.foldl_cons, ih, contains_extend]
    simp only [List.mem_cons, exists_eq_or_imp, eq_comm (a := k)]
    rw [or_comm (a := caller x = k), or_assoc]

theorem calls_foldl_extend {xs : List β} {g : CallGraph} {a b : String} :
    (xs.foldl (fun g x => g.extend (caller x) (callees x)) g).Calls a b ↔
      g.Calls a b ∨ ∃ x ∈ xs, caller x = a ∧ b ∈ callees x := by
  induction xs generalizing g with
  | nil => simp
  | cons x rest ih =>
    rw [List.foldl_cons, ih, calls_extend]
    simp only [List.mem_cons, exists_eq_or_imp, eq_comm (a := a)]
    rw [or_assoc]

end Fold

theorem contains_foldl_merge {graphs : List CallGraph} {g : CallGraph} {k : String} :
    (graphs.foldl merge g).contains k = true ↔
      g.contains k = true ∨ ∃ h ∈ graphs, h.contains k = true := by
  induction graphs generalizing g with
  | nil => simp
  | cons h rest ih =>
    rw [List.foldl_cons, ih, contains_merge]
    simp only [List.mem_cons, exists_eq_or_imp]
    rw [or_assoc]

theorem calls_foldl_merge {graphs : List CallGraph} {g : CallGraph} {a b : String} :
    (graphs.foldl merge g).Calls a b ↔ g.Calls a b ∨ ∃ h ∈ graphs, h.Calls a b := by
  induction graphs generalizing g with
  | nil => simp
  | cons h rest ih =>
    rw [List.foldl_cons, ih, calls_merge]
    simp only [List.mem_cons, exists_eq_or_imp]
    rw [or_assoc]

@[simp] theorem contains_empty (k : String) : empty.contains k = false := rfl

@[simp] theorem not_calls_empty (a b : String) : ¬ empty.Calls a b := by
  rintro ⟨callees, h, -⟩
  cases h

end CallGraph

namespace Solver

/-! ## The graph of a unit -/

/-- What the graph of a unit is made of: each caller with its resolved calls. -/
theorem graphOf_eq (solver : Solver) (u : CompilationUnit) :
    solver.graphOf u =
      (Scope.callables u).foldl (fun g scope =>
        g.extend scope.caller.text ((solver.callsOf scope).map (·.signature.text))) .empty := by
  rw [graphOf, callersOf, List.foldl_map]

/-- The callers of a unit, and they only, have an entry in its graph. -/
theorem contains_graphOf {solver : Solver} {u : CompilationUnit} {k : String} :
    (solver.graphOf u).contains k = true ↔ ∃ scope ∈ Scope.callables u, scope.caller.text = k := by
  rw [graphOf_eq, CallGraph.contains_foldl_extend]
  simp

/-- What a caller calls in the graph are the calls of the methods with its signature. -/
theorem calls_graphOf {solver : Solver} {u : CompilationUnit} {a b : String} :
    (solver.graphOf u).Calls a b ↔
      ∃ scope ∈ Scope.callables u, scope.caller.text = a ∧
        ∃ c ∈ scope.method.calls, (solver.resolve scope c).signature.text = b := by
  rw [graphOf_eq, CallGraph.calls_foldl_extend]
  simp [callsOf]

/-- The graphs of some units in one, callees of a shared caller one after the other. -/
def mergedGraph (solver : Solver) (units : List CompilationUnit) : CallGraph :=
  (units.map solver.graphOf).foldl CallGraph.merge .empty

theorem contains_mergedGraph {solver : Solver} {units : List CompilationUnit} {k : String} :
    (solver.mergedGraph units).contains k = true ↔
      ∃ u ∈ units, ∃ scope ∈ Scope.callables u, scope.caller.text = k := by
  rw [mergedGraph, CallGraph.contains_foldl_merge]
  simp [contains_graphOf]

theorem calls_mergedGraph {solver : Solver} {units : List CompilationUnit} {a b : String} :
    (solver.mergedGraph units).Calls a b ↔
      ∃ u ∈ units, ∃ scope ∈ Scope.callables u, scope.caller.text = a ∧
        ∃ c ∈ scope.method.calls, (solver.resolve scope c).signature.text = b := by
  rw [mergedGraph, CallGraph.calls_foldl_merge]
  simp [calls_graphOf]

end Solver

/-! ## Snippets -/

/-- The methods of a unit whose lines are in the source, each with its lines. -/
def snippetEntries (u : CompilationUnit) : List (String × String) :=
  (Scope.callables u).filterMap fun scope =>
    (u.linesBetween scope.method.startLine scope.method.endLine).map (scope.caller.text, ·)

/-- Of several declarations with one signature the first gives the snippet. -/
theorem get?_snippetsOf (u : CompilationUnit) (k : String) :
    (snippetsOf u).get? k = (snippetEntries u).lookup k := by
  have h_fold : snippetsOf u =
      (snippetEntries u).foldl (fun acc e => acc.insertNew e.1 e.2) .empty := by
    rw [snippetEntries, List.foldl_filterMap, snippetsOf]
    congr 1
    funext acc scope
    cases u.linesBetween scope.method.startLine scope.method.endLine <;> rfl
  rw [h_fold, KeyMap.get?_foldl_insertNew, KeyMap.get?_empty, Option.none_or]

theorem contains_snippetsOf {u : CompilationUnit} {k : String} :
    (snippetsOf u).contains k = true ↔
      ∃ scope ∈ Scope.callables u, scope.caller.text = k ∧
        (u.linesBetween scope.method.startLine scope.method.endLine).isSome := by
  rw [KeyMap.contains, get?_snippetsOf, List.lookup_isSome_iff, snippetEntries]
  constructor
  · rintro ⟨e, he, hk⟩
    obtain ⟨scope, h_scope, h_entry⟩ := List.mem_filterMap.1 he
    obtain ⟨lines, h_lines, rfl⟩ := Option.map_eq_some_iff.1 h_entry
    exact ⟨scope, h_scope, (beq_iff_eq.1 hk).symm, by simp [h_lines]⟩
  · rintro ⟨scope, h_scope, rfl, h_lines⟩
    obtain ⟨lines, h_lines⟩ := Option.isSome_iff_exists.1 h_lines
    exact ⟨(scope.caller.text, lines), List.mem_filterMap.2 ⟨scope, h_scope, by simp [h_lines]⟩,
      by simp⟩

theorem get?_mergedSnippets (units : List CompilationUnit) (k : String) :
    (mergedSnippets units).get? k = units.findSome? fun u => (snippetsOf u).get? k := by
  rw [mergedSnippets, KeyMap.get?_foldl_union, KeyMap.get?_empty, Option.none_or, List.findSome?_map]
  rfl

theorem contains_mergedSnippets {units : List CompilationUnit} {k : String} :
    (mergedSnippets units).contains k = true ↔ ∃ u ∈ units, (snippetsOf u).contains k = true := by
  rw [KeyMap.contains, get?_mergedSnippets, List.findSome?_isSome_iff]
  rfl

end JavaCallGraph
