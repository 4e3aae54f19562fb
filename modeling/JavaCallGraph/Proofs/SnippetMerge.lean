import JavaCallGraph.Proofs.CallGraph

/-!
# Merging snippets in parallel

Several workers extract the snippets of the units and merge what they have with what their neighbours
have. Where the list of units is cut, and where a worker begins with the empty map, is up to timing.
The snippets are not: of two with one signature, the one of the earlier unit is kept by every merge.

* `MergePlan` — a way to merge the snippets of some units.
* `MergePlan.get?_result` — what is found in the result of a plan.
* `snippets_of_every_merge` — all plans give the snippets of the analysis.
-/

namespace JavaCallGraph

open Java

/-- How the snippets of neighbouring units are put together. -/
inductive MergePlan where
  | nothing
  | unit (u : CompilationUnit)
  | merge (left right : MergePlan)

namespace MergePlan

def units : MergePlan → List CompilationUnit
  | nothing => []
  | unit u => [u]
  | merge left right => left.units ++ right.units

def result : MergePlan → SnippetMap
  | nothing => .empty
  | unit u => snippetsOf u
  | merge left right => left.result.union right.result

/-- The brackets of a plan do not show: a key is looked up in one unit after the other. -/
theorem get?_result (plan : MergePlan) (k : String) :
    plan.result.get? k = plan.units.findSome? fun u => (snippetsOf u).get? k := by
  induction plan with
  | nothing => rfl
  | unit u =>
    rw [units, List.findSome?_singleton]
    rfl
  | merge left right ih_left ih_right =>
    rw [result, KeyMap.get?_union, ih_left, ih_right, units, List.findSome?_append]

theorem result_eq_mergedSnippets (plan : MergePlan) : plan.result = mergedSnippets plan.units := by
  apply KeyMap.ext_get?
  intro k
  rw [get?_result, get?_mergedSnippets]

end MergePlan

/-- However the snippets of some units are merged, the result holds for each key the snippet of the
first unit that has the key. It is the map that is merged from left to right, and what an analysis of
the units has. -/
theorem snippets_of_every_merge (plan : MergePlan) :
    (∀ k code, plan.result.get? k = some code ↔
      ∃ before u after, plan.units = before ++ u :: after ∧ (snippetsOf u).get? k = some code ∧
        ∀ earlier ∈ before, (snippetsOf earlier).get? k = none) ∧
    plan.result = mergedSnippets plan.units ∧
    ∀ (solver : Solver) (output : OutputOptions),
      (Analysis.ofUnits solver { output with snippets := true } plan.units).snippets = plan.result := by
  refine ⟨fun k code => ?_, plan.result_eq_mergedSnippets, fun solver output => ?_⟩
  · rw [plan.get?_result, List.findSome?_eq_some_iff]
  · exact plan.result_eq_mergedSnippets.symm

end JavaCallGraph
