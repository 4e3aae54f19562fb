import JavaCallGraph.Proofs.Accounting
import JavaCallGraph.Proofs.ClosedWorld

/-!
# The shape of a graph does not depend on the solver

What a solver knows decides where a call leads, never whether there is one. The callers of a unit and
their calls are read off the unit, and each call is answered by exactly one signature, which keeps the
name that the call is made with. Two graphs of one unit therefore differ in the packages, types and
parameters of callees only.

* `Solver.KeepsNames` — a solver that answers a call with a method of its name.
* `SymbolStore.keepsNames_solver` — so does every store.
* `Solver.callees?_graphOf_eq_map` — an entry call by call.
* `graph_shape_independent` — the result.
-/

namespace JavaCallGraph

open Java

/-! ## Names of callees -/

/-- A solver that finds only methods of the name that is called. -/
def Solver.KeepsNames (solver : Solver) : Prop :=
  ∀ scope c found, solver.target scope c = some found → found.signature.method = c.name

theorem Solver.keepsNames_blind : Solver.blind.KeepsNames := by
  intro scope c found h_target
  cases h_target

theorem SymbolStore.keepsNames_solver (store : SymbolStore) : store.solver.KeepsNames := by
  intro scope c found h_target
  obtain ⟨key, entry, -, m, -, h_name, rfl⟩ := target_eq_some h_target
  exact h_name

/-- The solvers that there are: the one that knows nothing, and that of any store. -/
inductive Solver.Provided : Solver → Prop
  | blind : Provided .blind
  | stored (store : SymbolStore) : Provided store.solver

theorem Signature.method_onType (type method : String) :
    (Signature.onType type method).method = method := by
  rw [Signature.onType]

namespace Solver

theorem Provided.keepsNames {solver : Solver} (h : solver.Provided) : solver.KeepsNames := by
  cases h with
  | blind => exact keepsNames_blind
  | stored store => exact store.keepsNames_solver

/-- Whichever way a call goes, its signature has its name. -/
theorem method_resolve {solver : Solver} (h : solver.KeepsNames) (scope : Scope) (c : Call) :
    (solver.resolve scope c).signature.method = c.name := by
  rw [resolve]
  cases h_target : solver.target scope c with
  | some found => exact h scope c found h_target
  | none =>
    dsimp only
    split
    · rfl
    · cases solver.infer scope c.receiver with
      | some hint => exact Signature.method_onType hint.type c.name
      | none => rfl

/-! ## Entries call by call -/

/-- The calls of the declarations of a unit whose signatures have a text. -/
def callsUnder (u : CompilationUnit) (k : String) : List (Scope × Call) :=
  (declarationsOf u k).flatMap Scope.sites

theorem callees?_graphOf_eq_map (solver : Solver) (u : CompilationUnit) (k : String) :
    (solver.graphOf u).callees? k =
      if declarationsOf u k = [] then none else some ((callsUnder u k).map solver.calleeOf) := by
  rw [callees?_graphOf, callsUnder, List.map_flatMap]
  simp only [← calleesOf_eq]

/-- The callers are those of the unit. -/
theorem keys_graphOf_congr (solver solver' : Solver) (u : CompilationUnit) :
    (solver.graphOf u).entries.keys = (solver'.graphOf u).entries.keys := by
  apply KeyMap.keys_congr
  intro k
  exact contains_graphOf.trans contains_graphOf.symm

end Solver

/-- Two graphs of one unit have the same callers in the same order. Each entry lists the same calls, one
signature for each, so that it has the same length; and every call, wherever it is made, is resolved to
a signature with its own name. -/
theorem graph_shape_independent {solver solver' : Solver} (h : solver.Provided)
    (h' : solver'.Provided) (u : CompilationUnit) :
    (solver.graphOf u).entries.keys = (solver'.graphOf u).entries.keys ∧
    (∀ k ∈ (solver.graphOf u).entries.keys, ∃ callees callees',
      (solver.graphOf u).callees? k = some callees ∧
      (solver'.graphOf u).callees? k = some callees' ∧
      callees.length = callees'.length ∧
      callees = (Solver.callsUnder u k).map solver.calleeOf ∧
      callees' = (Solver.callsUnder u k).map solver'.calleeOf) ∧
    ∀ (scope : Scope) (c : Call), (solver.resolve scope c).signature.method = c.name ∧
      (solver'.resolve scope c).signature.method = c.name := by
  refine ⟨Solver.keys_graphOf_congr solver solver' u, ?_, ?_⟩
  · intro k h_key
    obtain ⟨callees, h_callees⟩ := CallGraph.contains_iff.1 (KeyMap.mem_keys_iff.1 h_key)
    have h_declared : Solver.declarationsOf u k ≠ [] := by
      intro h_none
      rw [Solver.callees?_graphOf_eq_map, if_pos h_none] at h_callees
      cases h_callees
    refine ⟨_, _, ?_, ?_, ?_, rfl, rfl⟩
    · rw [Solver.callees?_graphOf_eq_map, if_neg h_declared]
    · rw [Solver.callees?_graphOf_eq_map, if_neg h_declared]
    · rw [List.length_map, List.length_map]
  · intro scope c
    exact ⟨Solver.method_resolve h.keepsNames scope c, Solver.method_resolve h'.keepsNames scope c⟩

/-- The store finds the inherited method that the service calls, and without a store the call is taken
to be of the repository's type; caller, number of calls and name of the callee are the same. -/
theorem service_graph_shape :
    ((SymbolStore.ofUnits Service.units).solver.graphOf (Service.units.getD 1 default)).entries.keys =
      (Solver.blind.graphOf (Service.units.getD 1 default)).entries.keys ∧
    ((SymbolStore.ofUnits Service.units).solver.graphOf (Service.units.getD 1 default)).callees?
      "a.web.Service.run()" = some ["a.data.Named.name()"] ∧
    (Solver.blind.graphOf (Service.units.getD 1 default)).callees? "a.web.Service.run()" =
      some ["a.data.Repo.name()"] ∧
    ((SymbolStore.ofUnits Service.units).solver.resolve Service.scope Service.call).signature.method =
      Service.call.name := by
  obtain ⟨h_keys, -, h_names⟩ := graph_shape_independent
    (.stored (SymbolStore.ofUnits Service.units)) .blind (Service.units.getD 1 default)
  have h_stored : ((SymbolStore.ofUnits Service.units).solver.graphOf
      (Service.units.getD 1 default)).callees? "a.web.Service.run()" =
        some ["a.data.Named.name()"] := by
    decide +kernel
  have h_blind : (Solver.blind.graphOf (Service.units.getD 1 default)).callees?
      "a.web.Service.run()" = some ["a.data.Repo.name()"] := by
    decide +kernel
  exact ⟨h_keys, h_stored, h_blind, (h_names Service.scope Service.call).1⟩

end JavaCallGraph
