import JavaCallGraph.CallGraph
import JavaCallGraph.Resolution

/-!
# Call graphs of units

* `Solver.callsOf` — the resolved calls of a method.
* `Solver.graphOf`, `Solver.tallyOf` — the call graph of a unit and the count of its calls.

Constructors are no callers. Two declarations with one signature share an entry.
-/

namespace JavaCallGraph

open Java

def Solver.callsOf (solver : Solver) (scope : Scope) : List Resolution :=
  scope.method.calls.map (solver.resolve scope)

/-- The calls of each method of a unit that can be called by name. -/
def Solver.callersOf (solver : Solver) (u : CompilationUnit) :
    List (Signature × List Resolution) :=
  (Scope.callables u).map fun scope => (scope.caller, solver.callsOf scope)

def Solver.graphOf (solver : Solver) (u : CompilationUnit) : CallGraph :=
  (solver.callersOf u).foldl
    (fun g (caller, calls) => g.extend caller.text (calls.map (·.signature.text))) .empty

def Solver.tallyOf (solver : Solver) (u : CompilationUnit) : Tally :=
  (solver.callersOf u).foldl (fun t (_, calls) => t.addMethod (calls.map (·.route))) {}

end JavaCallGraph
