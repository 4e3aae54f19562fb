import JavaCallGraph.KeyMap
import JavaCallGraph.Text.Cut

/-!
# Call graphs

A call graph maps the signature of every method to the signatures of the methods it calls, in the order
of the calls and with repetitions. Callers come in the order of their signatures.

* `CallGraph.extend`, `CallGraph.merge` — more calls of a caller, and all calls of another graph.
* `CallGraph.callees?`, `CallGraph.callers` — who calls whom.
* `CallGraph.callCount`, `CallGraph.unresolvedCount` — numbers of calls.
-/

namespace JavaCallGraph

structure CallGraph where
  entries : KeyMap (List String) := .empty
  deriving Inhabited, BEq

namespace CallGraph

def empty : CallGraph := {}

/-- With `callees` after those that `caller` has. -/
def extend (g : CallGraph) (caller : String) (callees : List String) : CallGraph :=
  ⟨g.entries.modify caller fun old => old.getD [] ++ callees⟩

def merge (g h : CallGraph) : CallGraph :=
  h.entries.toList.foldl (fun g (caller, callees) => g.extend caller callees) g

/-- The graph of a list of entries, of which a later one replaces an earlier one. -/
def ofEntries (entries : List (String × List String)) : CallGraph := ⟨.ofList entries⟩

/-- The methods that `caller` calls; nothing if it is no caller. -/
def callees? (g : CallGraph) (caller : String) : Option (List String) := g.entries.get? caller

def callers (g : CallGraph) (callee : String) : List String :=
  (g.entries.toList.filter fun (_, callees) => callees.contains callee).map Prod.fst

def contains (g : CallGraph) (caller : String) : Bool := g.entries.contains caller

def size (g : CallGraph) : Nat := g.entries.size

def allCallees (g : CallGraph) : List String := g.entries.toList.flatMap Prod.snd

def callCount (g : CallGraph) : Nat := g.allCallees.length

/-- The number of calls of methods of which only the name is known. -/
def unresolvedCount (g : CallGraph) : Nat :=
  g.allCallees.countP (Text.startsWith "UNRESOLVED.UNRESOLVED.")

end CallGraph

end JavaCallGraph
