import JavaCallGraph.CallGraph

/-!
# Call graphs as directed graphs

A call graph as a set of nodes and a set of edges, and how far apart its nodes are.

* `CallGraph.toDigraph` — one node per signature and one edge per pair of caller and callee.
* `CallGraph.transitiveCallees` — what is reached from a signature, nearest first.
-/

namespace JavaCallGraph

structure Digraph where
  nodes : List String
  edges : List (String × String)
  deriving DecidableEq, Repr, Inhabited

namespace Digraph

def index? (d : Digraph) (name : String) : Option Nat := d.nodes.idxOf? name

def hasEdgeFrom (d : Digraph) (sources : List String) (node : String) : Bool :=
  sources.any fun source => d.edges.contains (source, node)

/-- The `unseen` nodes that at most `depth` steps reach from the `frontier`, which is `distance` steps
away from the start: those one step away, then what is reached from there. -/
def reach (d : Digraph) :
    (depth : Nat) → (unseen frontier : List String) → (distance : Nat) → List (String × Nat)
  | 0, _, _, _ => []
  | depth + 1, unseen, frontier, distance =>
    match unseen.filter (d.hasEdgeFrom frontier) with
    | [] => []
    | next =>
      next.map (·, distance + 1) ++
        reach d depth (unseen.filter (!d.hasEdgeFrom frontier ·)) next (distance + 1)

end Digraph

namespace CallGraph

/-- The signatures of a graph as they occur, callers in order and each before its callees. -/
def occurrences (g : CallGraph) : List String :=
  g.entries.toList.flatMap fun (caller, callees) => caller :: callees

def calls (g : CallGraph) : List (String × String) :=
  g.entries.toList.flatMap fun (caller, callees) => callees.map (caller, ·)

/-- One node per signature and one edge per pair of caller and callee, in the order in which they first
occur; neither is repeated. -/
def toDigraph (g : CallGraph) : Digraph := ⟨g.occurrences.eraseDups, g.calls.eraseDups⟩

structure SignatureNotFound where
  signature : String
  deriving DecidableEq, Repr

def SignatureNotFound.message (e : SignatureNotFound) : String :=
  "Signature not found: " ++ e.signature

/-- Everything that at most `depth` calls reach from a signature, with the number of calls it takes:
nearest first, and those at one distance in order. The signature itself is left out. -/
def transitiveCallees (g : CallGraph) (signature : String) (depth : Nat) :
    Except SignatureNotFound (List (String × Nat)) :=
  let d := g.toDigraph
  if d.nodes.contains signature then
    let unseen := (d.nodes.filter (· != signature)).mergeSort fun a b => !decide (b < a)
    .ok (d.reach depth unseen [signature] 0)
  else .error ⟨signature⟩

end CallGraph

end JavaCallGraph
