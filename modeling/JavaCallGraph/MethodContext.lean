import JavaCallGraph.ResultFiles

/-!
# Context of a method

The source of a method with the sources of the methods that it calls.

* `MethodContext.build` — the context from a call graph and snippets.
* `Disk.loadContext` — the context from an output folder.
-/

namespace JavaCallGraph

structure MethodContext where
  signature : String
  code : String
  dependencies : KeyMap String
  deriving Inhabited

namespace MethodContext

/-- The context of a method. Callees without a source are left out. -/
def build (signature : String) (graph : CallGraph) (snippets : SnippetMap) :
    Except AnalysisError MethodContext := do
  match graph.callees? signature with
  | none => throw (.unknownMethod signature)
  | some callees =>
    match snippets.get? signature with
    | none => throw (.missingSource signature)
    | some code =>
      let sources := callees.filterMap fun callee => (snippets.get? callee).map (callee, ·)
      return ⟨signature, code, .ofList sources⟩

def dependenciesJson (c : MethodContext) : Json := snippetsJson c.dependencies

def toJson (c : MethodContext) : Json :=
  .object [("signature", .string c.signature), ("code", .string c.code),
    ("dependencies", c.dependenciesJson)]

end MethodContext

def Disk.loadContext (d : Disk) (folder signature : String) : Except AnalysisError MethodContext := do
  let graph ← d.readGraph (d.graphPath folder)
  let snippets ← d.readSnippets (Path.join folder snippetsFile)
  MethodContext.build signature graph snippets

end JavaCallGraph
