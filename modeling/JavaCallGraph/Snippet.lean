import JavaCallGraph.Scope

/-!
# Snippets

The source text of methods by signature: the full lines of the declaration, annotations included.

* `snippetsOf` — the snippets of a unit.
-/

namespace JavaCallGraph

open Java

abbrev SnippetMap := KeyMap String

/-- The snippets of the methods of a unit that can be called by name. Of two declarations with one
signature the first counts, and one whose lines are not in the source has no snippet. -/
def snippetsOf (u : CompilationUnit) : SnippetMap :=
  (Scope.callables u).foldl (fun snippets scope =>
    match u.linesBetween scope.method.startLine scope.method.endLine with
    | some text => snippets.insertNew scope.caller.text text
    | none => snippets) .empty

end JavaCallGraph
