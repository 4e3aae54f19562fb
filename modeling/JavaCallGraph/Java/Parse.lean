import JavaCallGraph.Java.Fault
import JavaCallGraph.Java.Outline
import JavaCallGraph.Java.Token.Scan

/-!
# Reading Java files

A text is cut into tokens, read as a tree and reduced to the unit that the tree declares. One fault
anywhere rejects the whole text.

* `Tree.ofSource` — the tree of a text, or the line of its first fault.
* `CompilationUnit.parse` — the unit of a text.
-/

namespace JavaCallGraph.Java

structure ParseError where
  path : String
  line : Nat
  deriving DecidableEq, Repr, Inhabited

def ParseError.message (e : ParseError) : String :=
  "Parse error in " ++ e.path ++ " at line " ++ toString e.line

/-- The tree of a text, or the line of its first fault. -/
def Tree.ofSource (source : String) : Except Nat Tree :=
  let toks := (Token.tokens source).toArray
  match (attempt toks).1 with
  | some (trees, _) =>
    .ok (.node .none .unit (trees.flatMap fun (_, t) =>
      if t.kind == .unit then t.children else [t]))
  | none => .error (faultLine toks)

def CompilationUnit.parse (path source : String) : Except ParseError CompilationUnit :=
  match Tree.ofSource source with
  | .ok tree => .ok (tree.toUnit path source)
  | .error line => .error ⟨path, line⟩

end JavaCallGraph.Java
