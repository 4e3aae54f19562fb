import JavaCallGraph.ImportTable

/-!
# Signatures

A signature names a method: its package, its type's path of names, its own name and the qualified types
of its parameters. Its text is the key that the call graph, the snippets and the endpoints share.

* `Signature.text` — `package.Type.method(first, second)`.
* `Signature.declared` — the signature of a declared method.
* `Signature.onType` — a method of a type whose declaration is not known.
* `Signature.unresolved` — a method of which only the name is known.
-/

namespace JavaCallGraph

open Java

structure Signature where
  package : String
  type : String
  method : String
  params : List String
  deriving DecidableEq, Repr, Inhabited

namespace Signature

/-- The package and type of methods of which only the name is known. -/
def unresolvedMark : String := "UNRESOLVED"

def unresolved (method : String) : Signature := ⟨unresolvedMark, unresolvedMark, method, []⟩

def isUnresolved (s : Signature) : Bool :=
  s.package == unresolvedMark && s.type == unresolvedMark

/-- A method of a type that is known by its qualified name only; its parameters are not known. -/
def onType (type method : String) : Signature :=
  let (package, simple) := TypeName.splitQualified type
  ⟨package, simple, method, []⟩

def declared (imports : ImportTable) (owner : String) (m : Method) : Signature :=
  ⟨imports.packageName, owner, m.name, m.params.map fun p => imports.qualify p.type⟩

def qualifiedType (s : Signature) : String := s.package ++ "." ++ s.type

def text (s : Signature) : String :=
  s.package ++ "." ++ s.type ++ "." ++ s.method ++ "(" ++ ", ".intercalate s.params ++ ")"

/-- The parts of a signature in the order in which signatures are compared. -/
def parts (s : Signature) : List String := s.package :: s.type :: s.method :: s.params

instance : LT Signature := ⟨fun a b => a.parts < b.parts⟩

instance (a b : Signature) : Decidable (a < b) := inferInstanceAs (Decidable (a.parts < b.parts))

def sorted (all : List Signature) : List Signature :=
  (all.mergeSort fun a b => !decide (b < a)).eraseDups

end Signature

end JavaCallGraph
