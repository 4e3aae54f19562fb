import JavaCallGraph.Signature

/-!
# Scopes of calls

A call is read in the scope of the method that makes it: the names of its unit, the type that declares
the method, and the method's own variables.

* `Scope.binding` — the declaration that a bare name refers to.
* `Binding.declaredType` — the type that this declaration gives it.
* `Solver` — what may be known about the types of expressions and the targets of calls in a scope.
-/

namespace JavaCallGraph

open Java

structure Scope where
  imports : ImportTable
  /-- The innermost named type that declares the method. -/
  owner : TypeDecl
  method : Method

inductive Binding where
  | localVariable (v : Variable)
  | param (p : Param)
  | field (v : Variable)
  deriving DecidableEq, Repr

/-- The type that is written for a variable. In place of `var` stands the type of the object that the
variable is initialized with, if that is written out. -/
def Java.Variable.declaredType (v : Variable) : Option String :=
  if v.type == "var" then v.constructed else some v.type

/-- The type that is written for a parameter; a variable number of arguments makes an array. -/
def Java.Param.declaredType (p : Param) : String :=
  if p.varargs then TypeName.element p.type ++ "[]" else p.type

def Binding.declaredType : Binding → Option String
  | localVariable v => v.declaredType
  | param p => some p.declaredType
  | field v => v.declaredType

namespace Scope

def ownerName (s : Scope) : String := s.imports.inPackage s.owner.qualifiedName

def caller (s : Scope) : Signature := .declared s.imports s.owner.qualifiedName s.method

/-- The declaration that a bare name refers to: a local variable, else a parameter, else a field. -/
def binding (s : Scope) (name : String) : Option Binding :=
  (s.method.locals.find? (·.name == name)).map .localVariable
  <|> (s.method.params.find? (·.name == name)).map .param
  <|> (s.owner.fields.find? (·.name == name)).map .field

def all (u : CompilationUnit) : List Scope :=
  let imports := ImportTable.ofUnit u
  u.allTypes.flatMap fun owner => owner.methods.map fun m => ⟨imports, owner, m⟩

def callables (u : CompilationUnit) : List Scope :=
  let imports := ImportTable.ofUnit u
  u.callables.map fun (owner, m) => ⟨imports, owner, m⟩

end Scope

structure Target where
  signature : Signature
  returnType : Option String
  deriving DecidableEq, Repr

structure Solver where
  typeOf : Scope → Expr → Option String
  target : Scope → Call → Option Target

def Solver.blind : Solver := ⟨fun _ _ => none, fun _ _ => none⟩

end JavaCallGraph
