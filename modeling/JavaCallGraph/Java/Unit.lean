import JavaCallGraph.Text.Cut

/-!
# Compilation units

What the analysis keeps of a Java file: its package and imports, and its types with their fields,
methods, annotations and calls. Types of variables and results are kept as they are written.

* `Expr`, `Call` — expressions as far as they matter for calls.
* `Method`, `TypeDecl`, `CompilationUnit` — declarations.
* `TypeDecl.all`, `CompilationUnit.allTypes` — every type of a unit, outer types first.
* `CompilationUnit.linesBetween` — a range of source lines.
-/

namespace JavaCallGraph.Java

/-! ## Expressions -/

inductive Literal where
  | string | char | int | long | float | double | boolean | null | classObject
  deriving DecidableEq, Repr, Inhabited

inductive Expr where
  | name (text : String)
  | this
  | super
  /-- A field of an object, or a part of a dotted name. -/
  | field (object : Expr) (name : String)
  | call (name : String) (receiver : Option Expr) (arguments : List Expr) (line : Nat)
  | creation (type : String)
  | cast (type : String) (value : Expr)
  | literal (form : Literal)
  | other (kind : String)
  deriving Repr, Inhabited

structure Call where
  name : String
  receiver : Option Expr
  arguments : List Expr
  line : Nat
  deriving Repr, Inhabited

def Call.toExpr (c : Call) : Expr := .call c.name c.receiver c.arguments c.line

/-! ## Annotations and variables -/

structure Annotation.Argument where
  key : Option String
  value : String
  deriving DecidableEq, Repr, Inhabited

structure Annotation where
  name : String
  arguments : List Annotation.Argument
  deriving DecidableEq, Repr, Inhabited

namespace Annotation

/-- The first argument that has no key or one of the given keys. -/
def valueOf (a : Annotation) (keys : List String) : Option String :=
  (a.arguments.find? fun arg => arg.key.all keys.contains).map (·.value)

def valueAt (a : Annotation) (key : String) : Option String :=
  (a.arguments.find? fun arg => arg.key == some key).map (·.value)

end Annotation

/-- A field or local variable. `constructed` is the type of the object it is initialized with, if
that is written in place. -/
structure Variable where
  name : String
  type : String
  constructed : Option String
  deriving DecidableEq, Repr, Inhabited

structure Param where
  name : String
  type : String
  varargs : Bool
  deriving DecidableEq, Repr, Inhabited

/-! ## Declarations -/

structure Method where
  name : String
  returnType : Option String
  params : List Param
  locals : List Variable
  calls : List Call
  annotations : List Annotation
  isConstructor : Bool
  hasBody : Bool
  startLine : Nat
  endLine : Nat
  deriving Repr, Inhabited

def Method.isVarargs (m : Method) : Bool := m.params.getLast?.any (·.varargs)

inductive TypeKind where
  | classType | interfaceType | enumType | recordType
  deriving DecidableEq, Repr, Inhabited

/-- A type declaration with the types nested in it. `qualifiedName` is its path of names from the
outermost type, without the package. -/
structure TypeDecl where
  name : String
  qualifiedName : String
  kind : TypeKind
  superclass : Option String
  interfaces : List String
  annotations : List Annotation
  fields : List Variable
  methods : List Method
  types : List TypeDecl
  startLine : Nat
  endLine : Nat
  deriving Repr, Inhabited

mutual

def TypeDecl.all : TypeDecl → List TypeDecl
  | d@⟨_, _, _, _, _, _, _, _, types, _, _⟩ => d :: TypeDecl.allOf types

def TypeDecl.allOf : List TypeDecl → List TypeDecl
  | [] => []
  | d :: ds => d.all ++ TypeDecl.allOf ds

end

/-- The methods of a type that can be called by name. -/
def TypeDecl.callables (d : TypeDecl) : List Method := d.methods.filter (!·.isConstructor)

structure Import where
  path : String
  isStatic : Bool
  isWildcard : Bool
  deriving DecidableEq, Repr, Inhabited

structure CompilationUnit where
  path : String
  source : String
  package : Option String
  imports : List Import
  types : List TypeDecl
  deriving Repr, Inhabited

namespace CompilationUnit

/-- Every type of the unit, each before the types nested in it. -/
def allTypes (u : CompilationUnit) : List TypeDecl := TypeDecl.allOf u.types

def callables (u : CompilationUnit) : List (TypeDecl × Method) :=
  u.allTypes.flatMap fun d => d.callables.map (d, ·)

/-- The source lines from `start` to `stop`, both included and counted from one; nothing if there are
no such lines. -/
def linesBetween (u : CompilationUnit) (start stop : Nat) : Option String :=
  let all := Text.lines u.source
  if start == 0 || start > stop || stop > all.length then none
  else some ("\n".intercalate ((all.drop (start - 1)).take (stop + 1 - start)))

end CompilationUnit

end JavaCallGraph.Java
