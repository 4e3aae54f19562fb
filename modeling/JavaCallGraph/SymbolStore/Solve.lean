import JavaCallGraph.SymbolStore

/-!
# Types of expressions and targets of calls

What the store can tell about an expression in a scope. A type is told only if it is known, and a call
is resolved only if one method is left: no overload is guessed.

* `SymbolStore.fieldType?` — the type of a field, own or inherited.
* `SymbolStore.findMethod?` — the method of a type that a name and argument types select.
* `SymbolStore.typeOf` — the type of an expression.
* `SymbolStore.target` — the method that a call reaches.
* `SymbolStore.solver` — both as a solver.
-/

namespace JavaCallGraph

open Java

namespace SymbolStore

/-! ## Fields and types by name -/

/-- Fields of platform types that calls are often made on: type, field, type of the field. -/
def platformFields : List ((String × String) × String) :=
  [(("java.lang.System", "out"), "java.io.PrintStream"),
    (("java.lang.System", "err"), "java.io.PrintStream"),
    (("java.lang.System", "in"), "java.io.InputStream")]

/-- The type of a field of a type: of the nearest declaration in the hierarchy, if it is known. -/
def fieldType? (store : SymbolStore) (owner field : String) : Option String :=
  match platformFields.lookup (TypeName.base owner, field) with
  | some type => some type
  | none =>
    ((store.hierarchy (TypeName.base owner)).findSome? (·.fields.get? field)).filter store.isKnown

/-- The known type that a name denotes when no variable has that name: its last segment starts with an
upper-case letter from A to Z. -/
def namedType? (store : SymbolStore) (scope : Scope) (name : String) : Option String :=
  if (Text.afterLast '.' name).toList.head?.any Char.isUpper then
    store.resolveName scope.imports name
  else none

def dottedName? : Expr → Option String
  | .name text => some text
  | .field object name => (dottedName? object).map fun path => path ++ "." ++ name
  | _ => none

/-- The stored type that an expression spells: a bare name must not be that of a variable or field. -/
def spelledType? (store : SymbolStore) (scope : Scope) (e : Expr) : Option String :=
  let name := match e with
    | .name text =>
      if (scope.binding text).isSome || (store.fieldType? scope.ownerName text).isSome then none
      else some text
    | .field _ _ => dottedName? e
    | _ => none
  (name.bind (store.namedType? scope)).filter fun type => (store.typeEntry? type).isSome

/-! ## Overloads -/

/-- Does no argument contradict the parameters of `m`? One of unknown type never does, and one of
known type does unless the parameter's base type is the same or `java.lang.Object`. -/
def fits (m : MethodEntry) (argTypes : List (Option String)) : Bool :=
  argTypes.zipIdx.all fun (arg, index) =>
    match arg, m.paramAt? index with
    | some arg, some param =>
      TypeName.base arg == TypeName.base param || TypeName.base param == "java.lang.Object"
    | _, _ => true

/-- The methods of this name in the hierarchy of a type that take this many arguments, nearest first.
A method hides those with the same parameters after it. -/
def candidates (store : SymbolStore) (owner name : String) (arity : Nat) :
    List (TypeEntry × MethodEntry) :=
  ((store.hierarchy owner).flatMap fun entry => entry.methods.map (entry, ·)).filter
    (fun (_, m) => m.name == name && m.acceptsArity arity)
    |>.eraseDupsBy fun a b => a.2.params == b.2.params

/-- The one of several methods that the types of the arguments leave. -/
def select (argTypes : List (Option String)) :
    List (TypeEntry × MethodEntry) → Option (TypeEntry × MethodEntry)
  | [] => none
  | [only] => some only
  | several =>
    match several.filter fun (_, m) => fits m argTypes with
    | [only] => some only
    | _ => none

def toTarget (store : SymbolStore) (entry : TypeEntry) (m : MethodEntry) : Target where
  signature := ⟨entry.package, entry.type, m.name, m.params⟩
  returnType := m.returnType.filter fun type => type != "void" && store.isKnown type

def findMethod? (store : SymbolStore) (owner name : String) (argTypes : List (Option String)) :
    Option Target :=
  (select argTypes (store.candidates owner name argTypes.length)).map fun (entry, m) =>
    store.toTarget entry m

/-! ## Expressions -/

def literalType? : Literal → Option String
  | .string => some "java.lang.String"
  | .char => some "char"
  | .int => some "int"
  | .long => some "long"
  | .float => some "float"
  | .double => some "double"
  | .boolean => some "boolean"
  | .classObject => some "java.lang.Class"
  | .null => none

/-- The type of a bare name: that of the variable it refers to, else that of an inherited field, else
the type of that name. -/
def nameType? (store : SymbolStore) (scope : Scope) (name : String) : Option String :=
  match scope.binding name with
  | some binding => binding.declaredType.bind (store.resolveName scope.imports)
  | none => store.fieldType? scope.ownerName name <|> store.namedType? scope name

/-- The types on which a call without a receiver is looked up, in order: the enclosing type, the owner
of a static import of that name, the types all whose static members are imported. -/
def bareOwners (scope : Scope) (name : String) : List String :=
  scope.ownerName :: (scope.imports.staticOwner name).toList ++ scope.imports.staticWildcards

mutual

def typeOf (store : SymbolStore) (scope : Scope) : Expr → Option String
  | .this => some scope.ownerName
  | .super => store.superclass? scope.ownerName
  | .name text => store.nameType? scope text
  | .field object name =>
    (typeOf store scope object).bind (store.fieldType? · name)
    <|> (dottedName? (.field object name)).bind (store.namedType? scope)
  | .call name receiver arguments _ =>
    ((owners store scope name receiver).findSome? fun owner =>
      store.findMethod? owner name (typesOf store scope arguments)).bind (·.returnType)
  | .creation type => store.resolveName scope.imports type
  | .cast type _ => store.resolveName scope.imports type
  | .literal form => literalType? form
  | .other _ => none

def typesOf (store : SymbolStore) (scope : Scope) : List Expr → List (Option String)
  | [] => []
  | e :: es => typeOf store scope e :: typesOf store scope es

/-- The types on which a call of `name` is looked up, in order. With a receiver it is one at most: the
type that the receiver spells, or else the type that it has. -/
def owners (store : SymbolStore) (scope : Scope) (name : String) : Option Expr → List String
  | none => bareOwners scope name
  | some receiver =>
    (store.spelledType? scope receiver <|> typeOf store scope receiver).toList

end

def target (store : SymbolStore) (scope : Scope) (c : Call) : Option Target :=
  (store.owners scope c.name c.receiver).findSome? fun owner =>
    store.findMethod? owner c.name (store.typesOf scope c.arguments)

def solver (store : SymbolStore) : Solver := ⟨store.typeOf, store.target⟩

end SymbolStore

end JavaCallGraph
