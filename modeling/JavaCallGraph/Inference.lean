import JavaCallGraph.Scope

/-!
# Types of receivers

Where a solver cannot tell the type of a receiver, its form may still suggest one. The first suggestion
counts, and every type carries the tier it came from.

* `Tier` — where a type came from, most reliable first.
* `typeByMethodName?` — the collection that a method name alone suggests as its result.
* `Solver.infer` — the type of a receiver.
-/

namespace JavaCallGraph

open Java

/-! ## Tiers -/

/-- Where the type of a receiver came from, most reliable first. -/
inductive Tier where
  | exact
  /-- The receiver is a call of a method whose name suggests it. -/
  | heuristic
  | imported
  | localVariable
  | constructed
  deriving DecidableEq, Repr, Inhabited

namespace Tier

def all : List Tier := [exact, heuristic, imported, localVariable, constructed]

def label : Tier → String
  | exact => "exact"
  | heuristic => "heuristic"
  | imported => "imported"
  | localVariable => "local_variable"
  | constructed => "constructed"

end Tier

/-! ## Names that suggest a result -/

/-- Is `name` the text `start`, some word characters and then `stop`? -/
def spans (start stop name : String) : Bool :=
  ((Text.dropStart? start name).bind (Text.dropEnd? stop)).any (·.toList.all Text.isWordChar)

/-- Names of getters and conversions that end in the kind of collection, names of look-ups of all
elements, and streams; each with the type of its result. The first that accepts a name counts. -/
def namingRules : List ((String → Bool) × String) :=
  [(fun name => ["to", "as", "get", "find", "load", "fetch", "list", "read"].any
      (spans · "List" name), "java.util.List"),
    (fun name => ["to", "as", "get"].any (spans · "Set" name) || spans "" "keySet" name
      || spans "" "KeySet" name || name == "entrySet", "java.util.Set"),
    (fun name => ["to", "as", "get"].any (spans · "Map" name), "java.util.Map"),
    (fun name => ["findAll", "getAll", "loadAll", "fetchAll", "listAll", "queryAll", "readAll"].any
      (Text.startsWith · name), "java.util.List"),
    (fun name => name == "stream" || name == "parallelStream", "java.util.stream.Stream")]

def typeByMethodName? (name : String) : Option String :=
  (namingRules.find? fun rule => rule.1 name).map Prod.snd

/-! ## Inference -/

structure TypeHint where
  type : String
  tier : Tier
  deriving DecidableEq, Repr, Inhabited

def Solver.exactHint (solver : Solver) (scope : Scope) (e : Expr) : Option TypeHint :=
  (solver.typeOf scope e).map (⟨·, .exact⟩)

/-- The type of a bare name that the solver does not know: an imported type, unless a variable has that
name, or the declared type of that variable. -/
def Scope.nameHint (scope : Scope) (name : String) : Option TypeHint :=
  match scope.binding name with
  | some binding => binding.declaredType.map fun raw => ⟨scope.imports.qualify raw, .localVariable⟩
  | none => (scope.imports.lookup name).map (⟨·, .imported⟩)

mutual

/-- The type of an expression that calls are made on. A call that the solver does not know is typed by
its name, or else by what it is made on itself. -/
def Solver.inferExpr (solver : Solver) (scope : Scope) : Expr → Option TypeHint
  | .call name receiver arguments line =>
    solver.exactHint scope (.call name receiver arguments line)
    <|> (typeByMethodName? name).map (⟨·, .heuristic⟩)
    <|> Solver.infer solver scope receiver
  | .name text => solver.exactHint scope (.name text) <|> scope.nameHint text
  | .creation type =>
    solver.exactHint scope (.creation type)
    <|> some ⟨scope.imports.qualify type, .constructed⟩
  | e => solver.exactHint scope e

def Solver.infer (solver : Solver) (scope : Scope) : Option Expr → Option TypeHint
  | none => none
  | some receiver => Solver.inferExpr solver scope receiver

end

end JavaCallGraph
