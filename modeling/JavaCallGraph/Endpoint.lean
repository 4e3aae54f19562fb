import JavaCallGraph.Scope

/-!
# HTTP endpoints

A controller is a type with a controller annotation; its methods with a mapping annotation handle HTTP
requests.

* `joinPaths` — the path of a handler below that of its controller.
* `Endpoint.ofUnit` — the endpoints that a unit declares.
-/

namespace JavaCallGraph

open Java

structure Endpoint where
  method : String
  verb : String
  methodPath : String
  /-- The path that is given at the controller; empty if there is none. -/
  classPath : String
  fullPath : String
  deriving DecidableEq, Repr, Inhabited

/-! ## Paths -/

/-- The path `b` below the path `a`, with one slash between them; just `b` if `a` is empty. -/
def joinPaths (a b : String) : String :=
  if a.isEmpty then b
  else String.ofList (Text.dropTrailing '/' a.toList) ++ "/" ++
    String.ofList (b.toList.dropWhile (· == '/'))

/-- Without one quote in front and one at the end. -/
def unquote (s : String) : String :=
  let s := (Text.dropStart? "\"" s).getD s
  (Text.dropEnd? "\"" s).getD s

/-- The first element of an array initializer, or the text itself if it is none. -/
def firstElement (raw : String) : String :=
  match Text.dropStart? "\x7b" raw with
  | some list =>
    let inner := String.ofList (Text.dropTrailing '\x7d' list.toList)
    Text.trimText (((Text.cutFirst ',' inner).map Prod.fst).getD inner)
  | none => raw

/-- The path that a mapping gives: the first of its array, without quotes. -/
def mappingPath? (mapping : Annotation) : Option String :=
  (mapping.valueOf ["path", "value"]).map fun raw => unquote (firstElement (Text.trimText raw))

/-! ## Verbs -/

def verbMappings : List (String × String) :=
  [("GetMapping", "GET"), ("PostMapping", "POST"), ("PutMapping", "PUT"),
    ("DeleteMapping", "DELETE"), ("PatchMapping", "PATCH")]

def requestMapping : String := "RequestMapping"

/-- The verbs that a mapping may name, in the order in which they are looked for. -/
def requestVerbs : List String := ["GET", "POST", "PUT", "DELETE", "PATCH"]

/-- The verb of a mapping; nothing if it is no mapping. A mapping that names no verb takes all. -/
def verbOf? (mapping : Annotation) : Option String :=
  if mapping.name == requestMapping then
    some (((mapping.valueAt "method").bind fun value =>
      requestVerbs.find? (Text.mentions · value)).getD "ALL")
  else verbMappings.lookup mapping.name

/-! ## Endpoints -/

def isController (d : TypeDecl) : Bool :=
  d.annotations.any fun a => a.name == "RestController" || a.name == "Controller"

/-- The path of a controller: that of its first mapping. -/
def controllerPath (d : TypeDecl) : String :=
  ((d.annotations.find? (·.name == requestMapping)).bind mappingPath?).getD ""

/-- The endpoint of a method: its first mapping counts. -/
def Endpoint.ofScope? (scope : Scope) : Option Endpoint := do
  let (verb, mapping) ← scope.method.annotations.findSome? fun a => (verbOf? a).map (·, a)
  let methodPath := (mappingPath? mapping).getD ""
  let classPath := controllerPath scope.owner
  return ⟨scope.caller.text, verb, methodPath, classPath, joinPaths classPath methodPath⟩

def Endpoint.ofUnit (u : CompilationUnit) : List Endpoint :=
  ((Scope.callables u).filter fun scope => isController scope.owner).filterMap ofScope?

end JavaCallGraph
