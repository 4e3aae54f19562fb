import JavaCallGraph.Path

/-!
# Formats of call graph files

* `OutputFormat.ofName` — a format by its name.
* `OutputFormat.ofPath?` — the format that the ending of a path tells.
-/

namespace JavaCallGraph

inductive OutputFormat where
  | json
  | yaml
  deriving DecidableEq, Repr, Inhabited

structure UnknownFormat where
  name : String
  deriving DecidableEq, Repr

def UnknownFormat.message (e : UnknownFormat) : String := "unknown output format: " ++ e.name

namespace OutputFormat

/-- The name of a format, which is also the ending of its files. -/
def name : OutputFormat → String
  | json => "json"
  | yaml => "yaml"

def ofLowerName? : String → Option OutputFormat
  | "json" => some json
  | "yaml" => some yaml
  | "yml" => some yaml
  | _ => none

/-- The format of a name; the case of letters from A to Z does not matter. -/
def ofName (name : String) : Except UnknownFormat OutputFormat :=
  match ofLowerName? name.toLower with
  | some format => .ok format
  | none => .error ⟨name.toLower⟩

def ofPath? (path : String) : Option OutputFormat :=
  (Path.extension? path).bind fun ending => (ofName ending).toOption

end OutputFormat

end JavaCallGraph
