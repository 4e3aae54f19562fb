import JavaCallGraph.CallGraph
import JavaCallGraph.Format.Json.Write
import JavaCallGraph.Format.Yaml.Write
import JavaCallGraph.OutputFormat

/-!
# Call graph files

* `CallGraph.toJson` — a graph as a JSON object.
* `CallGraph.render` — the text of a graph file.
-/

namespace JavaCallGraph.CallGraph

def toJson (g : CallGraph) : Json :=
  .object (g.entries.toList.map fun (caller, callees) => (caller, .ofStrings callees))

def render (g : CallGraph) : OutputFormat → String
  | .json => g.toJson.pretty ++ "\n"
  | .yaml => Yaml.write g.entries.toList

end JavaCallGraph.CallGraph
