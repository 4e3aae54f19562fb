import JavaCallGraph.AnalysisError
import JavaCallGraph.CallGraph.File
import JavaCallGraph.Format.Json.Read
import JavaCallGraph.Format.Yaml.Node
import JavaCallGraph.Project

/-!
# Output files

An analysis is written to a folder as up to three files: the call graph, the snippets and the endpoints.

* `Analysis.files` — names and texts of the files to write.
* `Disk.writeFile`, `Disk.writeAnalysis` — writing them.
* `Disk.readGraph`, `Disk.readSnippets`, `Disk.graphPath` — reading them back.
-/

namespace JavaCallGraph

/-! ## Writing -/

def graphFile (format : OutputFormat) : String := "dependencies." ++ format.name

def snippetsFile : String := "code.json"

def endpointsFile : String := "api_endpoints.json"

def snippetsJson (snippets : SnippetMap) : Json :=
  .object (snippets.toList.map fun (signature, text) => (signature, .string text))

def Endpoint.toJson (e : Endpoint) : Json :=
  .object [("methodMetadata", .string e.method), ("httpVerb", .string e.verb),
    ("methodPath", .string e.methodPath), ("classMapping", .string e.classPath),
    ("fullPath", .string e.fullPath)]

def Analysis.files (a : Analysis) (output : OutputOptions) : List (String × String) :=
  (if output.dependencies then [(graphFile output.format, a.graph.render output.format)] else []) ++
  (if output.snippets then [(snippetsFile, (snippetsJson a.snippets).pretty ++ "\n")] else []) ++
  (if output.endpoints then
    [(endpointsFile, (Json.array (a.endpoints.map Endpoint.toJson)).pretty ++ "\n")] else [])

/-- Writes a file into a folder, which is made if it is missing: what the disk then holds, and the path
written or why it was not. -/
def Disk.writeFile (d : Disk) (folder name text : String) : Disk × Except AnalysisError String :=
  let path := Path.join folder name
  match d.makeFoldersTo path with
  | (d, .error cause) => (d, .error (.access folder cause))
  | (d, .ok _) =>
    match d.write path text with
    | .error cause => (d, .error (.access path cause))
    | .ok d => (d, .ok path)

def Disk.writeFiles (d : Disk) (folder : String) :
    List (String × String) → Disk × Except AnalysisError (List String)
  | [] => (d, .ok [])
  | (name, text) :: files =>
    match d.writeFile folder name text with
    | (d, .error e) => (d, .error e)
    | (d, .ok path) =>
      let (d, result) := d.writeFiles folder files
      (d, result.map (path :: ·))

def Disk.writeAnalysis (d : Disk) (a : Analysis) (folder : String) (output : OutputOptions) :
    Disk × Except AnalysisError (List String) :=
  d.writeFiles folder (a.files output)

/-! ## Reading -/

def CallGraph.ofJson? (j : Json) : Option CallGraph := do
  let entries ← (← j.object?).mapM fun (caller, callees) => callees.strings?.map (caller, ·)
  return .ofEntries entries

def snippetsOfJson? (j : Json) : Option SnippetMap := do
  let entries ← (← j.object?).mapM fun (signature, text) => text.string?.map (signature, ·)
  return .ofList entries

def Yaml.Node.text? : Yaml.Node → Option String
  | .scalar text _ => some text
  | _ => none

/-- A list of texts; where nothing is written, an empty one. -/
def Yaml.Node.texts? : Yaml.Node → Option (List String)
  | .list items => items.mapM text?
  | .scalar "" true => some []
  | _ => none

def CallGraph.ofYaml? : Yaml.Node → Option CallGraph
  | .map entries => do
    let entries ← entries.mapM fun (caller, callees) => do
      return (← caller.text?, ← callees.texts?)
    return .ofEntries entries
  | .scalar "" true => some .empty
  | _ => none

/-- A graph from the text of a file. A YAML text without documents is an empty graph. -/
def CallGraph.parse (format : OutputFormat) (text : String) : Except AnalysisError CallGraph :=
  match format with
  | .json =>
    match (Json.parse? text).bind ofJson? with
    | some g => .ok g
    | none => .error .json
  | .yaml =>
    let graph? := (Yaml.documents? text).bind fun
      | [] => some .empty
      | [document] => ofYaml? document
      | _ => none
    match graph? with
    | some g => .ok g
    | none => .error .yaml

namespace Disk

/-- The graph in a file, in the format that its ending tells; JSON if it tells none. -/
def readGraph (d : Disk) (path : String) : Except AnalysisError CallGraph := do
  CallGraph.parse ((OutputFormat.ofPath? path).getD .json) (← d.text path)

def readSnippets (d : Disk) (path : String) : Except AnalysisError SnippetMap := do
  match (Json.parse? (← d.text path)).bind snippetsOfJson? with
  | some snippets => return snippets
  | none => throw .json

/-- The file with the call graph in a folder: JSON if it is there, else YAML if that is. -/
def graphPath (d : Disk) (folder : String) : String :=
  let json := Path.join folder (graphFile .json)
  let yaml := Path.join folder (graphFile .yaml)
  if !d.isFile json && d.isFile yaml then yaml else json

end Disk

end JavaCallGraph
