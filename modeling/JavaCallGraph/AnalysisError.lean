import JavaCallGraph.Settings

/-!
# Failures of an analysis

* `AnalysisError` — why a project was not analyzed or an output not read.
* `AnalysisError.message` — what is said about it.
* `Disk.loadSettings`, `Disk.discoverSettings` — the settings of a project.
-/

namespace JavaCallGraph

inductive AnalysisError where
  | invalidRoot (path : String)
  | access (path : String) (cause : AccessError)
  | settings (fault : Settings.Fault)
  /-- The settings cannot be read. -/
  | settingsText (path : String)
  | json
  | yaml
  | unknownMethod (signature : String)
  | missingSource (signature : String)
  deriving DecidableEq, Repr

def AnalysisError.message : AnalysisError → String
  | invalidRoot path => "Invalid project root: " ++ path
  | access path cause => "IO error at " ++ path ++ ": " ++ cause.message
  | settings fault => "Invalid configuration: " ++ fault.message
  | settingsText path => "Cannot parse config " ++ path ++ ": not a table of known settings"
  | json => "JSON error: not a value of the expected form"
  | yaml => "YAML error: not a value of the expected form"
  | unknownMethod signature => "Unknown method: " ++ signature
  | missingSource signature => "No source for " ++ signature

namespace Disk

def text (d : Disk) (path : String) : Except AnalysisError String :=
  match d.readText path with
  | .ok text => .ok text
  | .error cause => .error (.access path cause)

def loadSettings (d : Disk) (path : String) : Except AnalysisError Settings := do
  match Settings.ofToml? (← d.text path) with
  | none => throw (.settingsText path)
  | some settings =>
    match settings.fault? with
    | some fault => throw (.settings fault)
    | none => return settings

def settingsFile : String := "calltrail.toml"

/-- The settings in the folder of a project, or the defaults if there are none. -/
def discoverSettings (d : Disk) (root : String) : Except AnalysisError Settings :=
  let path := Path.join root settingsFile
  if d.isFile path then d.loadSettings path else .ok {}

end Disk

end JavaCallGraph
