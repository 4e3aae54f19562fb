import JavaCallGraph.CallGraph.Digraph
import JavaCallGraph.CommandLine.Read
import JavaCallGraph.MethodContext

/-!
# Commands

Each command is a function on the files that it can reach: it answers with the files as it leaves them
and with what it found.

* `Command`, `Request.ofArguments` — the commands and the arguments that call for them.
* `Command.run` — what a command does.
* `Answer`, `CommandError` — what it says.
* `Outcome.ofResult` — how that is printed.
-/

namespace JavaCallGraph

open CommandLine

/-- What to analyze, and the settings that take the place of those in a file. -/
structure AnalyzeOptions where
  root : String
  output : String := "."
  libraries : List String := []
  format : Option OutputFormat := none
  threads : Option Nat := none
  noSnippets : Bool := false
  noEndpoints : Bool := false
  settings : Option String := none
  deriving DecidableEq, Repr

inductive Command where
  | analyze (options : AnalyzeOptions)
  | callees (graph signature : String) (depth : Nat)
  | callers (graph signature : String)
  | context (folder signature : String)
  deriving DecidableEq, Repr

/-! ## Arguments -/

def AnalyzeOptions.ofMatches (m : Matches) (root : String) : AnalyzeOptions where
  root := root
  output := (m.value? "output").getD "."
  libraries := m.valuesOf "lib"
  format := (m.value? "format").bind fun name => (OutputFormat.ofName name).toOption
  threads := (m.value? "threads").bind number?
  noSnippets := m.has "no-snippets"
  noEndpoints := m.has "no-endpoints"
  settings := m.value? "config"

def Command.ofMatches? (name : String) (m : Matches) : Option Command :=
  match name, m.values with
  | "analyze", [root] => some (.analyze (.ofMatches m root))
  | "callees", [graph, signature] =>
    some (.callees graph signature (((m.value? "depth").bind number?).getD 1))
  | "callers", [graph, signature] => some (.callers graph signature)
  | "context", [folder, signature] => some (.context folder signature)
  | _, _ => none

structure Request where
  command : Command
  json : Bool
  deriving DecidableEq, Repr

def Request.ofArguments (args : List String) : Except Stop Request := do
  let (spec, m) ← readArguments args
  match Command.ofMatches? spec.name m with
  | some command => return ⟨command, m.has jsonOption.long⟩
  | none => throw .misuse

/-! ## Failures -/

inductive CommandError where
  | root (path : String) (cause : AccessError)
  | settings (path : String) (cause : AnalysisError)
  | projectSettings (cause : AnalysisError)
  | analysis (cause : AnalysisError)
  | output (path : String) (cause : AnalysisError)
  | zeroDepth
  | graph (path : String) (cause : AnalysisError)
  | unknownCaller (signature : String)
  | notFound (cause : CallGraph.SignatureNotFound)
  | context (signature folder : String) (cause : AnalysisError)

namespace CommandError

def message : CommandError → String
  | root path _ => "Invalid project root " ++ path
  | settings path _ => "Failed to load config " ++ path
  | projectSettings _ => "Failed to load project config"
  | analysis cause => cause.message
  | output path _ => "Failed to write results to " ++ path
  | zeroDepth => "--depth must be at least 1"
  | graph path _ => "Failed to read call graph " ++ path
  | unknownCaller signature => "Unknown caller " ++ signature
  | notFound cause => cause.message
  | context signature folder _ => "Failed to load " ++ signature ++ " from " ++ folder

def cause? : CommandError → Option String
  | root _ cause => some cause.message
  | settings _ cause | projectSettings cause | output _ cause | graph _ cause | context _ _ cause =>
    some cause.message
  | analysis _ | zeroDepth | unknownCaller _ | notFound _ => none

end CommandError

/-! ## Running -/

inductive Answer where
  | analysis (report : Report) (written : List String)
  | signatures (found : List String)
  | reached (rows : List (String × Nat))
  | context (context : MethodContext)

/-- The settings with those of the options put on top. -/
def AnalyzeOptions.adjust (o : AnalyzeOptions) (c : Settings) : Settings :=
  { c with
    libraryPaths := c.libraryPaths ++ o.libraries
    threads := o.threads.getD c.threads
    output := { c.output with
      format := o.format.getD c.output.format
      snippets := c.output.snippets && !o.noSnippets
      endpoints := c.output.endpoints && !o.noEndpoints } }

namespace Disk

def settingsFor (d : Disk) (o : AnalyzeOptions) (root : String) : Except CommandError Settings :=
  match o.settings with
  | some path => ((d.loadSettings path).mapError (CommandError.settings path)).map o.adjust
  | none => ((d.discoverSettings root).mapError CommandError.projectSettings).map o.adjust

/-- The analysis that options ask for, with the settings that say what to write. -/
def analysisFor (d : Disk) (o : AnalyzeOptions) : Except CommandError (Analysis × OutputOptions) := do
  let root ← (d.canonical o.root).mapError (CommandError.root o.root)
  let settings ← d.settingsFor o root
  let analysis ← (d.analyze root settings).mapError CommandError.analysis
  return (analysis, settings.output)

def runAnalyze (d : Disk) (o : AnalyzeOptions) : Disk × Except CommandError Answer :=
  match d.analysisFor o with
  | .error e => (d, .error e)
  | .ok (analysis, output) =>
    let (d, written) := d.writeAnalysis analysis o.output output
    (d, (written.mapError (CommandError.output o.output)).map (Answer.analysis analysis.report))

def listCallees (d : Disk) (path signature : String) (depth : Nat) : Except CommandError Answer := do
  if depth == 0 then throw .zeroDepth
  let graph ← (d.readGraph path).mapError (CommandError.graph path)
  if depth == 1 then
    match graph.callees? signature with
    | some callees => return .signatures callees
    | none => throw (.unknownCaller signature)
  else
    let rows ← (graph.transitiveCallees signature depth).mapError CommandError.notFound
    return .reached rows

def listCallers (d : Disk) (path signature : String) : Except CommandError Answer := do
  let graph ← (d.readGraph path).mapError (CommandError.graph path)
  return .signatures (graph.callers signature)

def showContext (d : Disk) (folder signature : String) : Except CommandError Answer :=
  ((d.loadContext folder signature).mapError (CommandError.context signature folder)).map Answer.context

end Disk

/-- Runs a command: the files as it leaves them, and what it found. -/
def Command.run (d : Disk) : Command → Disk × Except CommandError Answer
  | analyze options => d.runAnalyze options
  | callees graph signature depth => (d, d.listCallees graph signature depth)
  | callers graph signature => (d, d.listCallers graph signature)
  | context folder signature => (d, d.showContext folder signature)

/-! ## Printing -/

structure Outcome where
  code : Nat
  stdout : String
  stderr : String
  deriving DecidableEq, Repr

def unlines (lines : List String) : String := String.join (lines.map (· ++ "\n"))

def summary (r : Report) (written : List String) : List String :=
  ["Analyzed " ++ toString r.unitsAnalyzed ++ " of " ++ toString r.filesScanned ++ " files: " ++
    toString r.methods ++ " methods, " ++ toString r.calls ++ " calls, " ++
    toString r.unresolvedCalls ++ " unresolved"] ++
  (if r.failedFiles == 0 then []
    else ["Skipped " ++ toString r.failedFiles ++ " files (run with --verbose for details)"]) ++
  written.map ("Wrote " ++ ·)

namespace Answer

/-- An answer as JSON. A report holds the time that the analysis took. -/
def toJson (elapsed : Nat) : Answer → Json
  | analysis report _ => report.toJson elapsed
  | signatures found => .ofStrings found
  | reached rows => .array (rows.map fun (signature, depth) =>
      .object [("depth", .ofNat depth), ("signature", .string signature)])
  | context c => c.toJson

/-- An answer as lines of text. What an analysis found is in the files that it wrote. -/
def lines : Answer → List String
  | analysis _ _ => []
  | signatures found => found
  | reached rows => rows.map fun (signature, depth) => toString depth ++ "\t" ++ signature
  | context c => [c.code, "", c.dependenciesJson.pretty]

def remarks : Answer → List String
  | analysis report written => summary report written
  | _ => []

end Answer

namespace Outcome

def ofAnswer (json : Bool) (elapsed : Nat) (a : Answer) : Outcome :=
  if json then ⟨0, (a.toJson elapsed).pretty ++ "\n", ""⟩
  else ⟨0, unlines a.lines, unlines a.remarks⟩

def ofError (e : CommandError) : Outcome :=
  let cause := (e.cause?.map fun text => ["", "Caused by:", "    " ++ text]).getD []
  ⟨1, "", unlines (("Error: " ++ e.message) :: cause)⟩

def ofResult (json : Bool) (elapsed : Nat) : Except CommandError Answer → Outcome
  | .ok a => ofAnswer json elapsed a
  | .error e => ofError e

def ofStop : Stop → Outcome
  | .misuse => ⟨2, "", "error: invalid arguments\n\nFor more information, try '--help'.\n"⟩
  | .print text => ⟨0, text, ""⟩

end Outcome

end JavaCallGraph
