import JavaCallGraph.AnalysisError
import JavaCallGraph.CallGraph.Build
import JavaCallGraph.Endpoint
import JavaCallGraph.Java.Parse
import JavaCallGraph.Library
import JavaCallGraph.Report
import JavaCallGraph.Snippet
import JavaCallGraph.SymbolStore.Solve

/-!
# Analyzing a project

A project is analyzed in two passes: all its files are read and their types stored, then the calls of
each unit are resolved against the store. A file that cannot be read is reported and left out.

* `Disk.loadUnit`, `LoadedFiles` — reading files.
* `Libraries` — what libraries add to the store.
* `Analysis.ofUnits` — the analysis of units against a store.
* `Disk.analyze` — the analysis of a folder.
-/

namespace JavaCallGraph

open Java

/-! ## Files -/

inductive LoadError where
  | unreadable (path : String) (cause : AccessError)
  | invalid (error : ParseError)
  deriving DecidableEq, Repr

def Disk.loadUnit (d : Disk) (path : String) : Except LoadError CompilationUnit :=
  match d.readText path with
  | .error cause => .error (.unreadable path cause)
  | .ok source =>
    match CompilationUnit.parse path source with
    | .ok u => .ok u
    | .error e => .error (.invalid e)

def LoadError.parseFailure? : LoadError → Option FileFailure
  | unreadable _ _ => none
  | invalid e => some ⟨e.path, some e.line, e.message⟩

def LoadError.ioFailure? : LoadError → Option FileFailure
  | unreadable path cause =>
    some ⟨path, none, "IO error reading " ++ path ++ ": " ++ cause.message⟩
  | invalid _ => none

structure LoadedFiles where
  units : List CompilationUnit
  parseFailures : List FileFailure
  ioFailures : List FileFailure

def Disk.loadFiles (d : Disk) (paths : List String) : LoadedFiles :=
  let results := paths.map d.loadUnit
  let errors := results.filterMap fun
    | .ok _ => none
    | .error e => some e
  { units := results.filterMap Except.toOption
    parseFailures := errors.filterMap LoadError.parseFailure?
    ioFailures := errors.filterMap LoadError.ioFailure? }

/-! ## Libraries -/

structure Libraries where
  store : SymbolStore
  units : Nat := 0
  types : Nat := 0
  failures : List FileFailure := []

/-- With the library at a path: the units of a folder, or the types of an archive. -/
def Disk.addLibrary (d : Disk) (options : ScanOptions) (l : Libraries) (path : String) : Libraries :=
  if d.isFolder path then
    let loaded := d.loadFiles (d.scan options path)
    { l with
      store := loaded.units.foldl SymbolStore.addUnit l.store
      units := l.units + loaded.units.length
      failures := l.failures ++ loaded.parseFailures ++ loaded.ioFailures }
  else
    match d.addArchive l.store path with
    | (store, .ok added) => { l with store, types := l.types + added }
    | (store, .error e) => { l with store, failures := l.failures ++ [⟨path, none, e.message⟩] }

/-- The path of a library, which is read from the root of the project. -/
def Disk.libraryPath (d : Disk) (root path : String) : String :=
  if d.isAbsolute path then path else Path.join root path

/-! ## Analysis -/

structure Analysis where
  graph : CallGraph := .empty
  snippets : SnippetMap := .empty
  endpoints : List Endpoint := []
  report : Report := {}
  deriving Inhabited

/-- The snippets of some units; of two with one signature the first counts. -/
def mergedSnippets (units : List CompilationUnit) : SnippetMap :=
  (units.map snippetsOf).foldl KeyMap.union .empty

/-- The analysis of some units with a solver. What is not to be written is not collected. -/
def Analysis.ofUnits (solver : Solver) (output : OutputOptions) (units : List CompilationUnit) :
    Analysis :=
  let snippets := if output.snippets then mergedSnippets units else .empty
  let endpoints := if output.endpoints then units.flatMap Endpoint.ofUnit else []
  { graph := (units.map solver.graphOf).foldl CallGraph.merge .empty
    snippets
    endpoints
    report := { (units.map solver.tallyOf).foldl Report.addTally {} with
      unitsAnalyzed := units.length
      endpoints := endpoints.length
      snippets := snippets.size } }

def Disk.analyzeFolder (d : Disk) (root : String) (settings : Settings) : Analysis :=
  let files := d.scan settings.scanOptions root
  let loaded := d.loadFiles files
  let libraries := (settings.libraryPaths.map (d.libraryPath root)).foldl
    (d.addLibrary settings.scanOptions) { store := .ofUnits loaded.units }
  let analysis := Analysis.ofUnits libraries.store.solver settings.output loaded.units
  { analysis with
    report := { analysis.report with
      filesScanned := files.length
      libraryUnits := libraries.units
      libraryTypes := libraries.types
      parseFailures := loaded.parseFailures
      ioFailures := loaded.ioFailures
      libraryFailures := libraries.failures } }

/-- The analysis of a project: its root must be a folder and its settings valid. -/
def Disk.analyze (d : Disk) (root : String) (settings : Settings) : Except AnalysisError Analysis :=
  if !d.isFolder root then .error (.invalidRoot root)
  else
    match settings.fault? with
    | some fault => .error (.settings fault)
    | none => .ok (d.analyzeFolder root settings)

end JavaCallGraph
