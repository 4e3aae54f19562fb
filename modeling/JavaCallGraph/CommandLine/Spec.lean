import JavaCallGraph.OutputFormat

/-!
# Commands and their arguments

What each command takes, as data: the same tables are used to read arguments and to print help.

* `ValueKind.accepts` — which texts are values of a kind.
* `CommandSpec` — the arguments of a command; `commands` lists them all.
* `CommandSpec.help`, `overview`, `helpOnHelp` — the help texts.
-/

namespace JavaCallGraph.CommandLine

inductive ValueKind where
  | path
  | text
  | number
  | format
  deriving DecidableEq, Repr

/-- The number that a text of decimal digits gives, if it has at most 64 bits. A plus may stand in front. -/
def number? (text : String) : Option Nat :=
  let digits := (Text.dropStart? "+" text).getD text
  if digits.toList.all Char.isDigit then digits.toNat?.filter (· < Nat.pow 2 64) else none

def ValueKind.accepts : ValueKind → String → Bool
  | path, value => !value.isEmpty
  | text, _ => true
  | number, value => (number? value).isSome
  | format, value => (OutputFormat.ofName value).toOption.isSome

structure ValueSpec where
  name : String
  kind : ValueKind
  deriving DecidableEq, Repr

def ValueSpec.usage (v : ValueSpec) : String := "<" ++ v.name ++ ">"

structure OptionSpec where
  long : String
  short : Option Char := none
  value : Option ValueSpec := none
  repeatable : Bool := false
  /-- The value when the option is not given, where help texts name it. -/
  preset : Option String := none
  about : String
  deriving DecidableEq, Repr

structure CommandSpec where
  name : String
  about : String
  values : List (ValueSpec × String)
  options : List OptionSpec
  deriving DecidableEq, Repr

/-! ## The commands -/

def programName : String := "calltrail"

def versionText : String := programName ++ " 0.1.0\n"

def verboseOption : OptionSpec where
  long := "verbose"
  short := some 'v'
  about := "Enable verbose logging"

def quietOption : OptionSpec where
  long := "quiet"
  short := some 'q'
  about := "Quiet mode: log only warnings/errors (stdout is reserved for results)"

def helpOption : OptionSpec where
  long := "help"
  short := some 'h'
  about := "Print help"

def versionOption : OptionSpec where
  long := "version"
  short := some 'V'
  about := "Print version"

/-- The options that every command takes, and that may also stand before the command. -/
def commonOptions : List OptionSpec := [verboseOption, quietOption]

def jsonOption : OptionSpec where
  long := "json"
  about := "Output JSON"

def graphValue : ValueSpec × String :=
  (⟨"GRAPH", .path⟩, "Call graph written by \x60analyze\x60 (.json or .yaml)")

def analyzeSpec : CommandSpec where
  name := "analyze"
  about := "Analyze a project and write the call graph, snippets and endpoints"
  values := [(⟨"ROOT", .path⟩, "Project root to scan for .java files")]
  options := [
    { long := "output", short := some 'o', value := some ⟨"OUTPUT", .path⟩, preset := some "."
      about := "Output directory" },
    { long := "lib", value := some ⟨"PATH", .path⟩, repeatable := true
      about := "Library source directory or .jar used for symbol resolution (repeatable)" },
    { long := "format", value := some ⟨"FORMAT", .format⟩, about := "Call graph format (json|yaml)" },
    { long := "threads", value := some ⟨"THREADS", .number⟩
      about := "Worker threads (0 = one per core)" },
    { long := "no-snippets", about := "Skip writing code.json" },
    { long := "no-endpoints", about := "Skip writing api_endpoints.json" },
    { long := "config", value := some ⟨"CONFIG", .path⟩
      about := "Config file (defaults to calltrail.toml in the project root)" },
    { jsonOption with about := "Print the scan report as JSON on stdout" }]

def calleesSpec : CommandSpec where
  name := "callees"
  about := "List the methods a signature calls, directly or transitively"
  values := [graphValue,
    (⟨"SIGNATURE", .text⟩, "Caller signature, e.g. \x60com.acme.Foo.run(java.lang.String)\x60")]
  options := [
    { long := "depth", value := some ⟨"DEPTH", .number⟩, preset := some "1"
      about := "Follow calls up to this many hops" },
    jsonOption]

def callersSpec : CommandSpec where
  name := "callers"
  about := "List the methods that call a signature"
  values := [graphValue, (⟨"SIGNATURE", .text⟩, "Callee signature")]
  options := [jsonOption]

def contextSpec : CommandSpec where
  name := "context"
  about := "Print a method's source and the source of the methods it calls"
  values := [(⟨"OUT_DIR", .path⟩, "Output directory written by \x60analyze\x60"),
    (⟨"SIGNATURE", .text⟩, "Method signature, e.g. an endpoint's \x60methodMetadata\x60")]
  options := [jsonOption]

def commands : List CommandSpec := [analyzeSpec, calleesSpec, callersSpec, contextSpec]

/-! ## Help -/

/-- Rows of two columns, the first as wide as its longest text. -/
def table (rows : List (String × String)) : String :=
  let width := (rows.map (·.1.length)).foldl max 0
  String.join (rows.map fun (left, right) =>
    "  " ++ left.pushn ' ' (width - left.length) ++ "  " ++ right ++ "\n")

def OptionSpec.row (o : OptionSpec) : String × String :=
  let short := match o.short with
    | some c => "-" ++ String.singleton c ++ ", "
    | none => "    "
  let value := (o.value.map fun v => " " ++ v.usage).getD ""
  let preset := (o.preset.map fun text => " [default: " ++ text ++ "]").getD ""
  (short ++ "--" ++ o.long ++ value, o.about ++ preset)

/-- Two lists by turns, the first list first. -/
def interleave {α : Type} : List α → List α → List α
  | x :: xs, y :: ys => x :: y :: interleave xs ys
  | [], ys => ys
  | xs, [] => xs

def CommandSpec.help (c : CommandSpec) : String :=
  let usage := " ".intercalate
    ([programName, c.name, "[OPTIONS]"] ++ c.values.map fun (value, _) => value.usage)
  c.about ++ "\n\nUsage: " ++ usage ++ "\n\nArguments:\n" ++
    table (c.values.map fun (value, about) => (value.usage, about)) ++ "\nOptions:\n" ++
    table ((interleave c.options commonOptions ++ [helpOption]).map OptionSpec.row)

def helpAbout : String := "Print this message or the help of the given subcommand(s)"

def overview : String :=
  "Method-level call graphs for Java projects\n\nUsage: " ++ programName ++
    " [OPTIONS] <COMMAND>\n\nCommands:\n" ++
    table ((commands.map fun c => (c.name, c.about)) ++
      [("help", helpAbout)]) ++ "\nOptions:\n" ++
    table ((commonOptions ++ [helpOption, versionOption]).map OptionSpec.row)

def helpOnHelp : String :=
  helpAbout ++ "\n\nUsage: " ++ programName ++ " help [COMMAND]...\n\nArguments:\n" ++
    table [("[COMMAND]...", "Print help for the subcommand(s)")]

end JavaCallGraph.CommandLine
