import JavaCallGraph.FileTree
import JavaCallGraph.Format.Json
import JavaCallGraph.Format.Toml.Read
import JavaCallGraph.OutputFormat
import JavaCallGraph.Scan
import JavaCallGraph.Text.Blank

/-!
# Settings

What a project is analyzed with. Settings come as TOML or JSON; a setting that is missing keeps its
default, one of the wrong kind refuses the whole, and one that is not known is passed over.

* `Settings`, `OutputOptions` — the settings and their defaults.
* `Settings.fault?` — what is wrong with settings, if anything.
* `Settings.ofJson?`, `Settings.ofToml?` — settings from a file.
-/

namespace JavaCallGraph

structure OutputOptions where
  format : OutputFormat := .json
  dependencies : Bool := true
  snippets : Bool := true
  endpoints : Bool := true
  deriving DecidableEq, Repr, Inhabited

structure Settings where
  /-- Archives and folders of Java files whose types are known but not analyzed. -/
  libraryPaths : List String := []
  /-- The number of workers; zero for one per processor. -/
  threads : Nat := 0
  maxFileSize : Nat := 2097152
  ignoredDirs : List String :=
    [".git", ".hg", ".svn", ".idea", ".vscode", ".gradle", ".mvn", "node_modules", "build",
      "target", "out"]
  respectGitignore : Bool := true
  includeHidden : Bool := false
  output : OutputOptions := {}
  deriving DecidableEq, Repr, Inhabited

namespace Settings

def dependenciesOnly : Settings := { output := { snippets := false, endpoints := false } }

def singleThreaded : Settings := { threads := 1 }

def scanOptions (s : Settings) : ScanOptions :=
  ⟨s.maxFileSize, s.ignoredDirs, s.respectGitignore, s.includeHidden⟩

/-! ## Validity -/

inductive Fault where
  | noFileSize
  | tooManyThreads (threads : Nat)
  | emptyIgnoredDir (index : Nat)
  | noOutput
  deriving DecidableEq, Repr

def maxThreads : Nat := 512

def Fault.message : Fault → String
  | noFileSize => "max_file_size_bytes must be > 0"
  | tooManyThreads threads =>
    "threads (" ++ toString threads ++ ") cannot exceed " ++ toString maxThreads
  | emptyIgnoredDir index => "ignored_dirs[" ++ toString index ++ "] is empty"
  | noOutput => "at least one output must be enabled"

/-- What is wrong with settings: the first of these that is. -/
def fault? (s : Settings) : Option Fault :=
  if s.maxFileSize == 0 then some .noFileSize
  else if s.threads > maxThreads then some (.tooManyThreads s.threads)
  else
    match s.ignoredDirs.findIdx? fun dir => (Text.trimText dir).isEmpty with
    | some index => some (.emptyIgnoredDir index)
    | none =>
      if s.output.dependencies || s.output.snippets || s.output.endpoints then none
      else some .noOutput

/-! ## Reading -/

/-- The members of a record: by name, or in order as far as they go. -/
def members? (names : List String) : Json → Option (List (String × Json))
  | .object members => some members
  | .array items => if items.length ≤ names.length then some (names.zip items) else none
  | _ => none

def memberOr {α : Type} (members : List (String × Json)) (name : String)
    (decode : Json → Option α) (default : α) : Option α :=
  match members.reverse.lookup name with
  | some value => decode value
  | none => some default

def nat? : Json → Option Nat
  | .number text =>
    if text.toList.all Char.isDigit then text.toNat?.filter (· < Nat.pow 2 64) else none
  | _ => none

def bool? : Json → Option Bool
  | .bool value => some value
  | _ => none

def formatNamed? : String → Option OutputFormat
  | "json" => some .json
  | "yaml" => some .yaml
  | _ => none

/-- A format by its exact name, which may also be the name of an only member that holds nothing. -/
def format? (holdsNothing : Json → Bool) : Json → Option OutputFormat
  | .string name => formatNamed? name
  | .object [(name, value)] => if holdsNothing value then formatNamed? name else none
  | _ => none

def outputNames : List String := ["format", "dependencies", "snippets", "endpoints"]

def output? (holdsNothing : Json → Bool) (j : Json) : Option OutputOptions := do
  let members ← members? outputNames j
  let default : OutputOptions := {}
  return {
    format := ← memberOr members "format" (format? holdsNothing) default.format
    dependencies := ← memberOr members "dependencies" bool? default.dependencies
    snippets := ← memberOr members "snippets" bool? default.snippets
    endpoints := ← memberOr members "endpoints" bool? default.endpoints }

def names : List String :=
  ["library_paths", "threads", "max_file_size_bytes", "ignored_dirs", "respect_gitignore",
    "include_hidden", "output"]

def ofValue? (holdsNothing : Json → Bool) (j : Json) : Option Settings := do
  let members ← members? names j
  let default : Settings := {}
  return {
    libraryPaths := ← memberOr members "library_paths" Json.strings? default.libraryPaths
    threads := ← memberOr members "threads" nat? default.threads
    maxFileSize := ← memberOr members "max_file_size_bytes" nat? default.maxFileSize
    ignoredDirs := ← memberOr members "ignored_dirs" Json.strings? default.ignoredDirs
    respectGitignore := ← memberOr members "respect_gitignore" bool? default.respectGitignore
    includeHidden := ← memberOr members "include_hidden" bool? default.includeHidden
    output := ← memberOr members "output" (output? holdsNothing) default.output }

def ofJson? (j : Json) : Option Settings :=
  ofValue? (fun | .null => true | _ => false) j

end Settings

mutual

/-- A TOML value as JSON. What JSON has no word for becomes a value that no setting takes. -/
def Toml.toJson : Toml → Json
  | .string value => .string value
  | .integer value => .number (toString value)
  | .float => .number "0.0"
  | .boolean value => .bool value
  | .datetime => .object [("datetime", .null)]
  | .array items => .array (Toml.itemsToJson items)
  | .table _ entries => .object (Toml.entriesToJson entries)
  | .tables last others => .array (Toml.tablesToJson others ++ [.object (Toml.entriesToJson last)])

def Toml.itemsToJson : List Toml → List Json
  | [] => []
  | item :: items => item.toJson :: Toml.itemsToJson items

def Toml.entriesToJson : List (String × Toml) → List (String × Json)
  | [] => []
  | (key, value) :: entries => (key, value.toJson) :: Toml.entriesToJson entries

def Toml.tablesToJson : List (List (String × Toml)) → List Json
  | [] => []
  | entries :: others => Toml.tablesToJson others ++ [.object (Toml.entriesToJson entries)]

end

/-- Settings from the text of a TOML file. TOML has no null: an empty table or array holds nothing. -/
def Settings.ofToml? (text : String) : Option Settings :=
  (Toml.parse? text).bind fun entries =>
    Settings.ofValue? (fun | .object [] => true | .array [] => true | _ => false)
      (.object (Toml.entriesToJson entries))

end JavaCallGraph
