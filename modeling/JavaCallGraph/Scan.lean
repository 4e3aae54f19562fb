import JavaCallGraph.FileTree
import JavaCallGraph.Ignore.Rules
import JavaCallGraph.Text.Lowercase

/-!
# Finding Java files

A scan walks a folder and leaves out what ignore files, hidden names and ignored names exclude, with
everything below it.

* `ScanOptions` — what to leave out.
* `FolderRules` — the ignore files of a folder and of the folders above it.
* `Disk.scan` — the paths of the Java files below a folder, in order.
-/

namespace JavaCallGraph

structure ScanOptions where
  maxFileSize : Nat
  /-- Names that are left out with everything below them, in upper or lower case. -/
  ignoredNames : List String
  /-- Do `.gitignore` files and the excludes of a repository count? -/
  respectGitignore : Bool
  includeHidden : Bool
  deriving DecidableEq, Repr, Inhabited

/-! ## Ignore files -/

structure FolderRules where
  depth : Nat
  ignore : IgnoreRules
  gitignore : IgnoreRules
  exclude : IgnoreRules
  deriving Inhabited

namespace FolderRules

def rulesAt (t : FileTree) (names : List String) : IgnoreRules :=
  match t.at? names with
  | some (.file data) => (data.text?.map IgnoreRules.ofText).getD []
  | _ => []

def ofFolder (options : ScanOptions) (depth : Nat) (t : FileTree) : FolderRules where
  depth := depth
  ignore := rulesAt t [".ignore"]
  gitignore := if options.respectGitignore then rulesAt t [".gitignore"] else []
  exclude := if options.respectGitignore then rulesAt t [".git", "info", "exclude"] else []

/-- The first verdict that one sort of rules gives, nearest folder first. -/
def verdictBy (rules : FolderRules → IgnoreRules) (chain : List FolderRules) (path : List String)
    (isFolder : Bool) : Option Verdict :=
  chain.findSome? fun folder =>
    (rules folder).verdict ("/".intercalate (path.drop folder.depth)) isFolder

/-- What the rules of a folder and the folders above it, nearest first, say about a path below it. The
verdict of any `.ignore` file goes before that of any `.gitignore` file, and that before excludes. -/
def verdict (chain : List FolderRules) (path : List String) (isFolder : Bool) : Option Verdict :=
  verdictBy (·.ignore) chain path isFolder
  <|> verdictBy (·.gitignore) chain path isFolder
  <|> verdictBy (·.exclude) chain path isFolder

end FolderRules

/-! ## Walking -/

namespace ScanOptions

def ignoresName (options : ScanOptions) (name : String) : Bool :=
  (options.ignoredNames.map Text.lowercase).contains (Text.lowercase name)

/-- Is an entry of a folder left out, with everything below it? A hidden name is walked if a rule keeps
it. -/
def skips (options : ScanOptions) (chain : List FolderRules) (path : List String) (name : String)
    (isFolder : Bool) : Bool :=
  (match FolderRules.verdict chain path isFolder with
    | some .ignored => true
    | some .kept => false
    | none => !options.includeHidden && Text.startsWith "." name)
  || options.ignoresName name

def selects (options : ScanOptions) (name : String) (data : FileData) : Bool :=
  Path.isJava name && data.size ≤ options.maxFileSize

mutual

def walk (options : ScanOptions) (chain : List FolderRules) (path : List String) (name : String) :
    FileTree → List (List String)
  | .file data => if options.selects name data then [path] else []
  | .folder entries =>
    walkEntries options (.ofFolder options path.length (.folder entries) :: chain) path entries

def walkEntries (options : ScanOptions) (chain : List FolderRules) (path : List String) :
    List (String × FileTree) → List (List String)
  | [] => []
  | (name, t) :: entries =>
    (if options.skips chain (path ++ [name]) name t.isFolder then []
      else walk options chain (path ++ [name]) name t) ++
    walkEntries options chain path entries

end

def rulesAbove (options : ScanOptions) (t : FileTree) (path : List String) : List FolderRules :=
  ((List.range path.length).map fun depth =>
    FolderRules.ofFolder options depth ((t.at? (path.take depth)).getD .empty)).reverse

end ScanOptions

/-- The paths of the Java files below a path, name by name in order. The start itself is never left
out. -/
def Disk.scan (d : Disk) (options : ScanOptions) (root : String) : List String :=
  match d.locate root with
  | .error _ => []
  | .ok path =>
    match d.tree.at? path with
    | none => []
    | some t =>
      let found := options.walk (options.rulesAbove d.tree path) path ((Path.fileName? root).getD "") t
      (found.mergeSort Path.le).map fun file => (file.drop path.length).foldl Path.join root

end JavaCallGraph
