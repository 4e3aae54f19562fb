import JavaCallGraph.Format.Zip
import JavaCallGraph.Path

/-!
# Trees of files

Folders and files as values. Everything that reads or writes files is a function on such a tree, so
that what a command leaves behind can be compared with what it found.

* `FileTree.at?` — what stands at a path of names.
* `FileTree.put?` — the tree with a file written, missing folders made.
* `FileTree.ofListing`, `FileTree.files` — a tree from its files with their paths, and back.
* `Disk` — a tree with the path it stands at, and the working folder.
* `Disk.readText`, `Disk.makeFoldersTo`, `Disk.write`, `Disk.canonical` — access by the text of a path.
-/

namespace JavaCallGraph

/-- What can be seen of a file: its size in bytes, its text if it is valid UTF-8, and the names of its
entries if it is an archive. -/
structure FileData where
  size : Nat
  text? : Option String
  entries? : Option (List String)
  deriving DecidableEq, Repr, Inhabited

def FileData.ofText (text : String) : FileData := ⟨text.utf8ByteSize, some text, none⟩

def FileData.ofBytes (bytes : ByteArray) : FileData :=
  ⟨bytes.size, String.fromUTF8? bytes, Zip.entryNames? bytes⟩

inductive FileTree where
  | file (data : FileData)
  | folder (entries : List (String × FileTree))
  deriving Repr, Inhabited

namespace FileTree

def empty : FileTree := .folder []

def isFile : FileTree → Bool
  | file _ => true
  | folder _ => false

def isFolder : FileTree → Bool
  | file _ => false
  | folder _ => true

def child? (name : String) : FileTree → Option FileTree
  | file _ => none
  | folder entries => entries.lookup name

def at? (t : FileTree) : List String → Option FileTree
  | [] => some t
  | name :: names => (t.child? name).bind fun child => child.at? names

def branch (data : FileData) : List String → FileTree
  | [] => .file data
  | name :: names => .folder [(name, branch data names)]

/-- The entries with another tree for one name: in its place, or at the end if there was none. -/
def setEntry (name : String) (t : FileTree) : List (String × FileTree) → List (String × FileTree)
  | [] => [(name, t)]
  | (key, old) :: entries =>
    if key == name then (key, t) :: entries else (key, old) :: setEntry name t entries

/-- The tree with `data` written to a path of names and missing folders made. Nothing is written over a
folder or below a file. -/
def put? (data : FileData) : List String → FileTree → Option FileTree
  | [], file _ => some (.file data)
  | [], folder _ => none
  | _ :: _, file _ => none
  | name :: names, folder entries =>
    match entries.lookup name with
    | some child => (put? data names child).map fun child => .folder (setEntry name child entries)
    | none => some (.folder (setEntry name (branch data names) entries))

/-- The tree with the folders of a path made. Where a file is in the way, nothing changes. -/
def makeFolders : List String → FileTree → FileTree
  | [], t => t
  | _ :: _, file data => .file data
  | name :: names, folder entries =>
    .folder (setEntry name (makeFolders names ((entries.lookup name).getD .empty)) entries)

/-- The tree of a listing of files and empty folders. Where a file is in the way of another one, the
first stays. -/
def ofListing (listing : List (String × Option FileData)) : FileTree :=
  listing.foldl (fun t (path, data?) =>
    match data? with
    | some data => (put? data (Path.names path) t).getD t
    | none => makeFolders (Path.names path) t) empty

mutual

def files : FileTree → List (List String × FileData)
  | file data => [([], data)]
  | folder entries => filesOf entries

def filesOf : List (String × FileTree) → List (List String × FileData)
  | [] => []
  | (name, t) :: entries =>
    (files t).map (fun (path, data) => (name :: path, data)) ++ filesOf entries

end

end FileTree

/-! ## Access by path -/

inductive AccessError where
  | notFound
  | alreadyExists
  | notFolder
  | isFolder
  | notText
  deriving DecidableEq, Repr, Inhabited

def AccessError.message : AccessError → String
  | notFound => "No such file or directory (os error 2)"
  | alreadyExists => "File exists (os error 17)"
  | notFolder => "Not a directory (os error 20)"
  | isFolder => "Is a directory (os error 21)"
  | notText => "stream did not contain valid UTF-8"

structure Disk where
  top : String
  tree : FileTree
  /-- The names from the top to the working folder, which paths are read from. -/
  here : List String := []
  deriving Inhabited

namespace Disk

def belowTop? (d : Disk) (path : String) : Option String :=
  (Text.dropStart? d.top path).filter fun rest =>
    rest.isEmpty || Text.startsWith "/" rest || Text.endsWith "/" d.top

def isAbsolute (d : Disk) (path : String) : Bool :=
  Path.isAbsolute path || (d.belowTop? path).isSome

/-- The names that lead to a path from the top; none for paths outside. -/
def names? (d : Disk) (path : String) : Option (List String) :=
  match d.belowTop? path with
  | some rest => some (Path.names rest)
  | none => if Path.isAbsolute path || path.isEmpty then none else some (d.here ++ Path.names path)

def pathOf (d : Disk) (names : List String) : String :=
  names.foldl Path.join d.top

/-- Follows names from the folder at `seen`, nearest name first; `..` leads back. Each name on the way
must exist, and lead to a folder if more names follow. -/
def follow (d : Disk) : (seen names : List String) → Except AccessError (List String)
  | seen, [] => .ok seen.reverse
  | seen, name :: names =>
    match d.tree.at? seen.reverse with
    | some (.folder entries) =>
      if name == ".." then
        match seen with
        | [] => .error .notFound
        | _ :: seen => follow d seen names
      else if (entries.lookup name).isSome then follow d (name :: seen) names
      else .error .notFound
    | some (.file _) => .error .notFolder
    | none => .error .notFound

def locate (d : Disk) (path : String) : Except AccessError (List String) :=
  match d.names? path with
  | some names => d.follow [] names
  | none => .error .notFound

/-- What a path leads to. A file has no path that ends in a slash. -/
def find (d : Disk) (path : String) : Except AccessError FileTree := do
  match d.tree.at? (← d.locate path) with
  | some (.file data) => if Text.endsWith "/" path then throw .notFolder else return .file data
  | some (.folder entries) => return .folder entries
  | none => throw .notFound

def isFile (d : Disk) (path : String) : Bool := (d.find path).toOption.any FileTree.isFile

def isFolder (d : Disk) (path : String) : Bool := (d.find path).toOption.any FileTree.isFolder

def readFile (d : Disk) (path : String) : Except AccessError FileData := do
  match ← d.find path with
  | .file data => return data
  | .folder _ => throw .isFolder

def readText (d : Disk) (path : String) : Except AccessError String := do
  match (← d.readFile path).text? with
  | some text => return text
  | none => throw .notText

/-- The path without detours that leads to the same place from the top. -/
def canonical (d : Disk) (path : String) : Except AccessError String := do
  let _ ← d.find path
  return d.pathOf (← d.locate path)

/-- Follows names to a folder as `follow` does, and makes the folders that are missing on the way: what
the disk then holds, and the names of the folder or why there is none. A file in the way is named as
such until a folder was made; from then on it is where the next folder should be. -/
def makeFolders (made : Bool) :
    (seen names : List String) → Disk → Disk × Except AccessError (List String)
  | seen, [], d =>
    match d.tree.at? seen.reverse with
    | some (.folder _) => (d, .ok seen.reverse)
    | some (.file _) => (d, .error .alreadyExists)
    | none => (d, .error .notFound)
  | seen, name :: names, d =>
    match d.tree.at? seen.reverse with
    | some (.folder entries) =>
      if name == ".." then
        match seen with
        | [] => (d, .error .notFound)
        | _ :: seen => makeFolders made seen names d
      else if (entries.lookup name).isSome then makeFolders made (name :: seen) names d
      else
        makeFolders true (name :: seen) names
          { d with tree := d.tree.makeFolders (seen.reverse ++ [name]) }
    | some (.file _) => (d, .error (if made then .alreadyExists else .notFolder))
    | none => (d, .error .notFound)

def makeFoldersTo (d : Disk) (path : String) : Disk × Except AccessError (List String) :=
  match d.names? path with
  | some names => makeFolders false [] names.dropLast d
  | none => (d, .error .notFound)

def write (d : Disk) (path text : String) : Except AccessError Disk :=
  match d.names? path with
  | none => .error .notFound
  | some names =>
    if names.getLast? == some ".." then .error .isFolder
    else do
      let place := (← d.follow [] names.dropLast) ++ names.getLast?.toList
      match FileTree.put? (.ofText text) place d.tree with
      | some tree => .ok { d with tree }
      | none => .error (if (d.tree.at? place).any FileTree.isFolder then .isFolder else .notFolder)

end Disk

end JavaCallGraph
