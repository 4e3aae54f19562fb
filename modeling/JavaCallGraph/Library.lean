import JavaCallGraph.FileTree
import JavaCallGraph.SymbolStore.Archive

/-!
# Loading library archives

* `LibraryError` — why an archive could not be loaded.
* `Disk.loadArchive` — the store with the types of an archive.
* `Disk.addArchive` — the same as a step, with the number of new names.
-/

namespace JavaCallGraph

inductive LibraryError where
  | unreadable (path : String) (cause : AccessError)
  | invalid (path : String)
  | folder (path : String)
  deriving DecidableEq, Repr

def LibraryError.message : LibraryError → String
  | unreadable path cause => "Cannot read library " ++ path ++ ": " ++ cause.message
  | invalid path =>
    "Invalid library archive " ++ path ++ ": invalid Zip archive: Could not find EOCD"
  | folder path =>
    "Invalid library archive " ++ path ++ ": i/o error: " ++ AccessError.isFolder.message

def Disk.archiveEntries (d : Disk) (path : String) : Except LibraryError (List String) :=
  match d.readFile path with
  | .ok data =>
    match data.entries? with
    | some entries => .ok entries
    | none => .error (.invalid path)
  | .error .isFolder => .error (.folder path)
  | .error cause => .error (.unreadable path cause)

def Disk.loadArchive (d : Disk) (store : SymbolStore) (path : String) :
    Except LibraryError SymbolStore :=
  (d.archiveEntries path).map store.addArchive

/-- Adds the types of an archive to a store: what the store then holds, and how many names are new or why
the archive could not be loaded. -/
def Disk.addArchive (d : Disk) (store : SymbolStore) (path : String) :
    SymbolStore × Except LibraryError Nat :=
  match d.loadArchive store path with
  | .ok grown => (grown, .ok (grown.libraryTypes.size - store.libraryTypes.size))
  | .error e => (store, .error e)

end JavaCallGraph
