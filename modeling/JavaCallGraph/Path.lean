import JavaCallGraph.Text.Cut

/-!
# Paths

Paths are texts whose names are divided by slashes. Empty names and the name `.` do not count.

* `Path.names` — the names of a path.
* `Path.fileName?`, `Path.extension?` — its last name and that name's ending.
* `Path.join` — a path read from another one.
* `Path.hasExtension` — does a path have this ending, in any case?
-/

namespace JavaCallGraph.Path

def names (path : String) : List String :=
  (Text.split '/' path).filter fun name => !name.isEmpty && name != "."

def isAbsolute (path : String) : Bool := Text.startsWith "/" path

/-- The last name of a path, unless it leads to the folder above. -/
def fileName? (path : String) : Option String :=
  (names path).getLast?.filter (· != "..")

/-- What follows the last dot of a file name. A dot in front of the name does not count. -/
def extension? (path : String) : Option String := do
  let (stem, ending) ← Text.cutLast '.' (← fileName? path)
  if stem.isEmpty then none else some ending

def hasExtension (ending path : String) : Bool :=
  (extension? path).any (·.toLower == ending)

def join (base path : String) : String :=
  if isAbsolute path || base.isEmpty then path
  else if Text.endsWith "/" base then base ++ path
  else base ++ "/" ++ path

def isJava (path : String) : Bool := hasExtension "java" path

def le (a b : List String) : Bool := !decide (b < a)

end JavaCallGraph.Path
