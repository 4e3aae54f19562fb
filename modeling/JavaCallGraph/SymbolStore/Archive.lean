import JavaCallGraph.SymbolStore

/-!
# Library archives

A library comes as an archive of class files; only the names of its entries matter.

* `classEntryName?` — the dotted name of the type that an entry holds.
* `SymbolStore.addArchive` — the names of all types of an archive.
-/

namespace JavaCallGraph

/-- The path of a class file in an archive without its ending. An archive may hold versions of a class
below a numbered folder of `META-INF`; nothing else there is a class. -/
def classPath? (entry : String) : Option String := do
  let path ← Text.dropEnd? ".class" entry
  match Text.dropStart? "META-INF/versions/" path with
  | some versioned => (Text.cutFirst '/' versioned).map Prod.snd
  | none => if Text.startsWith "META-INF/" path then none else some path

/-- Does a segment after a `$` belong to a class without a name of its own? -/
def isAnonymousSegment (segment : String) : Bool :=
  segment.toList.head?.all Char.isDigit

/-- The dotted name of the type that an entry of an archive holds; nothing for entries that hold no
type that can be named. -/
def classEntryName? (entry : String) : Option String := do
  let path ← classPath? entry
  let simple := Text.afterLast '/' path
  if simple == "module-info" || simple == "package-info" then none
  else if ((Text.split '$' simple).drop 1).any isAnonymousSegment then none
  else some (String.ofList (path.toList.map fun c => if c == '/' || c == '$' then '.' else c))

def SymbolStore.addArchive (store : SymbolStore) (entries : List String) : SymbolStore :=
  store.addLibraryTypes (entries.filterMap classEntryName?)

end JavaCallGraph
