import JavaCallGraph.Ignore.Glob
import JavaCallGraph.Text.Blank

/-!
# Ignore rules

An ignore file lists patterns of paths below its folder, one per line. The last line that matches a path
decides about it.

* `IgnoreRule.parse?` — the rule of a line.
* `IgnoreRules.ofText` — the rules of a file.
* `IgnoreRules.verdict` — what the rules say about a path.
-/

namespace JavaCallGraph

inductive Verdict where
  | ignored
  | kept
  deriving DecidableEq, Repr, Inhabited

structure IgnoreRule where
  glob : Glob
  verdict : Verdict
  onlyFolders : Bool
  deriving DecidableEq, Repr, Inhabited

namespace IgnoreRule

/-- Takes an exclamation mark and a slash off the front of a line: the verdict, whether the pattern is
bound to the folder of the file, and the rest. A backslash before the mark or a hash is dropped and
takes both meanings away. -/
def readFront : List Char → Verdict × Bool × List Char
  | '\\' :: '!' :: cs => (.ignored, false, '!' :: cs)
  | '\\' :: '#' :: cs => (.ignored, false, '#' :: cs)
  | '!' :: '/' :: cs => (.kept, true, cs)
  | '!' :: cs => (.kept, false, cs)
  | '/' :: cs => (.ignored, true, cs)
  | cs => (.ignored, false, cs)

def readBack (cs : List Char) : Bool × List Char :=
  match cs.reverse with
  | '/' :: '\\' :: rest => (true, rest.reverse)
  | '/' :: rest => (true, rest.reverse)
  | _ => (false, cs)

/-- The full pattern: one without slashes matches in every folder, and one that ends in two stars only
below a folder. -/
def fullPattern (anchored : Bool) (cs : List Char) : List Char :=
  let cs := if anchored || cs.contains '/' || cs == ['*', '*'] then cs else ['*', '*', '/'] ++ cs
  if (Text.dropEndChars? ['/', '*', '*'] cs).isSome then cs ++ ['/', '*'] else cs

/-- The rule of a line; none for empty lines, comments and patterns that cannot be read. Blanks at the
end do not count unless a backslash stands before the last. -/
def parse? (line : String) : Option IgnoreRule := do
  let cs := line.toList
  if cs.head? == some '#' then none
  let cs := if Text.endsWith "\\ " line then cs else Text.trimEnd cs
  if cs.isEmpty then none
  let (verdict, anchored, cs) := readFront cs
  let (onlyFolders, cs) := readBack cs
  let glob ← Glob.parse? (fullPattern anchored cs)
  return ⟨glob, verdict, onlyFolders⟩

end IgnoreRule

abbrev IgnoreRules := List IgnoreRule

namespace IgnoreRules

def ofText (text : String) : IgnoreRules :=
  let text := String.ofList (text.toList.dropWhile (· == '\uFEFF'))
  (Text.lines text).filterMap IgnoreRule.parse?

/-- What the rules say about a path below their folder: the last that matches decides. -/
def verdict (rules : IgnoreRules) (path : String) (isFolder : Bool) : Option Verdict :=
  (rules.reverse.find? fun rule =>
    (isFolder || !rule.onlyFolders) && rule.glob.accepts path).map (·.verdict)

end IgnoreRules

end JavaCallGraph
