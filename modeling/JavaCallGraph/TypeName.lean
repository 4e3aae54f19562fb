import JavaCallGraph.Text.Blank
import JavaCallGraph.Text.Cut
import JavaCallGraph.Text.Letter

/-!
# Texts of types

A type is written as a name followed by generic arguments, array brackets or the dots of a variable
number of arguments. This module gives such texts one spacing and takes them apart.

* `TypeName.tidy` — the text with canonical spacing.
* `TypeName.split` — the name and what follows it.
* `TypeName.base` — the name alone.
* `TypeName.splitQualified` — the package and simple name of a qualified name.
* `TypeName.element` — the text without the dots of a variable number of arguments.
-/

namespace JavaCallGraph.TypeName

def defaultPackage : String := "default"

def primitives : List String :=
  ["byte", "short", "int", "long", "float", "double", "boolean", "char", "void"]

def isPrimitive (name : String) : Bool := primitives.contains name

def implicitPackage : String := "java.lang"

def implicitTypes : List String :=
  ["String", "Object", "Integer", "Long", "Double", "Float", "Short", "Byte", "Character",
    "Boolean", "Number", "Class", "Void", "Iterable", "Runnable", "Exception", "RuntimeException",
    "Throwable", "Thread", "StringBuilder", "Math", "System", "Enum", "Record", "Comparable",
    "CharSequence"]

def isImplicit (name : String) : Bool := implicitTypes.contains name

/-! ## Spacing -/

/-- Characters of names and wildcards: two of them that blanks divide stay divided. -/
def isNameChar (c : Char) : Bool :=
  Text.isAlphanumeric c || c == '_' || c == '$' || c == '?' || c == '@'

/-- What `c` becomes after the character `last` with or without blanks between them: one space comes
before it if both belong to names, and one after it if it is a comma. -/
def tidyChar (last : Option Char) (gap : Bool) (c : Char) : List Char :=
  (if gap && last.any isNameChar && isNameChar c then [' '] else []) ++
    c :: (if c == ',' then [' '] else [])

/-- The rest of a text in canonical spacing, given the last character before it that is no blank and
whether blanks follow that one. -/
def tidyFrom (last : Option Char) (gap : Bool) : List Char → List Char
  | [] => []
  | c :: cs =>
    if Text.isBlank c then tidyFrom last true cs
    else tidyChar last gap c ++ tidyFrom (some c) false cs

/-- The text of a type in canonical spacing: blanks are kept, as one space, only between two
characters of names, and a space follows every comma. -/
def tidy (raw : String) : String := String.ofList (tidyFrom none false raw.toList)

/-! ## Name and suffix -/

/-- Does a suffix start here: generic arguments, array brackets or an ellipsis? -/
def startsSuffix : List Char → Bool
  | '<' :: _ => true
  | '[' :: _ => true
  | '.' :: '.' :: '.' :: _ => true
  | _ => false

def splitChars : List Char → List Char × List Char
  | [] => ([], [])
  | c :: cs =>
    if startsSuffix (c :: cs) then ([], c :: cs)
    else
      let (name, suffix) := splitChars cs
      (c :: name, suffix)

/-- The name of a type, without blanks around it, and its suffix as it is written. -/
def split (raw : String) : String × String :=
  let (name, suffix) := splitChars raw.toList
  (String.ofList (Text.trim name), String.ofList suffix)

def base (raw : String) : String := (split raw).1

/-- The package and the simple name of a qualified name; a name without dots is in the default
package. -/
def splitQualified (name : String) : String × String :=
  let simple := base name
  (Text.cutLast '.' simple).getD (defaultPackage, simple)

/-- Without any ellipses in front; for texts read backwards. -/
def dropEllipses : List Char → List Char
  | '.' :: '.' :: '.' :: cs => dropEllipses cs
  | cs => cs

def element (raw : String) : String := String.ofList (dropEllipses raw.toList.reverse).reverse

end JavaCallGraph.TypeName
