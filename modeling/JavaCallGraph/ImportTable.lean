import JavaCallGraph.Java.Unit
import JavaCallGraph.KeyMap
import JavaCallGraph.TypeName

/-!
# Names that a unit can use

The package and imports of a unit decide what a simple type name means in it.

* `ImportTable.ofUnit` — the table of a unit: its imports first, then the types nested in its types.
* `ImportTable.lookup`, `ImportTable.staticOwner` — what a simple name stands for.
* `ImportTable.inPackage` — the qualified name of a type that the unit declares.
* `ImportTable.qualify` — the qualified name that the text of a type denotes.
-/

namespace JavaCallGraph

open Java

structure ImportTable where
  package : Option String := none
  types : KeyMap String := .empty
  /-- Owners of statically imported members by member. -/
  staticMembers : KeyMap String := .empty
  /-- Types all whose static members are imported. -/
  staticWildcards : List String := []
  wildcardPackages : List String := []
  deriving Inhabited

namespace ImportTable

/-! ## Building -/

def ofPackage (package : Option String) : ImportTable := { package }

def inPackage (t : ImportTable) (name : String) : String :=
  match t.package with
  | some package => package ++ "." ++ name
  | none => name

/-- With an import of one type. The first import of a simple name stays. -/
def addType (t : ImportTable) (path : String) : ImportTable :=
  { t with types := t.types.insertNew (Text.afterLast '.' path) path }

/-- With an import of one static member. The first import of a member stays, and a path without a dot
has no owner. -/
def addStaticMember (t : ImportTable) (path : String) : ImportTable :=
  match Text.cutLast '.' path with
  | some (owner, member) => { t with staticMembers := t.staticMembers.insertNew member owner }
  | none => t

def addImport (t : ImportTable) (i : Import) : ImportTable :=
  match i.isStatic, i.isWildcard with
  | false, false => t.addType i.path
  | false, true => { t with wildcardPackages := t.wildcardPackages ++ [i.path] }
  | true, false => t.addStaticMember i.path
  | true, true => { t with staticWildcards := t.staticWildcards ++ [i.path] }

/-- With the simple name of a nested type, unless that name is taken. -/
def addNested (t : ImportTable) (d : TypeDecl) : ImportTable :=
  if Text.has '.' d.qualifiedName then
    { t with types := t.types.insertNew d.name (t.inPackage d.qualifiedName) }
  else t

def ofUnit (u : CompilationUnit) : ImportTable :=
  u.allTypes.foldl addNested (u.imports.foldl addImport (ofPackage u.package))

/-! ## Look-up -/

def packageName (t : ImportTable) : String := t.package.getD TypeName.defaultPackage

def lookup (t : ImportTable) (simple : String) : Option String := t.types.get? simple

def staticOwner (t : ImportTable) (member : String) : Option String := t.staticMembers.get? member

/-! ## Qualified names -/

def inOwnPackage (t : ImportTable) (name : String) : Bool :=
  t.package.any fun package => Text.startsWith (package ++ ".") name

def startsUppercase (s : String) : Bool := s.toList.head?.any Text.isUppercase

/-- The qualified name of a type whose text is tidy and has this name and suffix.

A primitive, a wildcard and a text without a name stay as they are, and so does a dotted name that
starts with a package. In any other dotted name the first segment is a type, which is looked up among
the imports, then among the types that need none; a simple name is looked up the other way round.
What is found nowhere belongs to the unit's package. -/
def qualifyParts (t : ImportTable) (tidied name suffix : String) : String :=
  if name.isEmpty || Text.startsWith "?" name || TypeName.isPrimitive name then tidied
  else
    let implicit := TypeName.implicitPackage ++ "." ++ tidied
    match Text.cutFirst '.' name with
    | some (outer, rest) =>
      if t.inOwnPackage name || !startsUppercase outer then tidied
      else
        match t.lookup outer with
        | some found => found ++ "." ++ rest ++ suffix
        | none => if TypeName.isImplicit outer then implicit else t.inPackage tidied
    | none =>
      if TypeName.isImplicit name then implicit
      else
        match t.lookup name with
        | some found => found ++ suffix
        | none => t.inPackage tidied

def qualify (t : ImportTable) (raw : String) : String :=
  let tidied := TypeName.tidy raw
  let (name, suffix) := TypeName.split tidied
  t.qualifyParts tidied name suffix

end ImportTable

end JavaCallGraph
