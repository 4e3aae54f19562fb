import JavaCallGraph.Scope

/-!
# Known types

The store holds the declarations of all units that were added and the names of library types of which
no declaration is at hand. It only grows, and the first declaration of a name stays.

* `SymbolStore.addUnit`, `SymbolStore.addLibraryType` — growing the store.
* `SymbolStore.typeEntry?`, `SymbolStore.isKnown` — look-up by the base name of a type.
* `SymbolStore.resolveName` — the known type that the text of a type denotes in a unit.
* `SymbolStore.hierarchy` — a type and its supertypes.
-/

namespace JavaCallGraph

open Java

/-- A method of a stored type, its types qualified in the unit that declares it. -/
structure MethodEntry where
  name : String
  params : List String
  returnType : Option String
  varargs : Bool
  deriving DecidableEq, Repr, Inhabited

namespace MethodEntry

def ofMethod (imports : ImportTable) (m : Method) : MethodEntry where
  name := m.name
  params := m.params.map fun p => imports.qualify p.type
  returnType := m.returnType.map imports.qualify
  varargs := m.isVarargs

def acceptsArity (m : MethodEntry) (count : Nat) : Bool :=
  if m.varargs then count + 1 ≥ m.params.length else count == m.params.length

def paramAt? (m : MethodEntry) (index : Nat) : Option String :=
  (m.params[index]? <|> (if m.varargs then m.params.getLast? else none)).map TypeName.element

end MethodEntry

structure TypeEntry where
  name : String
  package : String
  /-- The path of names from the outermost type. -/
  type : String
  superclass : Option String
  interfaces : List String
  fields : KeyMap String
  methods : List MethodEntry
  deriving Inhabited

namespace TypeEntry

/-- The entry of a declared type. Of two fields with one name the later stays. -/
def ofDecl (imports : ImportTable) (d : TypeDecl) : TypeEntry where
  name := imports.inPackage d.qualifiedName
  package := imports.packageName
  type := d.qualifiedName
  superclass := d.superclass.map imports.qualify
  interfaces := d.interfaces.map imports.qualify
  fields := .ofList (d.fields.map fun f => (f.name, imports.qualify f.type))
  methods := d.callables.map (MethodEntry.ofMethod imports)

/-- The base names of the direct supertypes: the superclass, then the interfaces. -/
def supertypes (t : TypeEntry) : List String :=
  (t.superclass.toList ++ t.interfaces).map TypeName.base

end TypeEntry

structure SymbolStore where
  types : KeyMap TypeEntry := .empty
  libraryTypes : KeyMap Unit := .empty
  deriving Inhabited

namespace SymbolStore

/-! ## Growing -/

def empty : SymbolStore := {}

/-- With a type that a unit declares, unless its name is stored already. -/
def addType (store : SymbolStore) (imports : ImportTable) (d : TypeDecl) : SymbolStore :=
  let entry := TypeEntry.ofDecl imports d
  { store with types := store.types.insertNew entry.name entry }

def addUnit (store : SymbolStore) (u : CompilationUnit) : SymbolStore :=
  let imports := ImportTable.ofUnit u
  u.allTypes.foldl (fun store d => store.addType imports d) store

def addLibraryType (store : SymbolStore) (name : String) : SymbolStore :=
  { store with libraryTypes := store.libraryTypes.insertNew name () }

def addLibraryTypes (store : SymbolStore) (names : List String) : SymbolStore :=
  names.foldl addLibraryType store

def ofUnits (units : List CompilationUnit) : SymbolStore := units.foldl addUnit empty

/-! ## Look-up -/

/-- The entry of a type; what follows its base name does not matter. -/
def typeEntry? (store : SymbolStore) (name : String) : Option TypeEntry :=
  store.types.get? (TypeName.base name)

/-- Does a name denote something that exists: a primitive, a stored type, a library type or a type of
the platform? -/
def isKnown (store : SymbolStore) (name : String) : Bool :=
  let base := TypeName.base name
  TypeName.isPrimitive base || store.types.contains base || store.libraryTypes.contains base
    || Text.startsWith "java." base || Text.startsWith "javax." base

/-- The known type that the text of a type denotes in a unit: its qualified name, or else the first
type of that name in a package all whose types are imported. -/
def resolveName (store : SymbolStore) (imports : ImportTable) (raw : String) : Option String :=
  let qualified := imports.qualify raw
  if store.isKnown qualified then some qualified
  else
    let (base, suffix) := TypeName.split raw
    if Text.has '.' base then none
    else
      ((imports.wildcardPackages.map fun package => package ++ "." ++ base).find? store.isKnown).map
        fun found => found ++ TypeName.tidy suffix

/-! ## Hierarchy -/

def without (name : String) (entries : List (String × TypeEntry)) : List (String × TypeEntry) :=
  entries.filter (·.1 != name)

/-- How many visits some unseen entries can lead to: one each, and one for each of their supertypes. -/
def visitsOf : List (String × TypeEntry) → Nat
  | [] => 0
  | (_, entry) :: rest => entry.supertypes.length + 1 + visitsOf rest

theorem visitsOf_without_le (name : String) (entries : List (String × TypeEntry)) :
    visitsOf (without name entries) ≤ visitsOf entries := by
  induction entries with
  | nil => exact Nat.le_refl _
  | cons head rest ih =>
    simp only [without, List.filter_cons] at ih ⊢
    split <;> simp only [visitsOf] <;> omega

theorem visitsOf_without_lt {name : String} {entry : TypeEntry}
    {entries : List (String × TypeEntry)} (h : entries.lookup name = some entry) :
    visitsOf (without name entries) + entry.supertypes.length < visitsOf entries := by
  induction entries with
  | nil => cases h
  | cons head rest ih =>
    obtain ⟨key, other⟩ := head
    rw [List.lookup_cons] at h
    cases h_key : name == key with
    | true =>
      obtain rfl : name = key := eq_of_beq h_key
      simp only [h_key, Option.some.injEq] at h
      subst h
      have h_rest := visitsOf_without_le name rest
      simp only [without, List.filter_cons, bne_self_eq_false] at h_rest ⊢
      simp only [visitsOf, Bool.false_eq_true, if_false]
      omega
    | false =>
      have h_ne : (key != name) = true := by
        rw [bne_iff_ne]
        exact fun heq => beq_eq_false_iff_ne.1 h_key heq.symm
      simp only [h_key] at h
      have h_rest := ih h
      simp only [without, List.filter_cons, h_ne] at h_rest ⊢
      simp only [visitsOf, if_true]
      omega

/-- Visits the names of `queue` in order and collects the entries of those that are still `unseen`,
each with its supertypes put at the end of the queue. -/
def visit (unseen : List (String × TypeEntry)) : List String → List TypeEntry
  | [] => []
  | name :: queue =>
    match _h : unseen.lookup name with
    | none => visit unseen queue
    | some entry => entry :: visit (without name unseen) (queue ++ entry.supertypes)
termination_by queue => visitsOf unseen + queue.length
decreasing_by
  · simp
  · have := visitsOf_without_lt _h
    simp only [List.length_append, List.length_cons]
    omega

/-- A type and its supertypes as far as they are stored, each once and nearest first. -/
def hierarchy (store : SymbolStore) (name : String) : List TypeEntry :=
  visit store.types.toList [TypeName.base name]

def superclass? (store : SymbolStore) (name : String) : Option String :=
  (store.typeEntry? name).map fun entry => entry.superclass.getD "java.lang.Object"

end SymbolStore

end JavaCallGraph
