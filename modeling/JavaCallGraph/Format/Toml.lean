/-!
# TOML values

Tables as they are built while a TOML text is read. A table remembers how it came to be, because that
decides what may still be added to it.

* `Toml` — the values.
* `Toml.assign` — a key with a value in a table.
* `Toml.openTable`, `Toml.openArray` — what a header adds.
* `Toml.addAt` — a key with a value in the table that a header opened.
-/

namespace JavaCallGraph

inductive Toml.Origin where
  | header
  /-- A header names a table within it. -/
  | parent
  /-- A dotted key runs through it. -/
  | dotted
  | braces
  deriving DecidableEq, Repr, Inhabited

inductive Toml where
  | string (value : String)
  | integer (value : Int)
  | float
  | boolean (value : Bool)
  | datetime
  | array (items : List Toml)
  | table (origin : Toml.Origin) (entries : List (String × Toml))
  /-- Tables that headers in double brackets add, the last first. -/
  | tables (last : List (String × Toml)) (others : List (List (String × Toml)))
  deriving Repr, Inhabited

namespace Toml

abbrev Entries := List (String × Toml)

def set (key : String) (value : Toml) : Entries → Entries
  | [] => [(key, value)]
  | (k, v) :: rest => if k == key then (k, value) :: rest else (k, v) :: set key value rest

/-- Assigns a value to a dotted key in a table; `fresh` says that a dotted key made the table. Each key
is assigned once, and a dotted key adds only to tables that dotted keys made. -/
def assignIn (value : Toml) : (path : List String) → (fresh : Bool) → Entries → Option Entries
  | [], _, _ => none
  | [key], fresh, entries =>
    if !fresh || (entries.lookup key).isSome then none else some (entries ++ [(key, value)])
  | key :: path, _, entries =>
    match entries.lookup key with
    | none => (assignIn value path true []).map fun inner => entries ++ [(key, .table .dotted inner)]
    | some (.table .dotted inner) =>
      (assignIn value path true inner).map fun inner => set key (.table .dotted inner) entries
    | some (.table .parent inner) =>
      (assignIn value path false inner).map fun inner => set key (.table .parent inner) entries
    | _ => none

def assign (value : Toml) (path : List String) (entries : Entries) : Option Entries :=
  assignIn value path true entries

/-- Changes the table at the end of a path of headers: `f` gets what the last key holds. -/
def atHeader (f : Option Toml → Option Toml) : (path : List String) → Entries → Option Entries
  | [], _ => none
  | [key], entries => (f (entries.lookup key)).map fun value => set key value entries
  | key :: path, entries =>
    match entries.lookup key with
    | none => (atHeader f path []).map fun inner => entries ++ [(key, .table .parent inner)]
    | some (.table origin inner) =>
      if origin == .braces then none
      else (atHeader f path inner).map fun inner => set key (.table origin inner) entries
    | some (.tables last others) =>
      (atHeader f path last).map fun last => set key (.tables last others) entries
    | _ => none

/-- The table of a header: new, or one that so far only held tables of other headers. -/
def openTable (path : List String) (entries : Entries) : Option Entries :=
  atHeader (fun
    | none => some (.table .header [])
    | some (.table .parent inner) => some (.table .header inner)
    | _ => none) path entries

def openArray (path : List String) (entries : Entries) : Option Entries :=
  atHeader (fun
    | none => some (.tables [] [])
    | some (.tables last others) => some (.tables [] (last :: others))
    | _ => none) path entries

def addAt (header path : List String) (value : Toml) (entries : Entries) : Option Entries :=
  if header.isEmpty then assign value path entries
  else
    atHeader (fun
      | some (.table origin inner) => (assign value path inner).map (.table origin ·)
      | some (.tables last others) => (assign value path last).map (.tables · others)
      | _ => none) header entries

end Toml

end JavaCallGraph
