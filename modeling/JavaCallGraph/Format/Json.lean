/-!
# JSON values

The value type that the JSON reader and writer share. Numbers are kept as they are written, and the
members of an object in the order of the text.
-/

namespace JavaCallGraph

inductive Json where
  | null
  | bool (value : Bool)
  | number (text : String)
  | string (value : String)
  | array (items : List Json)
  | object (members : List (String × Json))
  deriving Repr, Inhabited

namespace Json

def ofNat (n : Nat) : Json := .number (toString n)

def ofStrings (xs : List String) : Json := .array (xs.map .string)

/-- The last member of an object with this name. -/
def member? (name : String) : Json → Option Json
  | object members => members.reverse.lookup name
  | _ => none

def string? : Json → Option String
  | string s => some s
  | _ => none

def array? : Json → Option (List Json)
  | array items => some items
  | _ => none

def object? : Json → Option (List (String × Json))
  | object members => some members
  | _ => none

def strings? (j : Json) : Option (List String) := j.array?.bind (·.mapM string?)

end Json

end JavaCallGraph
