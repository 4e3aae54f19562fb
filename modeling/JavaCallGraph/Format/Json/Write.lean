import JavaCallGraph.Format.Json

/-!
# Writing JSON

The laid-out form of a JSON value: members and items on lines of their own, indented by two blanks
for each level; empty arrays and objects closed on the spot. In strings only quotes, backslashes and
the control characters below U+0020 are escaped.

* `Json.escape` — one character of a string.
* `Json.quote` — a string with its quotes.
* `Json.pretty` — the text of a value.
-/

namespace JavaCallGraph.Json

def hexDigit (n : Nat) : Char :=
  if n < 10 then Char.ofNat (n + 48) else Char.ofNat (n + 87)

def escape (c : Char) : List Char :=
  match c with
  | '"' => ['\\', '"']
  | '\\' => ['\\', '\\']
  | '\x08' => ['\\', 'b']
  | '\x0c' => ['\\', 'f']
  | '\n' => ['\\', 'n']
  | '\r' => ['\\', 'r']
  | '\t' => ['\\', 't']
  | c =>
    if c.toNat < 0x20 then
      ['\\', 'u', '0', '0', hexDigit (c.toNat / 16), hexDigit (c.toNat % 16)]
    else [c]

def quote (s : String) : List Char := '"' :: (s.toList.flatMap escape ++ ['"'])

def lineStart (depth : Nat) : List Char := '\n' :: List.replicate (2 * depth) ' '

mutual

def write (depth : Nat) : Json → List Char
  | null => "null".toList
  | bool true => "true".toList
  | bool false => "false".toList
  | number text => text.toList
  | string s => quote s
  | array [] => ['[', ']']
  | array (item :: items) =>
    '[' :: (lineStart (depth + 1) ++ write (depth + 1) item ++ writeItems (depth + 1) items ++
      lineStart depth ++ [']'])
  | object [] => ['{', '}']
  | object ((name, value) :: members) =>
    '{' :: (lineStart (depth + 1) ++ quote name ++ [':', ' '] ++ write (depth + 1) value ++
      writeMembers (depth + 1) members ++ lineStart depth ++ ['}'])

/-- The items of an array after the first. -/
def writeItems (depth : Nat) : List Json → List Char
  | [] => []
  | item :: items => ',' :: (lineStart depth ++ write depth item ++ writeItems depth items)

def writeMembers (depth : Nat) : List (String × Json) → List Char
  | [] => []
  | (name, value) :: members =>
    ',' :: (lineStart depth ++ quote name ++ [':', ' '] ++ write depth value ++
      writeMembers depth members)

end

def pretty (j : Json) : String := String.ofList (write 0 j)

end JavaCallGraph.Json
