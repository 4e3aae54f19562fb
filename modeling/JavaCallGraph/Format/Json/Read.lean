import JavaCallGraph.Format.Json

/-!
# Reading JSON

A strict reader: no comments, no commas before a closing bracket, no raw control characters in
strings, no lone surrogates, and nothing after the value.

* `Json.readString` — the inside of a string.
* `Json.readNumber` — a number.
* `Json.readValue` — a value at the front of a text.
* `Json.parse?` — the value that a whole text is.
-/

namespace JavaCallGraph.Json

def isSpace (c : Char) : Bool := c == ' ' || c == '\n' || c == '\t' || c == '\r'

def skipSpace (cs : List Char) : List Char := cs.dropWhile isSpace

/-! ## Strings -/

def hexValue? (c : Char) : Option Nat :=
  if '0' ≤ c && c ≤ '9' then some (c.toNat - 48)
  else if 'a' ≤ c && c ≤ 'f' then some (c.toNat - 87)
  else if 'A' ≤ c && c ≤ 'F' then some (c.toNat - 55)
  else none

def hexUnit? (a b c d : Char) : Option Nat := do
  let a ← hexValue? a
  let b ← hexValue? b
  let c ← hexValue? c
  let d ← hexValue? d
  some (((a * 16 + b) * 16 + c) * 16 + d)

def isHighUnit (n : Nat) : Bool := 0xD800 ≤ n && n < 0xDC00

def isLowUnit (n : Nat) : Bool := 0xDC00 ≤ n && n < 0xE000

def simpleEscape? : Char → Option Char
  | '"' => some '"'
  | '\\' => some '\\'
  | '/' => some '/'
  | 'b' => some '\x08'
  | 'f' => some '\x0c'
  | 'n' => some '\n'
  | 'r' => some '\r'
  | 't' => some '\t'
  | _ => none

def prepend (c : Char) : Option (List Char × List Char) → Option (List Char × List Char)
  | some (s, rest) => some (c :: s, rest)
  | none => none

/-- The inside of a string, and what follows its closing quote. -/
def readString : Nat → List Char → Option (List Char × List Char)
  | 0, _ => none
  | fuel + 1, cs =>
    match cs with
    | '"' :: rest => some ([], rest)
    | '\\' :: 'u' :: a :: b :: c :: d :: rest =>
      match hexUnit? a b c d with
      | none => none
      | some n =>
        if isHighUnit n then
          match rest with
          | '\\' :: 'u' :: a :: b :: c :: d :: rest =>
            match hexUnit? a b c d with
            | some m =>
              if isLowUnit m then
                prepend (Char.ofNat (0x10000 + (n - 0xD800) * 0x400 + (m - 0xDC00)))
                  (readString fuel rest)
              else none
            | none => none
          | _ => none
        else if isLowUnit n then none
        else prepend (Char.ofNat n) (readString fuel rest)
    | '\\' :: c :: rest =>
      match simpleEscape? c with
      | some c => prepend c (readString fuel rest)
      | none => none
    | c :: rest => if c.toNat < 0x20 || c == '\\' then none else prepend c (readString fuel rest)
    | [] => none

/-! ## Numbers -/

def readDigits (cs : List Char) : Option (List Char × List Char) :=
  match cs.takeWhile Char.isDigit with
  | [] => none
  | ds => some (ds, cs.dropWhile Char.isDigit)

def readSign (signs : List Char) : List Char → List Char × List Char
  | c :: cs => if signs.contains c then ([c], cs) else ([], c :: cs)
  | [] => ([], [])

def readFraction : List Char → Option (List Char × List Char)
  | '.' :: cs => (readDigits cs).map fun (ds, rest) => ('.' :: ds, rest)
  | cs => some ([], cs)

def readExponent : List Char → Option (List Char × List Char)
  | c :: cs =>
    if c == 'e' || c == 'E' then
      let (sign, cs) := readSign ['+', '-'] cs
      (readDigits cs).map fun (ds, rest) => (c :: (sign ++ ds), rest)
    else some ([], c :: cs)
  | [] => some ([], [])

/-- A number, as it is written. A whole part has no leading zeros. -/
def readNumber (cs : List Char) : Option (List Char × List Char) := do
  let (sign, cs) := readSign ['-'] cs
  let (whole, cs) ← readDigits cs
  if whole.length > 1 && whole.head? == some '0' then none
  else do
    let (fraction, cs) ← readFraction cs
    let (exponent, cs) ← readExponent cs
    some (sign ++ whole ++ fraction ++ exponent, cs)

/-! ## Values -/

def dropWord : List Char → List Char → Option (List Char)
  | [], cs => some cs
  | w :: ws, c :: cs => if w == c then dropWord ws cs else none
  | _ :: _, [] => none

mutual

def readValue : Nat → List Char → Option (Json × List Char)
  | 0, _ => none
  | fuel + 1, cs =>
    match skipSpace cs with
    | '"' :: rest =>
      (readString (rest.length + 1) rest).map fun (s, rest) => (string (String.ofList s), rest)
    | '[' :: rest =>
      match skipSpace rest with
      | ']' :: rest => some (array [], rest)
      | rest => (readItems fuel rest).map fun (items, rest) => (array items, rest)
    | '{' :: rest =>
      match skipSpace rest with
      | '}' :: rest => some (object [], rest)
      | rest => (readMembers fuel rest).map fun (members, rest) => (object members, rest)
    | 't' :: rest => (dropWord "rue".toList rest).map fun rest => (bool true, rest)
    | 'f' :: rest => (dropWord "alse".toList rest).map fun rest => (bool false, rest)
    | 'n' :: rest => (dropWord "ull".toList rest).map fun rest => (null, rest)
    | cs => (readNumber cs).map fun (text, rest) => (number (String.ofList text), rest)

def readItems : Nat → List Char → Option (List Json × List Char)
  | 0, _ => none
  | fuel + 1, cs =>
    match readValue fuel cs with
    | none => none
    | some (item, rest) =>
      match skipSpace rest with
      | ',' :: rest => (readItems fuel rest).map fun (items, rest) => (item :: items, rest)
      | ']' :: rest => some ([item], rest)
      | _ => none

def readMembers : Nat → List Char → Option (List (String × Json) × List Char)
  | 0, _ => none
  | fuel + 1, cs =>
    match skipSpace cs with
    | '"' :: rest =>
      match readString (rest.length + 1) rest with
      | none => none
      | some (name, rest) =>
        match skipSpace rest with
        | ':' :: rest =>
          match readValue fuel rest with
          | none => none
          | some (value, rest) =>
            match skipSpace rest with
            | ',' :: rest =>
              (readMembers fuel rest).map fun (members, rest) =>
                ((String.ofList name, value) :: members, rest)
            | '}' :: rest => some ([(String.ofList name, value)], rest)
            | _ => none
        | _ => none
    | _ => none

end

/-- The value that a text is, with blanks around it. -/
def parse? (s : String) : Option Json :=
  match readValue (s.toList.length + 1) s.toList with
  | some (value, rest) => if (skipSpace rest).isEmpty then some value else none
  | none => none

end JavaCallGraph.Json
