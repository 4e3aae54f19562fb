import JavaCallGraph.Format.Toml
import JavaCallGraph.Text.Digit

/-!
# Reading TOML

* `Toml.parse?` — the table of a TOML text.

Each reader takes the characters that are left and gives a value with the characters after it, or
nothing where the text is not TOML.
-/

namespace JavaCallGraph.Toml

abbrev Reader (α : Type) := List Char → Option (α × List Char)

/-! ## Blanks and comments -/

def isBlank (c : Char) : Bool := c == ' ' || c == '\t'

def isTextChar (c : Char) : Bool := c == '\t' || (0x20 ≤ c.toNat && c.toNat != 0x7F)

def skipBlanks (cs : List Char) : List Char := cs.dropWhile isBlank

def skipComment : List Char → List Char
  | '#' :: cs => cs.dropWhile isTextChar
  | cs => cs

def lineEnd? : List Char → Option (List Char)
  | '\n' :: cs => some cs
  | '\r' :: '\n' :: cs => some cs
  | _ => none

def skipLines : (fuel : Nat) → List Char → List Char
  | 0, cs => cs
  | fuel + 1, cs =>
    let cs := skipComment (skipBlanks cs)
    match lineEnd? cs with
    | some rest => skipLines fuel rest
    | none => cs

/-! ## Texts -/

def escapes : List (Char × Char) :=
  [('b', '\u0008'), ('t', '\t'), ('n', '\n'), ('f', '\u000c'), ('r', '\r'), ('"', '"'), ('\\', '\\')]

def charOf? (digits : List Char) : Option Char := do
  let n ← Text.numberIn? 16 digits
  if n.isValidChar then some (Char.ofNat n) else none

def readBasic : Reader (List Char)
  | '"' :: cs => some ([], cs)
  | '\\' :: 'u' :: a :: b :: c :: d :: cs => do
    let e ← charOf? [a, b, c, d]
    let (text, rest) ← readBasic cs
    return (e :: text, rest)
  | '\\' :: 'U' :: a :: b :: c :: d :: e :: f :: g :: h :: cs => do
    let i ← charOf? [a, b, c, d, e, f, g, h]
    let (text, rest) ← readBasic cs
    return (i :: text, rest)
  | '\\' :: c :: cs => do
    let e ← escapes.lookup c
    let (text, rest) ← readBasic cs
    return (e :: text, rest)
  | c :: cs => do
    if !isTextChar c then none
    let (text, rest) ← readBasic cs
    return (c :: text, rest)
  | [] => none

def readLiteral : Reader (List Char)
  | '\'' :: cs => some ([], cs)
  | c :: cs => do
    if !isTextChar c then none
    let (text, rest) ← readLiteral cs
    return (c :: text, rest)
  | [] => none

/-- The end of a text in triple quotes: up to two quotes may stand before the last three. -/
def tripleEnd? (quote : Char) (cs : List Char) : Option (List Char × List Char) :=
  let count := (cs.takeWhile (· == quote)).length
  if count < 3 then none
  else
    let extra := min (count - 3) 2
    some (List.replicate extra quote, cs.drop (extra + 3))

/-- On past blanks and line ends after a backslash that ends a line. -/
def skipFolded : (fuel : Nat) → List Char → List Char
  | 0, cs => cs
  | fuel + 1, cs =>
    let cs := skipBlanks cs
    match lineEnd? cs with
    | some rest => skipFolded fuel rest
    | none => cs

/-- A text in three double or single quotes, after the first three. Only double quotes have escapes. -/
def readTriple (quote : Char) : (fuel : Nat) → Reader (List Char)
  | 0, _ => none
  | fuel + 1, cs =>
    match tripleEnd? quote cs with
    | some done => some done
    | none =>
      match cs with
      | [] => none
      | c :: rest =>
        if c == '\\' && quote == '"' then
          match (lineEnd? (skipBlanks rest)), rest with
          | some next, _ => readTriple quote fuel (skipFolded next.length next)
          | none, 'u' :: a :: b :: d :: e :: next => do
            let f ← charOf? [a, b, d, e]
            let (text, after) ← readTriple quote fuel next
            return (f :: text, after)
          | none, 'U' :: next => do
            let f ← charOf? (next.take 8)
            if next.length < 8 then none
            let (text, after) ← readTriple quote fuel (next.drop 8)
            return (f :: text, after)
          | none, d :: next => do
            let e ← escapes.lookup d
            let (text, after) ← readTriple quote fuel next
            return (e :: text, after)
          | none, [] => none
        else
          match lineEnd? cs with
          | some next => do
            let (text, after) ← readTriple quote fuel next
            return ('\n' :: text, after)
          | none => do
            if !isTextChar c then none
            let (text, after) ← readTriple quote fuel rest
            return (c :: text, after)

/-- A text in any quotes. A line end right after three quotes is dropped. -/
def readQuoted (multiline : Bool) (cs : List Char) : Option (List Char × List Char) :=
  let triple (quote : Char) (rest : List Char) :=
    if multiline then readTriple quote (rest.length + 1) ((lineEnd? rest).getD rest) else none
  match cs with
  | '"' :: '"' :: '"' :: rest => triple '"' rest
  | '\'' :: '\'' :: '\'' :: rest => triple '\'' rest
  | '"' :: rest => readBasic rest
  | '\'' :: rest => readLiteral rest
  | _ => none

/-! ## Numbers and dates -/

/-- Digits in a base with single underscores between them. -/
def groupedDigits? (base : Nat) (cs : List Char) : Option (List Char) :=
  let groups := (cs.splitOn '_')
  if groups.all fun group => !group.isEmpty && group.all fun c => (Text.digitIn? base c).isSome then
    some groups.flatten
  else none

def takeSign : List Char → Bool × List Char
  | '+' :: cs => (false, cs)
  | '-' :: cs => (true, cs)
  | cs => (false, cs)

/-- Decimal digits without a zero in front. -/
def decimalDigits? (cs : List Char) : Option (List Char) :=
  (groupedDigits? 10 cs).filter fun ds => ds.length == 1 || ds.head? != some '0'

def integer? (word : List Char) : Option Int := do
  let n : Int ← match word with
    | '0' :: 'x' :: ds => (groupedDigits? 16 ds).bind fun ds => (Text.numberIn? 16 ds).map Int.ofNat
    | '0' :: 'o' :: ds => (groupedDigits? 8 ds).bind fun ds => (Text.numberIn? 8 ds).map Int.ofNat
    | '0' :: 'b' :: ds => (groupedDigits? 2 ds).bind fun ds => (Text.numberIn? 2 ds).map Int.ofNat
    | _ =>
      let (negative, ds) := takeSign word
      (decimalDigits? ds).map fun ds =>
        let value : Int := Text.digitsValue ds
        if negative then -value else value
  let bound := Int.ofNat (Nat.pow 2 63)
  if -bound ≤ n && n < bound then some n else none

/-- Is a word a number with a fraction or an exponent, or one that is not finite? -/
def isFloat (word : List Char) : Bool :=
  let ds := (takeSign word).2
  let cutAt (p : Char → Bool) (cs : List Char) := (cs.takeWhile (!p ·), cs.dropWhile (!p ·))
  let (mantissa, exponent) := cutAt (fun c => c == 'e' || c == 'E') ds
  let (whole, fraction) := cutAt (· == '.') mantissa
  let goodExponent := exponent.isEmpty || (groupedDigits? 10 (takeSign (exponent.drop 1)).2).isSome
  let goodFraction := fraction.isEmpty || (groupedDigits? 10 (fraction.drop 1)).isSome
  ds == ['i', 'n', 'f'] || ds == ['n', 'a', 'n'] ||
    ((decimalDigits? whole).isSome && goodFraction && goodExponent &&
      !(fraction.isEmpty && exponent.isEmpty))

def twoDigits? : List Char → Option Nat
  | [a, b] => if a.isDigit && b.isDigit then some (Text.digitsValue [a, b]) else none
  | _ => none

def daysIn (year month : Nat) : Nat :=
  if month == 2 then
    if year % 4 == 0 && (year % 100 != 0 || year % 400 == 0) then 29 else 28
  else if month == 4 || month == 6 || month == 9 || month == 11 then 30 else 31

def isDate (cs : List Char) : Bool :=
  match cs.splitOn '-' with
  | [year, month, day] =>
    year.length == 4 && year.all Char.isDigit &&
      (twoDigits? month).any fun m => 1 ≤ m && m ≤ 12 &&
        (twoDigits? day).any fun d => 1 ≤ d && d ≤ daysIn (Text.digitsValue year) m
  | _ => false

def isTime (cs : List Char) : Bool :=
  let whole := cs.takeWhile (· != '.')
  let fraction := cs.dropWhile (· != '.')
  (match whole.splitOn ':' with
    | [hour, minute, second] =>
      (twoDigits? hour).any (· ≤ 23) && (twoDigits? minute).any (· ≤ 59) &&
        (twoDigits? second).any (· ≤ 60)
    | _ => false) &&
  (fraction.isEmpty || (fraction.length > 1 && (fraction.drop 1).all Char.isDigit))

def isOffsetTime (cs : List Char) : Bool :=
  let time := cs.takeWhile fun c => c != 'Z' && c != 'z' && c != '+' && c != '-'
  isTime time &&
    match cs.drop time.length with
    | [] => true
    | ['Z'] => true
    | ['z'] => true
    | _ :: offset =>
      match offset.splitOn ':' with
      | [hour, minute] => (twoDigits? hour).any (· ≤ 24) && (twoDigits? minute).any (· ≤ 59)
      | _ => false

def isDatetime (cs : List Char) : Bool :=
  isDate cs || isTime cs ||
    (isDate (cs.take 10) && (match cs.drop 10 with
      | c :: time => (c == 'T' || c == 't' || c == ' ') && isOffsetTime time
      | [] => false))

def isWordChar (c : Char) : Bool :=
  c.isAlphanum || c == '+' || c == '-' || c == '_' || c == '.' || c == ':'

/-- A word; a space may stand between a date and a time. -/
def readWord (cs : List Char) : List Char × List Char :=
  let word := cs.takeWhile isWordChar
  let rest := cs.dropWhile isWordChar
  match isDate word, rest with
  | true, ' ' :: a :: b :: ':' :: more =>
    if a.isDigit && b.isDigit then
      let time := (a :: b :: ':' :: more).takeWhile isWordChar
      (word ++ ' ' :: time, (a :: b :: ':' :: more).drop time.length)
    else (word, rest)
  | _, _ => (word, rest)

def wordValue? (word : List Char) : Option Toml :=
  if word == "true".toList then some (.boolean true)
  else if word == "false".toList then some (.boolean false)
  else if isDatetime word then some .datetime
  else if isFloat word then some .float
  else (integer? word).map .integer

/-! ## Keys and values -/

def isKeyChar (c : Char) : Bool := c.isAlphanum || c == '_' || c == '-'

def readKeyPart (cs : List Char) : Option (String × List Char) :=
  match cs.takeWhile isKeyChar with
  | [] => (readQuoted false cs).map fun (text, rest) => (String.ofList text, rest)
  | key => some (String.ofList key, cs.dropWhile isKeyChar)

/-- The parts of a key that dots divide, and the place after it and the blanks behind it. -/
def readKey : (fuel : Nat) → Reader (List String)
  | 0, _ => none
  | fuel + 1, cs => do
    let (part, rest) ← readKeyPart (skipBlanks cs)
    match skipBlanks rest with
    | '.' :: rest =>
      let (parts, rest) ← readKey fuel rest
      return (part :: parts, rest)
    | rest => return ([part], rest)

mutual

def readValue : (fuel : Nat) → Reader Toml
  | 0, _ => none
  | fuel + 1, cs =>
    match cs with
    | '[' :: rest => readItems fuel true rest []
    | '\x7b' :: rest =>
      match skipBlanks rest with
      | '\x7d' :: rest => some (.table .braces [], rest)
      | rest => readMembers fuel rest []
    | '"' :: _ => (readQuoted true cs).map fun (text, rest) => (.string (String.ofList text), rest)
    | '\'' :: _ => (readQuoted true cs).map fun (text, rest) => (.string (String.ofList text), rest)
    | _ =>
      let (word, rest) := readWord cs
      (wordValue? word).map (·, rest)

/-- The items of an array; `ready` says that an item may start here. -/
def readItems : (fuel : Nat) → (ready : Bool) → List Char → List Toml → Option (Toml × List Char)
  | 0, _, _, _ => none
  | fuel + 1, ready, cs, items => do
    match skipLines cs.length cs with
    | ']' :: rest => return (.array items, rest)
    | ',' :: rest => if ready then none else readItems fuel true rest items
    | cs =>
      if !ready then none
      let (item, rest) ← readValue fuel cs
      readItems fuel false rest (items ++ [item])

def readMembers : (fuel : Nat) → List Char → Entries → Option (Toml × List Char)
  | 0, _, _ => none
  | fuel + 1, cs, entries => do
    let (path, rest) ← readKey (cs.length + 1) cs
    match rest with
    | '=' :: rest =>
      let (value, rest) ← readValue fuel (skipBlanks rest)
      let entries ← assign value path entries
      match skipBlanks rest with
      | ',' :: rest => readMembers fuel rest entries
      | '\x7d' :: rest => return (.table .braces entries, rest)
      | _ => none
    | _ => none

end

/-! ## Documents -/

/-- Reads the rest of a text, given the header of the current table and what was read so far. -/
def readLines : (fuel : Nat) → (header : List String) → List Char → Entries → Option Entries
  | 0, _, _, _ => none
  | fuel + 1, header, cs, entries => do
    let cs := skipLines cs.length cs
    let finish (header : List String) (rest : List Char) (entries : Entries) : Option Entries :=
      let rest := skipComment (skipBlanks rest)
      if rest.isEmpty then some entries
      else (lineEnd? rest).bind fun rest => readLines fuel header rest entries
    match cs with
    | [] => return entries
    | '[' :: '[' :: rest =>
      let (path, rest) ← readKey (rest.length + 1) rest
      match rest with
      | ']' :: ']' :: rest => finish path rest (← openArray path entries)
      | _ => none
    | '[' :: rest =>
      let (path, rest) ← readKey (rest.length + 1) rest
      match rest with
      | ']' :: rest => finish path rest (← openTable path entries)
      | _ => none
    | _ =>
      let (path, rest) ← readKey (cs.length + 1) cs
      match rest with
      | '=' :: rest =>
        let rest := skipBlanks rest
        let (value, rest) ← readValue (rest.length + 1) rest
        finish header rest (← addAt header path value entries)
      | _ => none

def parse? (text : String) : Option Entries :=
  let cs := match text.toList with
    | '\uFEFF' :: cs => cs
    | cs => cs
  readLines (cs.length + 1) [] cs []

end JavaCallGraph.Toml
