import JavaCallGraph.Java.Token
import JavaCallGraph.Text.Letter

/-!
# Reading tokens

Cutting a Java text into tokens. Each form of token has a measure that says how many characters of
a text it takes, or that the text does not start with such a token; where two forms apply, the
longer one wins.

* `Measure` and its combinators — how far a form reaches.
* `integer`, `floating`, `character`, `word`, `symbol` — the forms.
* `isGap` — what may stand between tokens.
* `tokens` — the tokens of a text, ended by one of form `finish`.
-/

namespace JavaCallGraph.Java.Token

open JavaCallGraph.Text

/-! ## Measures -/

/-- How many characters at the front of a text belong to a form. -/
abbrev Measure := List Char → Option Nat

def one (p : Char → Bool) : Measure
  | c :: _ => if p c then some 1 else none
  | [] => none

def oneOf (s : String) : Measure := one fun c => s.toList.contains c

def followedBy (p q : Measure) : Measure := fun cs => do
  let n ← p cs
  let m ← q (cs.drop n)
  some (n + m)

def optionally (p : Measure) : Measure := fun cs => some ((p cs).getD 0)

def sequence (ps : List Measure) : Measure := ps.foldr followedBy fun _ => some 0

def longest (ps : List Measure) : Measure := fun cs =>
  ps.foldl (fun best p =>
    match best, p cs with
    | some n, some m => some (max n m)
    | some n, none => some n
    | none, found => found) none

/-! ## Numbers -/

/-- Digits of a class in groups divided by single underscores, after a first digit. -/
def digitsTail (p : Char → Bool) : List Char → Nat
  | [] => 0
  | c :: cs =>
    if p c then digitsTail p cs + 1
    else if c == '_' && (one p cs).isSome then digitsTail p cs + 1
    else 0

def digits (p : Char → Bool) : Measure
  | c :: cs => if p c then some (digitsTail p cs + 1) else none
  | [] => none

/-- Decimal digits in groups divided by runs of underscores, after a first digit. -/
def groupedTail : List Char → Nat
  | [] => 0
  | c :: cs =>
    if c.isDigit then groupedTail cs + 1
    else if c == '_' && (one Char.isDigit (cs.dropWhile (· == '_'))).isSome then groupedTail cs + 1
    else 0

def decimal : Measure
  | '0' :: _ => some 1
  | c :: '_' :: '_' :: _ => if c.isDigit then some 1 else none
  | c :: cs => if c.isDigit then some (groupedTail cs + 1) else none
  | [] => none

def isHexDigit (c : Char) : Bool :=
  c.isDigit || ('a' ≤ c && c ≤ 'f') || ('A' ≤ c && c ≤ 'F')

def isOctalDigit (c : Char) : Bool := '0' ≤ c && c ≤ '7'

def integer : Measure :=
  let long := optionally (oneOf "lL")
  longest
    [sequence [decimal, long],
      sequence [oneOf "0", oneOf "xX", digits isHexDigit, long],
      sequence [oneOf "0", optionally (oneOf "oO"), digits isOctalDigit, long],
      sequence [oneOf "0", oneOf "bB", digits fun c => c == '0' || c == '1', long]]

def exponent (marks : String) : Measure :=
  sequence [oneOf marks, optionally (oneOf "-+"), digits Char.isDigit]

def floating : Measure :=
  let size := optionally (oneOf "fFdD")
  let whole := digits Char.isDigit
  let hex := digits isHexDigit
  longest
    [sequence [whole, oneOf ".", optionally whole, optionally (exponent "eE"), size],
      sequence [oneOf ".", whole, optionally (exponent "eE"), size],
      sequence [decimal, exponent "eE", size],
      sequence [decimal, optionally (exponent "eE"), oneOf "fFdD"],
      sequence [oneOf "0", oneOf "xX",
        longest [sequence [hex, optionally (oneOf ".")],
          sequence [optionally hex, oneOf ".", hex]],
        optionally (sequence [exponent "eEpP", size])]]

/-! ## Characters, words and symbols -/

def characterTail : List Char → Option Nat
  | '\\' :: _ :: cs => (characterTail cs).map (· + 2)
  | '\'' :: _ => some 1
  | '\n' :: _ => none
  | _ :: cs => (characterTail cs).map (· + 1)
  | [] => none

def character : Measure
  | '\'' :: '\'' :: _ => none
  | '\'' :: cs => (characterTail cs).map (· + 1)
  | _ => none

def word : Measure
  | c :: cs =>
    if startsIdentifier c then some ((cs.takeWhile continuesIdentifier).length + 1) else none
  | [] => none

/-- Symbols of more than one character. A `>` is always a symbol of its own, because it may close
one of several nested lists; the operators that start with it are glued together by the grammar. -/
def longSymbols : List (List Char) :=
  ["...", "->", "::", "++", "--", "+=", "-=", "*=", "/=", "&=", "|=", "^=", "%=", "<<=", "<=", "<<",
    "==", "!=", ">=", "&&", "||"].map String.toList

def shortSymbols : List Char := "()\x7b\x7d[];,.@=<>!~?:+-*/&|^%".toList

def symbol (cs : List Char) : Option Nat :=
  match longSymbols.find? fun s => s.isPrefixOf cs with
  | some s => some s.length
  | none => one shortSymbols.contains cs

/-! ## Comments -/

def blockTail : List Char → Option Nat
  | '*' :: '/' :: _ => some 2
  | _ :: cs => (blockTail cs).map (· + 1)
  | [] => none

/-! ## Strings -/

inductive StringStop where
  | closed
  | embedded
  /-- At an escape that does not exist. -/
  | badEscape
  | unfinished

/-- The characters of an escape after its backslash. Octal escapes have one to three digits, `x` two
hexadecimal digits and `u` four, or any number of them in braces; any other character stands for
itself. -/
def escapeTail : Measure
  | 'x' :: cs => (sequence [one isHexDigit, one isHexDigit] cs).map (· + 1)
  | 'u' :: '{' :: cs =>
    let n := (cs.takeWhile isHexDigit).length
    if n != 0 && ['}'].isPrefixOf (cs.drop n) then some (n + 3) else none
  | 'u' :: cs =>
    (sequence [one isHexDigit, one isHexDigit, one isHexDigit, one isHexDigit] cs).map (· + 1)
  | c :: cs =>
    if isOctalDigit c then
      some (min 2 (cs.takeWhile isOctalDigit).length + 1)
    else some 1
  | [] => none

/-- How far the inside of a string reaches, and why it stops there. A text block (`block`) ends at
three quotes and takes any escape. -/
def stringTail (block : Bool) : Nat → List Char → Nat × StringStop
  | 0, _ => (0, .unfinished)
  | _, [] => (0, .unfinished)
  | fuel + 1, '\\' :: cs =>
    if ['\x7b'].isPrefixOf cs then (2, .embedded)
    else
      match if block then (if cs.isEmpty then none else some 1) else escapeTail cs with
      | none => (0, if cs.isEmpty then .unfinished else .badEscape)
      | some n =>
        let (m, stop) := stringTail block fuel (cs.drop n)
        (m + n + 1, stop)
  | fuel + 1, '"' :: cs =>
    if !block then (1, .closed)
    else if ['"', '"'].isPrefixOf cs then (3, .closed)
    else
      let (m, stop) := stringTail block fuel cs
      (m + 1, stop)
  | fuel + 1, _ :: cs =>
    let (m, stop) := stringTail block fuel cs
    (m + 1, stop)

/-- The string around an embedded expression: is it a text block, and how many braces are open
inside the expression. -/
structure Embedding where
  block : Bool
  braces : Nat

def stringForm (first : Bool) : StringStop → Form
  | .closed => if first then .string else .stringTail
  | .embedded => if first then .stringHead else .stringMiddle
  | .badEscape => .stray
  | .unfinished => .openString

/-- The string part whose inside starts after the first `skip` characters of `cs`. -/
def stringPart (first block : Bool) (skip : Nat) (around : List Embedding) (cs : List Char) :
    Form × Nat × List Embedding :=
  let inner := cs.drop skip
  let (n, stop) := stringTail block (inner.length + 1) inner
  let around := match stop with
    | .embedded => ⟨block, 0⟩ :: around
    | _ => around
  (stringForm first stop, skip + n, around)

/-! ## Tokens -/

/-- The number that `cs` starts with: an integer unless a floating-point form reaches further. -/
def number (cs : List Char) : Option (Form × Nat) :=
  match integer cs, floating cs with
  | some n, some m => if n < m then some (.floating, m) else some (.integer, n)
  | some n, none => some (.integer, n)
  | none, some m => some (.floating, m)
  | none, none => none

/-- Form and length of the token that the text `cs` starts with, given the strings around the
embedded expression that is being read. -/
def next (around : List Embedding) (cs : List Char) : Form × Nat × List Embedding :=
  match cs with
  | '/' :: '/' :: rest => (.lineComment, 2 + (rest.takeWhile (· != '\n')).length, around)
  | '"' :: '"' :: '"' :: _ => stringPart true true 3 around cs
  | '"' :: _ => stringPart true false 1 around cs
  | c :: rest =>
    if c == '/' && ['*'].isPrefixOf rest && (blockTail (rest.drop 1)).isSome then
      (.blockComment, 2 + (blockTail (rest.drop 1)).getD 0, around)
    else if c == '}' && around.head?.any (·.braces == 0) then
      stringPart false (around.head?.any (·.block)) 1 around.tail cs
    else
      let around := match c, around with
        | '{', e :: es => { e with braces := e.braces + 1 } :: es
        | '}', e :: es => { e with braces := e.braces - 1 } :: es
        | _, es => es
      match word cs with
      | some n => (.word, n, around)
      | none =>
        match number cs with
        | some (form, n) => (form, n, around)
        | none =>
          match character cs with
          | some n => (.character, n, around)
          | none =>
            match symbol cs with
            | some n => (.symbol, n, around)
            | none => (.stray, 1, around)
  | [] => (.finish, 0, around)

/-- Blanks of a source text are those of ASCII only, from the tab to the carriage return and the space.
Any other blank character is a stray one there. -/
def isGap (c : Char) : Bool := c == ' ' || (9 ≤ c.toNat && c.toNat ≤ 13)

/-- The tokens of `cs`, which starts on the given line. Every step but the last takes at least one
character, so `fuel` need not exceed the length by more than one. -/
def scan : Nat → List Embedding → Nat → List Char → List Token
  | 0, _, _, _ => []
  | fuel + 1, around, line, cs =>
    let gap := String.ofList (cs.takeWhile isGap)
    let cs := cs.dropWhile isGap
    let line := line + lineFeeds gap
    match cs with
    | [] => [⟨.finish, gap, "", line⟩]
    | _ :: _ =>
      let (form, n, around) := next around cs
      let text := String.ofList (cs.take n)
      ⟨form, gap, text, line⟩ :: scan fuel around (line + lineFeeds text) (cs.drop n)

/-- The tokens of a text, a byte order mark at its start aside. -/
def tokens (source : String) : List Token :=
  let cs := match source.toList with
    | '\uFEFF' :: cs => cs
    | cs => cs
  scan (cs.length + 1) [] 1 cs

end JavaCallGraph.Java.Token
