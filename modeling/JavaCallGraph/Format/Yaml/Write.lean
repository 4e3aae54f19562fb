import JavaCallGraph.Format.Yaml.Plain

/-!
# Writing YAML

Maps from texts to lists of texts, in block style. A text is written without quotes where that reads
back as the same text, in single quotes where that is enough, in double quotes if it holds characters
that need an escape, and as a block of lines if it holds line feeds.

* `Yaml.Style`, `Yaml.styleOf` — how a text is written.
* `Yaml.scalar` — the written form of a text.
* `Yaml.write` — the written form of a map.
-/

namespace JavaCallGraph.Yaml

/-! ## Characters -/

def isBreak (c : Char) : Bool :=
  c == '\n' || c == '\r' || c == '\u0085' || c == '\u2028' || c == '\u2029'

def isPrintable (c : Char) : Bool :=
  let n := c.toNat
  n == 0x0A || (0x20 ≤ n && n ≤ 0x7E) || (0xA0 ≤ n && n ≤ 0xFFFD && n != 0xFEFF) || 0x10000 ≤ n

def isGap (c : Char) : Bool := c == ' ' || c == '\t' || isBreak c

/-- Does something for which `p` holds stand next before something for which `q` holds? -/
def hasPair (p q : Char → Bool) : List Char → Bool
  | c :: d :: cs => (p c && q d) || hasPair p q (d :: cs)
  | _ => false

/-! ## Styles -/

inductive Style where
  | plain
  | singleQuoted
  | doubleQuoted
  | literal
  deriving DecidableEq, Repr, Inhabited

def startIndicators : List Char :=
  ['#', ',', '[', ']', '\x7b', '\x7d', '&', '*', '!', '|', '>', '\'', '"', '%', '@', '\x60']

/-- Does a text mean something else in block style without quotes? -/
def hasIndicator (cs : List Char) : Bool :=
  (Text.dropStartChars? ['-', '-', '-'] cs).isSome || (Text.dropStartChars? ['.', '.', '.'] cs).isSome
  || cs.head?.any startIndicators.contains
  || (cs.head?.any (fun c => c == '?' || c == '-') && (cs[1]?.all isGap))
  || hasPair (· == ':') isGap cs || cs.getLast? == some ':'
  || hasPair isGap (· == '#') cs

def needsEscapes (cs : List Char) : Bool :=
  cs.any (!isPrintable ·) || hasPair (· == ' ') isBreak cs

def hasLooseEnd (cs : List Char) : Bool :=
  let loose (c : Char) := c == ' ' || isBreak c
  cs.head?.any loose || cs.getLast?.any loose

def styleOf (s : String) : Style :=
  let cs := s.toList
  if needsEscapes cs then .doubleQuoted
  else if cs.contains '\n' then
    if cs.getLast? == some ' ' then .doubleQuoted else .literal
  else if hasPair isBreak (· == ' ') cs then .doubleQuoted
  else if isTyped s || hasIndicator cs || hasLooseEnd cs || cs.any isBreak then .singleQuoted
  else .plain

/-! ## Written forms -/

def hex (width n : Nat) : List Char :=
  let digits := (Nat.toDigits 16 n).map Char.toUpper
  List.replicate (width - digits.length) '0' ++ digits

def escape (c : Char) : List Char :=
  match c with
  | '\u0000' => ['\\', '0']
  | '\u0007' => ['\\', 'a']
  | '\u0008' => ['\\', 'b']
  | '\t' => ['\\', 't']
  | '\n' => ['\\', 'n']
  | '\u000b' => ['\\', 'v']
  | '\u000c' => ['\\', 'f']
  | '\r' => ['\\', 'r']
  | '\u001b' => ['\\', 'e']
  | '"' => ['\\', '"']
  | '\\' => ['\\', '\\']
  | '\u0085' => ['\\', 'N']
  | '\u2028' => ['\\', 'L']
  | '\u2029' => ['\\', 'P']
  | _ =>
    let n := c.toNat
    if isPrintable c then [c]
    else if n ≤ 0xFF then '\\' :: 'x' :: hex 2 n
    else if n ≤ 0xFFFF then '\\' :: 'u' :: hex 4 n
    else '\\' :: 'U' :: hex 8 n

/-- A text in single quotes, quotes in it doubled; what follows a line break is indented. -/
def quoteLines (indent : Nat) (atStart : Bool) : List Char → List Char
  | [] => if atStart then List.replicate indent ' ' else []
  | c :: cs =>
    if isBreak c then c :: quoteLines indent true cs
    else
      (if atStart then List.replicate indent ' ' else []) ++ (if c == '\'' then ['\'', '\''] else [c])
        ++ quoteLines indent false cs

def indentLines (indent : Nat) (atStart : Bool) : List Char → List Char
  | [] => []
  | c :: cs =>
    if isBreak c then c :: indentLines indent true cs
    else (if atStart then List.replicate indent ' ' else []) ++ c :: indentLines indent false cs

/-- The head of a block of lines: whether its indentation must be told, and what becomes of the line
breaks at its end. -/
def blockHead (cs : List Char) : List Char :=
  let indentation := if cs.head?.any (fun c => c == ' ' || isBreak c) then ['2'] else []
  let ending := match cs.reverse with
    | [] => ['-']
    | [last] => if isBreak last then ['+'] else ['-']
    | last :: before :: _ =>
      if !isBreak last then ['-'] else if isBreak before then ['+'] else []
  '|' :: indentation ++ ending

def scalar (indent : Nat) (s : String) : List Char :=
  let cs := s.toList
  match styleOf s with
  | .plain => cs
  | .singleQuoted => '\'' :: quoteLines indent false cs ++ ['\'']
  | .doubleQuoted => '"' :: cs.flatMap escape ++ ['"']
  | .literal => blockHead cs ++ '\n' :: indentLines indent true cs

def endLine (cs : List Char) : List Char :=
  if cs.getLast? == some '\n' then cs else cs ++ ['\n']

def items (indent : Nat) (values : List String) : List Char :=
  values.flatMap fun value =>
    List.replicate indent ' ' ++ ['-', ' '] ++ endLine (scalar (indent + 2) value)

def isSimpleKey (key : String) : Bool := !key.toList.any isBreak && key.utf8ByteSize ≤ 128

/-- The entry of a key. The values of a key that is not simple stand on lines of their own after a
question mark and a colon. -/
def entry (key : String) (values : List String) : List Char :=
  let simple := isSimpleKey key
  let head := if simple then scalar 2 key ++ [':'] else ['?', ' '] ++ endLine (scalar 2 key) ++ [':']
  if values.isEmpty then head ++ [' ', '[', ']', '\n']
  else if simple then head ++ '\n' :: items 0 values
  else head ++ ' ' :: (items 2 values).drop 2

def write (entries : List (String × List String)) : String :=
  if entries.isEmpty then "\x7b\x7d\n"
  else String.ofList (entries.flatMap fun (key, values) => entry key values)

end JavaCallGraph.Yaml
