import JavaCallGraph.Format.Yaml.Cursor

/-!
# Reading YAML texts

The four ways in which a YAML file spells a text. Each reader starts at the first character of the text
and gives the text with the place after it.

* `Yaml.readPlain` — without quotes.
* `Yaml.readSingleQuoted`, `Yaml.readDoubleQuoted` — in quotes.
* `Yaml.readBlock` — as a block of lines.
-/

namespace JavaCallGraph.Yaml

/-! ## Without quotes -/

def isFlowIndicator (c : Char) : Bool :=
  c == ',' || c == '[' || c == ']' || c == '\x7b' || c == '\x7d'

def endsPlain (inFlow : Bool) (c : Cursor) : Bool :=
  (c.peek == ':' && c.atGap 1) || (inFlow && isFlowIndicator c.peek)

def readPlainWord (inFlow : Bool) : (fuel : Nat) → Cursor → Option (List Char × Cursor)
  | 0, _ => none
  | fuel + 1, c =>
    if c.atGap || endsPlain inFlow c then some ([], c)
    else if inFlow && c.peek == ':' && (isFlowIndicator (c.peek 1) || c.peek 1 == '?') then none
    else (readPlainWord inFlow fuel c.next).map fun (word, after) => (c.peek :: word, after)

/-- The rest of a text without quotes after a gap. It goes on below `indent` only in brackets. The
answer tells also whether a line starts right after the text. -/
def readPlainFrom (indent : Int) (inFlow : Bool) :
    (fuel : Nat) → Gap → Cursor → Option (List Char × Bool × Cursor)
  | 0, _, _ => none
  | fuel + 1, gap, c =>
    if c.atDocumentMark || c.peek == '#' then some ([], gap.startsLine, c)
    else do
      let (word, after) ← readPlainWord inFlow (c.rest.length + 1) c
      let front := if word.isEmpty then [] else gap.text ++ word
      let started := word.isEmpty && gap.startsLine
      if after.atBlank || after.atBreak then
        let pending := if word.isEmpty then gap else {}
        let (gap, next) ← Gap.read indent (after.rest.length + 1) after pending
        if !inFlow && (next.column : Int) < indent then
          some (front, gap.startsLine, next)
        else
          let (rest, startsLine, stop) ← readPlainFrom indent inFlow fuel gap next
          some (front ++ rest, startsLine, stop)
      else some (front, started, after)

def readPlain (indent : Int) (inFlow : Bool) (c : Cursor) : Option (List Char × Bool × Cursor) :=
  readPlainFrom indent inFlow (c.rest.length + 1) {} c

/-! ## In quotes -/

def readSingleFrom : (fuel : Nat) → Cursor → Option (List Char × Cursor)
  | 0, _ => none
  | fuel + 1, c =>
    if c.atEnd || c.atDocumentMark then none
    else if c.peek == '\'' then
      if c.peek 1 == '\'' then
        (readSingleFrom fuel (c.skip 2)).map fun (text, after) => ('\'' :: text, after)
      else some ([], c.next)
    else if c.atGap then do
      let (gap, next) ← Gap.read 0 (c.rest.length + 1) c {}
      (readSingleFrom fuel next).map fun (text, after) => (gap.text ++ text, after)
    else (readSingleFrom fuel c.next).map fun (text, after) => (c.peek :: text, after)

def readSingleQuoted (c : Cursor) : Option (List Char × Cursor) :=
  readSingleFrom (c.rest.length + 1) c.next

def escapes : List (Char × Char) :=
  [('0', '\u0000'), ('a', '\u0007'), ('b', '\u0008'), ('t', '\t'), ('\t', '\t'), ('n', '\n'),
    ('v', '\u000b'), ('f', '\u000c'), ('r', '\r'), ('e', '\u001b'), (' ', ' '), ('"', '"'),
    ('/', '/'), ('\\', '\\'), ('N', '\u0085'), ('_', '\u00A0'), ('L', '\u2028'), ('P', '\u2029')]

/-- The number of digits in the escapes for characters by number. -/
def escapeWidths : List (Char × Nat) := [('x', 2), ('u', 4), ('U', 8)]

def readEscape (c : Cursor) : Option (Char × Cursor) :=
  match escapes.lookup (c.peek 1) with
  | some d => some (d, c.skip 2)
  | none => do
    let width ← escapeWidths.lookup (c.peek 1)
    let digits := (c.rest.drop 2).take width
    if digits.length < width then none
    let n ← numberIn? 16 digits
    if n.isValidChar then some (Char.ofNat n, c.skip (width + 2)) else none

def readDoubleFrom : (fuel : Nat) → Cursor → Option (List Char × Cursor)
  | 0, _ => none
  | fuel + 1, c =>
    if c.atEnd || c.atDocumentMark then none
    else if c.peek == '"' then some ([], c.next)
    else if c.peek == '\\' then
      if isBreak (c.peek 1) then do
        let (gap, next) ← Gap.read 0 (c.rest.length + 1) (c.skip 2) { escaped := true }
        (readDoubleFrom fuel next).map fun (text, after) => (gap.text ++ text, after)
      else do
        let (d, next) ← readEscape c
        (readDoubleFrom fuel next).map fun (text, after) => (d :: text, after)
    else if c.atGap then do
      let (gap, next) ← Gap.read 0 (c.rest.length + 1) c {}
      (readDoubleFrom fuel next).map fun (text, after) => (gap.text ++ text, after)
    else (readDoubleFrom fuel c.next).map fun (text, after) => (c.peek :: text, after)

def readDoubleQuoted (c : Cursor) : Option (List Char × Cursor) :=
  readDoubleFrom (c.rest.length + 1) c.next

/-! ## Blocks of lines -/

inductive Chomp where
  | strip
  | clip
  | keep
  deriving DecidableEq, Inhabited

def chompOf? (c : Char) : Option Chomp :=
  if c == '+' then some .keep else if c == '-' then some .strip else none

/-- The head of a block after its first character: chomping, and the depth of its lines if that is
told. -/
def readBlockHead (c : Cursor) : Option (Chomp × Nat × Cursor) :=
  let digit? (d : Char) : Option Nat := if d.isDigit then some (d.toNat - 48) else none
  match chompOf? c.peek, digit? c.peek with
  | some chomp, _ =>
    match digit? (c.peek 1) with
    | some 0 => none
    | some n => some (chomp, n, c.skip 2)
    | none => some (chomp, 0, c.next)
  | none, some 0 => none
  | none, some n =>
    match chompOf? (c.peek 1) with
    | some chomp => some (chomp, n, c.skip 2)
    | none => some (.clip, n, c.next)
  | none, none => some (.clip, 0, c)

/-- Reads empty lines and the indentation of the next line: the line breaks, the deepest column met, and
the place. `depth` is zero while the depth of the block is not known. -/
def readBlockBreaks (depth : Nat) : (fuel : Nat) → (deepest : Nat) → Cursor →
    Option (List Char × Nat × Cursor)
  | 0, _, _ => none
  | fuel + 1, deepest, c =>
    let spaces := (c.rest.takeWhile (· == ' ')).length
    let c := c.skip (if depth == 0 then spaces else min spaces (depth - c.column))
    let deepest := max deepest c.column
    if (depth == 0 || c.column < depth) && c.peek == '\t' then none
    else if c.atBreak then
      (readBlockBreaks depth fuel deepest c.next).map fun (breaks, deepest, after) =>
        (c.breakChar :: breaks, deepest, after)
    else some ([], deepest, c)

/-- The lines of a block, given the line break before the current line (none before the first), the
breaks after it, and whether the last line started with a blank. -/
def readBlockLines (literal : Bool) (chomp : Chomp) (depth : Nat) :
    (fuel : Nat) → (lead : List Char) → (trail : List Char) → (blankBefore : Bool) → Cursor →
    Option (List Char × Cursor)
  | 0, _, _, _, _ => none
  | fuel + 1, lead, trail, blankBefore, c =>
    if c.column == depth && !c.atEnd then do
      let blank := c.atBlank
      let front :=
        if !literal && lead == ['\n'] && !blankBefore && !blank then
          (if trail.isEmpty then [' '] else []) ++ trail
        else lead ++ trail
      let line := c.rest.takeWhile (!isBreak ·)
      let stop := c.skip line.length
      let lead := if stop.atEnd then [] else [stop.breakChar]
      let (trail, _, next) ← readBlockBreaks depth (stop.rest.length + 1) 0 stop.next
      let (rest, after) ← readBlockLines literal chomp depth fuel lead trail blank next
      some (front ++ line ++ rest, after)
    else
      some ((if chomp == .strip then [] else lead) ++ (if chomp == .keep then trail else []), c)

def readBlock (indent : Int) (literal : Bool) (c : Cursor) : Option (List Char × Cursor) := do
  let (chomp, told, c) ← readBlockHead c.next
  let c := c.skipWhile fun d => d == ' ' || d == '\t'
  let c := if c.peek == '#' then c.skipWhile (!isBreak ·) else c
  if !(c.atEnd || c.atBreak) then none
  let depth := if told == 0 then 0 else (max indent 0).toNat + told
  let (trail, deepest, next) ← readBlockBreaks depth (c.rest.length + 1) 0 c.next
  let depth := if told == 0 then max deepest (max (indent + 1) 1).toNat else depth
  readBlockLines literal chomp depth (next.rest.length + 2) [] trail false next

end JavaCallGraph.Yaml
