import JavaCallGraph.Format.Yaml.Write

/-!
# Places in a YAML text

* `Yaml.Cursor` — what is left of a text, and where it starts.
* `Yaml.Gap` — blanks and line breaks within a text, and what they amount to.
-/

namespace JavaCallGraph.Yaml

def isAllowed (c : Char) : Bool :=
  let n := c.toNat
  n == 0x09 || n == 0x0A || n == 0x0D || (0x20 ≤ n && n ≤ 0x7E) || n == 0x85 ||
    (0xA0 ≤ n && n ≤ 0xFFFD) || 0x10000 ≤ n

structure Cursor where
  rest : List Char
  index : Nat := 0
  line : Nat := 0
  column : Nat := 0
  deriving Inhabited

namespace Cursor

/-- The character `ahead` places on; the null character, which no text holds, after its end. -/
def peek (c : Cursor) (ahead : Nat := 0) : Char := c.rest[ahead]?.getD '\u0000'

def atEnd (c : Cursor) : Bool := c.rest.isEmpty

def atBlank (c : Cursor) : Bool := c.peek == ' ' || c.peek == '\t'

def atBreak (c : Cursor) : Bool := isBreak c.peek

def atGap (c : Cursor) (ahead : Nat := 0) : Bool :=
  isGap (c.peek ahead) || c.peek ahead == '\u0000'

def next (c : Cursor) : Cursor :=
  match c.rest with
  | [] => c
  | '\r' :: '\n' :: rest => ⟨rest, c.index + 2, c.line + 1, 0⟩
  | d :: rest =>
    if isBreak d then ⟨rest, c.index + 1, c.line + 1, 0⟩
    else ⟨rest, c.index + 1, c.line, c.column + 1⟩

def skip (c : Cursor) : Nat → Cursor
  | 0 => c
  | n + 1 => c.next.skip n

def skipWhile (c : Cursor) (p : Char → Bool) : Cursor := c.skip (c.rest.takeWhile p).length

/-- Does a mark of three characters that stands for the start or end of a document begin here? -/
def atDocumentMark (c : Cursor) : Bool :=
  c.column == 0 && c.atGap 3 && (c.rest.take 3 == ['-', '-', '-'] || c.rest.take 3 == ['.', '.', '.'])

/-- The line break here as it is kept: line feeds for all but the line and paragraph separators. -/
def breakChar (c : Cursor) : Char :=
  if c.peek == '\u2028' || c.peek == '\u2029' then c.peek else '\n'

end Cursor

structure Gap where
  blanks : List Char := []
  breaks : List Char := []
  escaped : Bool := false

namespace Gap

def startsLine (g : Gap) : Bool := g.escaped || !g.breaks.isEmpty

/-- What the gap amounts to: blanks stay, one line break becomes a space, and of several the first is
dropped. -/
def text (g : Gap) : List Char :=
  if g.escaped then g.breaks
  else
    match g.breaks with
    | [] => g.blanks
    | '\n' :: [] => [' ']
    | '\n' :: more => more
    | breaks => breaks

/-- Reads a gap. With `indent`, a tab before that column at the start of a line is refused. -/
def read (indent : Int) : (fuel : Nat) → Cursor → Gap → Option (Gap × Cursor)
  | 0, _, _ => none
  | fuel + 1, c, g =>
    if c.atBlank then
      if g.startsLine then
        if c.peek == '\t' && (c.column : Int) < indent then none else read indent fuel c.next g
      else read indent fuel c.next { g with blanks := g.blanks ++ [c.peek] }
    else if c.atBreak then
      read indent fuel c.next { g with blanks := [], breaks := g.breaks ++ [c.breakChar] }
    else some (g, c)

end Gap

end JavaCallGraph.Yaml
