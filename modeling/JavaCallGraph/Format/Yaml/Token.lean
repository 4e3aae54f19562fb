import JavaCallGraph.Format.Yaml.Scalar

/-!
# Tokens of YAML texts

A YAML text as a list of tokens, in which the structure that indentation expresses is explicit: blocks
start and end with tokens of their own, and a token stands before each key, even where only the colon
after it shows that it is one.

* `Yaml.Token` — the tokens.
* `Yaml.tokens?` — the tokens of a text.
-/

namespace JavaCallGraph.Yaml

inductive Token where
  | directive
  | documentStart
  | documentEnd
  | blockListStart
  | blockMapStart
  | blockEnd
  | flowListStart
  | flowListEnd
  | flowMapStart
  | flowMapEnd
  | item
  | comma
  | key
  | value
  | alias (name : String)
  | anchor (name : String)
  | tag
  | scalar (text : String) (plain : Bool)
  deriving DecidableEq, Repr, Inhabited

/-- A place that may turn out to be the start of a key. -/
structure KeyPlace where
  position : Nat
  index : Nat
  line : Nat
  column : Nat
  /-- Here nothing but a key can stand. -/
  required : Bool

structure TokenReader where
  cursor : Cursor
  tokens : Array Token := #[]
  /-- The column of the innermost block; -1 outside of blocks. -/
  indent : Int := -1
  outerIndents : List Int := []
  /-- The possible start of a key at each level of brackets, innermost first. -/
  keys : List (Option KeyPlace) := [none]
  keyAllowed : Bool := true

namespace TokenReader

/-- Within brackets, indentation means nothing. -/
def inFlow (r : TokenReader) : Bool := r.keys.length > 1

def push (r : TokenReader) (t : Token) : TokenReader := { r with tokens := r.tokens.push t }

def withCursor (r : TokenReader) (c : Cursor) : TokenReader := { r with cursor := c }

def skip (r : TokenReader) (n : Nat) : TokenReader := r.withCursor (r.cursor.skip n)

def insertAt (r : TokenReader) (position : Nat) (t : Token) : TokenReader :=
  let before := r.tokens.toList.take position
  let after := r.tokens.toList.drop position
  { r with tokens := (before ++ t :: after).toArray }

/-! ## Blocks -/

/-- Opens a block at a column, with its token at a position, unless one is open there. -/
def openBlock (r : TokenReader) (column position : Nat) (t : Token) : TokenReader :=
  if !r.inFlow && r.indent < column then
    { r with indent := column, outerIndents := r.indent :: r.outerIndents }.insertAt position t
  else r

def closeBlocks (r : TokenReader) (column : Int) : TokenReader :=
  if r.inFlow then r
  else
    let closed := (r.indent :: r.outerIndents).takeWhile (· > column)
    match (r.indent :: r.outerIndents).drop closed.length with
    | indent :: outer =>
      { r with
        tokens := r.tokens ++ (closed.map fun _ => Token.blockEnd).toArray
        indent := indent
        outerIndents := outer }
    | [] => r

/-! ## Possible keys -/

/-- Forgets places that can no longer be keys: a key ends on its line and within 1024 characters. -/
def dropStaleKeys (r : TokenReader) : Option TokenReader := do
  let keys ← r.keys.mapM fun
    | none => some none
    | some k =>
      if k.line < r.cursor.line || k.index + 1024 < r.cursor.index then
        if k.required then none else some none
      else some (some k)
  return { r with keys }

def removeKey (r : TokenReader) : Option TokenReader :=
  match r.keys with
  | some k :: outer => if k.required then none else some { r with keys := none :: outer }
  | _ => some r

def noteKey (r : TokenReader) : Option TokenReader :=
  if r.keyAllowed then do
    let required := !r.inFlow && r.indent == r.cursor.column
    let r ← r.removeKey
    let place : KeyPlace :=
      ⟨r.tokens.size, r.cursor.index, r.cursor.line, r.cursor.column, required⟩
    return { r with keys := some place :: r.keys.drop 1 }
  else some r

/-! ## Reading one token -/

/-- On past blanks, comments and line breaks. A tab is a blank where no key can start. -/
def skipBlanks : (fuel : Nat) → TokenReader → TokenReader
  | 0, r => r
  | fuel + 1, r =>
    let tabs := r.inFlow || !r.keyAllowed
    let c := r.cursor.skipWhile fun d => d == ' ' || (tabs && d == '\t')
    let c := if c.peek == '#' then c.skipWhile (!isBreak ·) else c
    if c.atBreak then
      skipBlanks fuel { r with cursor := c.next, keyAllowed := r.keyAllowed || !r.inFlow }
    else r.withCursor c

def isAnchorChar (c : Char) : Bool := c.isAlphanum || c == '_' || c == '-'

def readName (c : Cursor) : Option (String × Cursor) :=
  let name := c.next.rest.takeWhile isAnchorChar
  let after := c.skip (name.length + 1)
  if name.isEmpty then none
  else if after.atGap || ['?', ':', ',', ']', '\x7d', '%', '@', '\x60'].contains after.peek then
    some (String.ofList name, after)
  else none

def isTagChar (c : Char) : Bool :=
  c.isAlphanum || "-_;/?:@&=+$.!~*'()%".toList.contains c

def skipTag (inFlow : Bool) (c : Cursor) : Option Cursor :=
  let after :=
    if c.peek 1 == '<' then
      let uri := (c.skip 2).rest.takeWhile isTagChar
      let stop := c.skip (uri.length + 2)
      if !uri.isEmpty && stop.peek == '>' then some stop.next else none
    else some (c.next.skipWhile isTagChar)
  after.filter fun c => c.atGap || (inFlow && c.peek == ',')

/-- The line of a directive; only those for versions and tags are known. -/
def skipDirective (c : Cursor) : Option Cursor :=
  let name := c.next.rest.takeWhile fun d => d.isAlphanum || d == '_' || d == '-'
  let known := name == ['Y', 'A', 'M', 'L'] || name == ['T', 'A', 'G']
  if known && (c.skip (name.length + 1)).atGap then some (c.skipWhile (!isBreak ·)) else none

def openFlow (r : TokenReader) (t : Token) : Option TokenReader := do
  let r ← r.noteKey
  return { r with keys := none :: r.keys, keyAllowed := true }.push t |>.skip 1

def closeFlow (r : TokenReader) (t : Token) : Option TokenReader := do
  let r ← r.removeKey
  let keys := if r.inFlow then r.keys.drop 1 else r.keys
  return { r with keys, keyAllowed := false }.push t |>.skip 1

def readMark (r : TokenReader) (t : Token) : Option TokenReader := do
  let r ← (r.closeBlocks (-1)).removeKey
  return { r with keyAllowed := false }.push t |>.skip 3

def readItem (r : TokenReader) : Option TokenReader := do
  if !r.inFlow && !r.keyAllowed then none
  let r ← (r.openBlock r.cursor.column r.tokens.size .blockListStart).removeKey
  return { r with keyAllowed := true }.push .item |>.skip 1

def readKey (r : TokenReader) : Option TokenReader := do
  if !r.inFlow && !r.keyAllowed then none
  let r ← (r.openBlock r.cursor.column r.tokens.size .blockMapStart).removeKey
  return { r with keyAllowed := !r.inFlow }.push .key |>.skip 1

def readValue (r : TokenReader) : Option TokenReader :=
  match r.keys with
  | some k :: outer =>
    let r := { r with keys := none :: outer, keyAllowed := false }.insertAt k.position .key
    some ((r.openBlock k.column k.position .blockMapStart).push .value |>.skip 1)
  | _ =>
    if !r.inFlow && !r.keyAllowed then none
    else
      let r := r.openBlock r.cursor.column r.tokens.size .blockMapStart
      some ({ r with keyAllowed := !r.inFlow }.push .value |>.skip 1)

def readText (r : TokenReader) (plain : Bool) (read : Cursor → Option (List Char × Bool × Cursor)) :
    Option TokenReader := do
  let r ← r.noteKey
  let (text, startsLine, after) ← read r.cursor
  return { r with keyAllowed := startsLine, cursor := after }.push (.scalar (String.ofList text) plain)

def readLines (r : TokenReader) (literal : Bool) : Option TokenReader := do
  let r ← r.removeKey
  let (text, after) ← readBlock r.indent literal r.cursor
  return { r with keyAllowed := true, cursor := after }.push (.scalar (String.ofList text) false)

def readProperty (r : TokenReader) (read : Cursor → Option (Token × Cursor)) :
    Option TokenReader := do
  let r ← r.noteKey
  let (t, after) ← read r.cursor
  return { r with keyAllowed := false, cursor := after }.push t

def startsPlain (r : TokenReader) : Bool :=
  let c := r.cursor
  let reserved := "-?:,[]\x7b\x7d#&*!|>'\"%@\x60".toList
  (!c.atGap && !reserved.contains c.peek) || (c.peek == '-' && !(c.peek 1 == ' ' || c.peek 1 == '\t'))
    || (!r.inFlow && (c.peek == '?' || c.peek == ':') && !c.atGap 1)

def readToken (r : TokenReader) : Option TokenReader :=
  let c := r.cursor
  if c.column == 0 && c.peek == '%' then do
    let r ← (r.closeBlocks (-1)).removeKey
    let after ← skipDirective c
    return { r with keyAllowed := false, cursor := after }.push .directive
  else if c.atDocumentMark then r.readMark (if c.peek == '-' then .documentStart else .documentEnd)
  else
    match c.peek with
    | '[' => r.openFlow .flowListStart
    | '\x7b' => r.openFlow .flowMapStart
    | ']' => r.closeFlow .flowListEnd
    | '\x7d' => r.closeFlow .flowMapEnd
    | ',' => do
      let r ← r.removeKey
      return { r with keyAllowed := true }.push .comma |>.skip 1
    | '*' => r.readProperty fun c => (readName c).map fun (name, after) => (.alias name, after)
    | '&' => r.readProperty fun c => (readName c).map fun (name, after) => (.anchor name, after)
    | '!' => r.readProperty fun c => (skipTag r.inFlow c).map (Token.tag, ·)
    | '\'' => r.readText false fun c => (readSingleQuoted c).map fun (text, after) => (text, false, after)
    | '"' => r.readText false fun c => (readDoubleQuoted c).map fun (text, after) => (text, false, after)
    | d =>
      if d == '-' && c.atGap 1 then r.readItem
      else if d == '?' && (r.inFlow || c.atGap 1) then r.readKey
      else if d == ':' && (r.inFlow || c.atGap 1) then r.readValue
      else if d == '|' && !r.inFlow then r.readLines true
      else if d == '>' && !r.inFlow then r.readLines false
      else if r.startsPlain then r.readText true (readPlain (r.indent + 1) r.inFlow)
      else none

def readAll : (fuel : Nat) → TokenReader → Option (Array Token)
  | 0, _ => none
  | fuel + 1, r => do
    let r := r.skipBlanks (r.cursor.rest.length + 1)
    let r ← r.dropStaleKeys
    let r := r.closeBlocks r.cursor.column
    if r.cursor.atEnd then
      let r ← (r.closeBlocks (-1)).removeKey
      return r.tokens
    else readAll fuel (← r.readToken)

end TokenReader

/-- The tokens of a text; none if it holds characters or marks that may not be there. -/
def tokens? (text : String) : Option (List Token) :=
  let cs := match text.toList with
    | '\uFEFF' :: cs => cs
    | cs => cs
  if cs.all isAllowed then
    (TokenReader.readAll (cs.length + 2) { cursor := { rest := cs } }).map Array.toList
  else none

end JavaCallGraph.Yaml
