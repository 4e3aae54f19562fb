import JavaCallGraph.Text.Cut

/-!
# Path patterns

Patterns that name many paths at once. Texts are matched byte by byte, and only the wildcards that
start with two stars cross a slash.

* `Glob.Piece` — the parts of a pattern, each with the ways in which it can match.
* `Glob.parse?` — the pattern of a text.
* `Glob.accepts` — does a pattern match a path?
-/

namespace JavaCallGraph

namespace Glob

def bytesOf (cs : List Char) : List UInt8 := cs.flatMap String.utf8EncodeChar

def slash : UInt8 := 47

inductive Piece where
  | literal (bytes : List UInt8)
  /-- One byte that is no slash: `?`. -/
  | anyByte
  /-- Any bytes that are no slash: `*`. -/
  | star
  /-- One byte of some ranges, or one outside of them: `[a-z]`, `[!a-z]`. -/
  | range (negated : Bool) (ranges : List (UInt8 × UInt8))
  /-- Nothing, or anything up to a slash: `**/` at the start. -/
  | anyParents
  /-- A slash and anything after it: `/**` at the end. -/
  | anyBelow
  /-- A slash, or two slashes with anything between them: `/**/`. -/
  | anyBetween
  deriving DecidableEq, Repr, Inhabited

/-- What can be left of `bs` after some bytes that are no slash. -/
def afterNames : List UInt8 → List (List UInt8)
  | [] => [[]]
  | b :: bs => (b :: bs) :: (if b == slash then [] else afterNames bs)

def afterSlashes : List UInt8 → List (List UInt8)
  | [] => []
  | b :: bs => (if b == slash then [bs] else []) ++ afterSlashes bs

def suffixes : List UInt8 → List (List UInt8)
  | [] => [[]]
  | b :: bs => (b :: bs) :: suffixes bs

def Piece.rests : Piece → List UInt8 → List (List UInt8)
  | literal bytes, bs => if bytes.isPrefixOf bs then [bs.drop bytes.length] else []
  | anyByte, b :: bs => if b == slash then [] else [bs]
  | star, bs => afterNames bs
  | range negated ranges, b :: bs =>
    if ranges.any (fun (low, high) => low ≤ b && b ≤ high) != negated then [bs] else []
  | anyParents, bs => bs :: afterSlashes bs
  | anyBelow, b :: bs => if b == slash then suffixes bs else []
  | anyBetween, b :: bs => if b == slash then bs :: afterSlashes bs else []
  | _, [] => []

def matchPieces (pieces : List Piece) (bs : List UInt8) : Bool :=
  (pieces.foldl (fun rests piece => (rests.flatMap piece.rests).eraseDups) [bs]).contains []

/-! ## Reading -/

def byteRanges (low high : Char) : List (UInt8 × UInt8) :=
  let lows := bytesOf [low]
  let highs := bytesOf [high]
  if low == high then lows.map fun b => (b, b)
  else
    lows.dropLast.map (fun b => (b, b)) ++ [(lows.getLast?.getD 0, highs.head?.getD 0)] ++
      (highs.drop 1).map fun b => (b, b)

/-- Reads the rest of a class of characters: its ranges and what follows it. `pending` says that a dash
after the last range waits for its other end. -/
def readClass (ranges : List (Char × Char)) (pending first : Bool) :
    List Char → Option (List (Char × Char) × List Char)
  | [] => none
  | c :: cs =>
    if c == ']' && !first then
      some (if pending then ranges ++ [('-', '-')] else ranges, cs)
    else if pending then
      match ranges.getLast? with
      | some (low, _) =>
        if c < low then none else readClass (ranges.dropLast ++ [(low, c)]) false false cs
      | none => none
    else if c == '-' && !first then readClass ranges true false cs
    else readClass (ranges ++ [(c, c)]) false false cs

structure Level where
  done : List (List Piece) := []
  /-- The alternatives since then: more than one after a choice within. -/
  current : List (List Piece) := [[]]

def Level.isFresh (l : Level) : Bool := l.current.all List.isEmpty

def Level.push (l : Level) (piece : Piece) : Level :=
  { l with current := l.current.map (· ++ [piece]) }

def Level.replaceLast (l : Level) (piece : Piece) : Level :=
  { l with current := l.current.map fun pieces =>
      match pieces.getLast? with
      | some .anyParents => pieces
      | some .anyBelow => pieces
      | _ => pieces.dropLast ++ [piece] }

/-- With a choice between several continuations. An empty continuation counts only if all are. -/
def Level.choose (l : Level) (choices : List (List Piece)) : Level :=
  match choices.filter (!·.isEmpty) with
  | [] => l
  | choices => { l with current := l.current.flatMap fun pieces => choices.map (pieces ++ ·) }

/-- Reads two stars: what they stand for depends on what is before and after them. -/
def readStars (previous : Option Char) (level : Level) (nested : Bool) (cs : List Char) :
    Level × List Char :=
  let twoStars := (level.push .star).push .star
  if level.isFresh then
    match cs with
    | [] => (level.push .anyParents, [])
    | '/' :: rest => (level.push .anyParents, rest)
    | _ => (twoStars, cs)
  else if previous != some '/' && !(nested && (previous == some ',' || previous == some '\x7b')) then
    (twoStars, cs)
  else
    match cs with
    | [] => (level.replaceLast .anyBelow, [])
    | '/' :: rest => (level.replaceLast .anyBetween, rest)
    | c :: _ =>
      if nested && (c == ',' || c == '\x7d') then (level.replaceLast .anyBelow, cs)
      else (twoStars, cs)

def read : (fuel : Nat) → (previous : Option Char) → (levels : List Level) → List Char →
    Option (List (List Piece))
  | 0, _, _, _ => none
  | _ + 1, _, [level], [] => some level.current
  | _ + 1, _, _, [] => none
  | _ + 1, _, [], _ :: _ => none
  | fuel + 1, previous, level :: levels, c :: cs =>
    let literal (c : Char) (cs : List Char) :=
      read fuel (some c) (level.push (.literal (bytesOf [c])) :: levels) cs
    match c with
    | '?' => read fuel (some c) (level.push .anyByte :: levels) cs
    | '*' =>
      match cs with
      | '*' :: rest =>
        let (level, after) := readStars previous level (!levels.isEmpty) rest
        let last := if after.length < rest.length then '/' else '*'
        read fuel (some last) (level :: levels) after
      | _ => read fuel (some c) (level.push .star :: levels) cs
    | '[' =>
      let (negated, rest) := match cs with
        | '!' :: rest => (true, rest)
        | '^' :: rest => (true, rest)
        | _ => (false, cs)
      match readClass [] false true rest with
      | some (ranges, after) =>
        let bytes := ranges.flatMap fun (low, high) => byteRanges low high
        read fuel (some ']') (level.push (.range negated bytes) :: levels) after
      | none => none
    | '\x7b' => read fuel (some c) ({} :: level :: levels) cs
    | '\x7d' =>
      match levels with
      | [] => none
      | outer :: levels => read fuel (some c) (outer.choose (level.done ++ level.current) :: levels) cs
    | ',' =>
      if levels.isEmpty then literal c cs
      else read fuel (some c) ({ done := level.done ++ level.current } :: levels) cs
    | '\\' =>
      match cs with
      | [] => none
      | escaped :: rest => literal escaped rest
    | _ => literal c cs

end Glob

structure Glob where
  alternatives : List (List Glob.Piece)
  deriving DecidableEq, Repr, Inhabited

namespace Glob

/-- The pattern of a text; none if a class or a choice is not closed, or an escape has nothing after
it. -/
def parse? (text : List Char) : Option Glob := (read (text.length + 1) none [{}] text).map (⟨·⟩)

/-- Does the pattern match a path? The pattern of two stars matches every path. -/
def accepts (g : Glob) (path : String) : Bool :=
  g.alternatives == [[.anyParents]] || g.alternatives.any (matchPieces · (bytesOf path.toList))

end Glob

end JavaCallGraph
