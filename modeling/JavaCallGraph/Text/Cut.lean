/-!
# Cutting texts

Cutting a text at a character, taking a known beginning or ending off it, and its lines.

* `cutFirst`, `cutLast` — the text before and after the first or last occurrence of a character.
* `afterLast` — what follows the last occurrence, or the whole text.
* `dropStart?`, `dropEnd?` — a text without a given beginning or ending.
* `has`, `mentions` — does a character or a text occur in a text?
* `lines` — the lines of a text, their ends stripped.
-/

namespace JavaCallGraph.Text

/-! ## Character lists -/

def cutFirstChars (c : Char) : List Char → Option (List Char × List Char)
  | [] => none
  | d :: ds =>
    if d == c then some ([], ds)
    else (cutFirstChars c ds).map fun (before, after) => (d :: before, after)

def cutLastChars (c : Char) : List Char → Option (List Char × List Char)
  | [] => none
  | d :: ds =>
    match cutLastChars c ds with
    | some (before, after) => some (d :: before, after)
    | none => if d == c then some ([], ds) else none

def dropStartChars? : List Char → List Char → Option (List Char)
  | [], cs => some cs
  | _ :: _, [] => none
  | s :: start, c :: cs => if s == c then dropStartChars? start cs else none

def dropEndChars? (stop cs : List Char) : Option (List Char) :=
  (dropStartChars? stop.reverse cs.reverse).map List.reverse

def dropTrailing (c : Char) (cs : List Char) : List Char :=
  (cs.reverse.dropWhile (· == c)).reverse

/-- The lines of `cs` given the current one read so far, nearest character first. A line ends before
a line feed; a carriage return right before it belongs to the line end; an empty rest after the last
line feed is no line. -/
def linesFrom (current : List Char) : List Char → List (List Char)
  | [] => if current.isEmpty then [] else [current.reverse]
  | c :: cs =>
    if c == '\n' then
      (match current with
        | '\r' :: line => line.reverse
        | line => line.reverse) :: linesFrom [] cs
    else linesFrom (c :: current) cs

/-- The pieces of `cs` between the characters `c`: one more than there are such characters. -/
def splitChars (c : Char) : List Char → List (List Char)
  | [] => [[]]
  | d :: ds =>
    match splitChars c ds with
    | [] => [[d]]
    | piece :: pieces => if d == c then [] :: piece :: pieces else (d :: piece) :: pieces

def mentionsChars (part : List Char) : List Char → Bool
  | [] => part.isEmpty
  | c :: cs => (dropStartChars? part (c :: cs)).isSome || mentionsChars part cs

/-! ## Strings -/

def cutFirst (c : Char) (s : String) : Option (String × String) :=
  (cutFirstChars c s.toList).map fun (before, after) => (String.ofList before, String.ofList after)

def cutLast (c : Char) (s : String) : Option (String × String) :=
  (cutLastChars c s.toList).map fun (before, after) => (String.ofList before, String.ofList after)

/-- What follows the last `c` of `s`; all of `s` if it has none. -/
def afterLast (c : Char) (s : String) : String :=
  match cutLast c s with
  | some (_, after) => after
  | none => s

def dropStart? (start s : String) : Option String :=
  (dropStartChars? start.toList s.toList).map String.ofList

def dropEnd? (stop s : String) : Option String :=
  (dropEndChars? stop.toList s.toList).map String.ofList

def startsWith (start s : String) : Bool := (dropStart? start s).isSome

def endsWith (stop s : String) : Bool := (dropEnd? stop s).isSome

def split (c : Char) (s : String) : List String := (splitChars c s.toList).map String.ofList

def lines (s : String) : List String := (linesFrom [] s.toList).map String.ofList

def has (c : Char) (s : String) : Bool := s.toList.contains c

def mentions (part s : String) : Bool := mentionsChars part.toList s.toList

end JavaCallGraph.Text
