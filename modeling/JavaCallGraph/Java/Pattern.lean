import JavaCallGraph.Java.Tree

/-!
# Patterns of tokens

A small language of patterns, of which a grammar is made, and what it means to read one. A pattern
reads a stretch of tokens and gives the trees found there. Choice is ordered: the first alternative
that can be read is taken.

Comments are read along with the token that follows them. A node never starts with a comment: those
in front of its first token are left to the nodes around it, so a comment ends up in the innermost
node that spans both its neighbours.

* `Pattern` — the language, over a type of rule names.
* `Pattern.read` — reading, with fuel that bounds the depth of the recursion.
* `Frontier` — the furthest token that no alternative could read, and what had been read before it.
-/

namespace JavaCallGraph.Java

/-! ## The language -/

inductive Terminal where
  | spelled (texts : List String)
  /-- Any word but the given ones, which are keywords where the terminal is used. -/
  | word (keywords : List String)
  | form (form : Token.Form)
  deriving Repr

def Terminal.accepts : Terminal → Token → Bool
  | spelled texts, t => (t.form == .symbol || t.form == .word) && texts.contains t.text
  | word keywords, t => t.form == .word && !keywords.contains t.text
  | form f, t => t.form == f

inductive Pattern (ρ : Type) where
  | empty
  | token (terminal : Terminal) (kind : Kind)
  /-- Reads several tokens with no blanks between them, as leaves without a name. -/
  | glued (texts : List String)
  | seq (first second : Pattern ρ)
  /-- Reads the first pattern or, if that fails, the second. -/
  | alt (first second : Pattern ρ)
  | many (body : Pattern ρ)
  | node (kind : Kind) (body : Pattern ρ)
  | role (role : Role) (body : Pattern ρ)
  | rule (name : ρ)
  /-- Reads a pattern where another one cannot be read. -/
  | excluding (refused body : Pattern ρ)
  /-- Reads nothing, where a pattern can be read. -/
  | ahead (body : Pattern ρ)
  /-- Reads a pattern that gives a single tree of the given kind. -/
  | only (kind : Kind) (body : Pattern ρ)
  /-- Reads a base, then lets `step` build on the tree as often as possible. -/
  | grow (base step : Pattern ρ)
  /-- Within the step of a `grow`: the tree so far, if its kind is among `kinds` (any kind if the
  list is empty), becomes the first part, in the given role, of a node that goes on with `tail`. -/
  | after (kinds : List Kind) (role : Role) (kind : Kind) (tail : Pattern ρ)
  deriving Inhabited

namespace Pattern

variable {ρ : Type}

def seqs : List (Pattern ρ) → Pattern ρ
  | [] => empty
  | [p] => p
  | p :: ps => seq p (seqs ps)

def alts : List (Pattern ρ) → Pattern ρ
  | [] => excluding empty empty
  | [p] => p
  | p :: ps => alt p (alts ps)

def opt (p : Pattern ρ) : Pattern ρ := alt p empty

def many1 (p : Pattern ρ) : Pattern ρ := seq p (many p)

/-! ## Reading -/

/-- The furthest token that could not be read, with the places where the trees begin that were
complete and waiting for their parents there, the nearest first. -/
structure Frontier where
  reach : Nat
  pending : List Nat
  deriving Inhabited

/-- The further of two frontiers; of equal ones, the earlier. -/
def Frontier.advance (f : Frontier) (reach : Nat) (pending : List Nat) : Frontier :=
  if f.reach < reach then ⟨reach, pending⟩ else f

abbrev Placed := Nat × Tree

/-- What reading gives: trees and the place after them, if it succeeds, and the frontier in any
case. -/
abbrev Outcome := Option (List Placed × Nat) × Frontier

def comments (toks : Array Token) : Nat → Nat → List Placed × Nat
  | 0, pos => ([], pos)
  | fuel + 1, pos =>
    match toks[pos]? with
    | some t =>
      if t.isComment then
        let kind := if t.form == .lineComment then Kind.lineComment else .blockComment
        let (more, stop) := comments toks fuel (pos + 1)
        ((pos, .leaf .none kind t) :: more, stop)
      else ([], pos)
    | none => ([], pos)

def gluedAt (toks : Array Token) (first : Bool) : List String → Nat → Option (List Placed)
  | [], _ => some []
  | s :: rest, pos =>
    match toks[pos]? with
    | some t =>
      if t.text == s && (first || t.gap.isEmpty) then
        (gluedAt toks false rest (pos + 1)).map ((pos, .leaf .none .token t) :: ·)
      else none
    | none => none

/-- One node of what a pattern gave, behind the comments in front of it. -/
def wrap (kind : Kind) (trees : List Placed) : List Placed :=
  let (lead, parts) := trees.span fun p => p.2.isComment
  match parts with
  | [] => lead
  | (start, _) :: _ => lead ++ [(start, .node .none kind (parts.map Prod.snd))]

/-- The places where trees begin, the nearest first, in front of those of `pending`. -/
def waiting (trees : List Placed) (pending : List Nat) : List Nat :=
  trees.foldl (fun acc p => if p.2.isComment then acc else p.1 :: acc) pending

/-- Reading a pattern at a place. `left` is the tree that a `grow` is building on. -/
def read (rules : ρ → Pattern ρ) (toks : Array Token) :
    Nat → Pattern ρ → Option Placed → List Nat → Nat → Frontier → Outcome
  | 0, _, _, _, _, front => (none, front)
  | fuel + 1, p, left, pending, pos, front =>
    match p with
    | empty => (some ([], pos), front)
    | token terminal kind =>
      let (lead, start) := comments toks toks.size pos
      match toks[start]? with
      | some t =>
        if terminal.accepts t then
          (some (lead ++ [(start, .leaf .none kind t)], start + 1), front)
        else (none, front.advance start pending)
      | none => (none, front.advance start pending)
    | glued texts =>
      let (lead, start) := comments toks toks.size pos
      match gluedAt toks true texts start with
      | some leaves => (some (lead ++ leaves, start + texts.length), front)
      | none => (none, front.advance start pending)
    | seq p q =>
      match read rules toks fuel p none pending pos front with
      | (some (trees, pos), front) =>
        match read rules toks fuel q none (waiting trees pending) pos front with
        | (some (more, pos), front) => (some (trees ++ more, pos), front)
        | (none, front) => (none, front)
      | (none, front) => (none, front)
    | alt p q =>
      match read rules toks fuel p left pending pos front with
      | (none, front) => read rules toks fuel q left pending pos front
      | found => found
    | many p =>
      match read rules toks fuel p none pending pos front with
      | (some (trees, stop), front) =>
        if stop ≤ pos then (some ([], pos), front)
        else
          match read rules toks fuel (many p) none (waiting trees pending) stop front with
          | (some (more, stop), front) => (some (trees ++ more, stop), front)
          | (none, front) => (some (trees, stop), front)
      | (none, front) => (some ([], pos), front)
    | node kind p =>
      match read rules toks fuel p none pending pos front with
      | (some (trees, stop), front) => (some (wrap kind trees, stop), front)
      | (none, front) => (none, front)
    | role r p =>
      match read rules toks fuel p none pending pos front with
      | (some (trees, stop), front) =>
        (some (trees.map fun (start, t) =>
          (start, if t.isComment then t else t.withRole r), stop), front)
      | (none, front) => (none, front)
    | rule name => read rules toks fuel (rules name) left pending pos front
    | excluding refused p =>
      match (read rules toks fuel refused none pending pos front).1 with
      | some _ => (none, front.advance (comments toks toks.size pos).2 pending)
      | none => read rules toks fuel p left pending pos front
    | ahead p =>
      match read rules toks fuel p none pending pos front with
      | (some _, _) => (some ([], pos), front)
      | (none, front) => (none, front)
    | only kind p =>
      match read rules toks fuel p none pending pos front with
      | (some (trees, stop), front) =>
        match trees.filter fun p => !p.2.isComment with
        | [(_, tree)] => (if tree.kind == kind then some (trees, stop) else none, front)
        | _ => (none, front)
      | (none, front) => (none, front)
    | grow base step =>
      match left with
      | none =>
        match read rules toks fuel base none pending pos front with
        | (some (trees, stop), front) =>
          match trees.span fun p => p.2.isComment with
          | (lead, [tree]) =>
            match read rules toks fuel (grow base step) (some tree) pending stop front with
            | (some (trees, stop), front) => (some (lead ++ trees, stop), front)
            | (none, front) => (none, front)
          | _ => (some (trees, stop), front)
        | (none, front) => (none, front)
      | some tree =>
        match read rules toks fuel step (some tree) pending pos front with
        | (some ([grown], stop), front) =>
          if stop ≤ pos then (some ([tree], pos), front)
          else read rules toks fuel (grow base step) (some grown) pending stop front
        | (_, front) => (some ([tree], pos), front)
    | after kinds r kind tail =>
      match left with
      | none => (none, front)
      | some (start, tree) =>
        if kinds.isEmpty || kinds.contains tree.kind then
          match read rules toks fuel tail none (start :: pending) pos front with
          | (some (trees, stop), front) =>
            (some ([(start, .node .none kind (tree.withRole r :: trees.map Prod.snd))], stop), front)
          | (none, front) => (none, front)
        else (none, front)

end Pattern

end JavaCallGraph.Java
