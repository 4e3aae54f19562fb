import JavaCallGraph.Java.Grammar

/-!
# Faulty text

Where a text that the grammar refuses goes wrong. A fault is repaired either by adding one token in
front of the first token that cannot be read, or by dropping a stretch of tokens around that place:
some of the trees that are complete before it and some of the tokens from it on. Each repair has a
cost, and the fault lies where the cheapest series of repairs begins.

* `attempt` — reading a unit from tokens.
* `Repair`, `additions`, `dropTo` — the repairs of the first fault.
* `cheapest` — the cheapest series of repairs.
* `faultLine` — the line of the fault.
-/

namespace JavaCallGraph.Java

open Pattern

/-- Enough fuel for reading the given number of tokens: between two tokens the grammar is never more
than some hundred steps deep. -/
def readingFuel (size : Nat) : Nat := 400 * (size + 4)

def attempt (toks : Array Token) : Outcome :=
  read grammar toks (readingFuel toks.size) (.rule .unit) none [] 0 ⟨0, []⟩

def passes (toks : Array Token) (pos : Nat) : Bool :=
  match attempt toks with
  | (some _, _) => true
  | (none, front) => pos < front.reach

/-! ## Costs -/

def recoveryCost : Nat := 500

def missingCost : Nat := recoveryCost + 110

def droppedCost : Nat := 100

def droppedLineCost : Nat := 30

structure Repair where
  cost : Nat
  /-- The line of the fault if this repair is chosen. -/
  line : Nat
  tokens : Array Token

def totalWidth (toks : List Token) : Nat := toks.foldl (fun bytes t => bytes + t.width) 0

/-! ## Adding a token -/

def completions (before : Token) : List Token :=
  (⟨.word, " ", "missing", before.endLine⟩ : Token) ::
    ["\x7d", ")", ">", "]", ";"].map fun text => ⟨.symbol, " ", text, before.endLine⟩

/-- Adding a token in front of the one at `pos`, which can be read then. At the end of the text only
what ends a statement or a body is added. -/
def additions (toks : Array Token) (pos : Nat) : List Repair :=
  let before := (toks[pos - 1]?).getD default
  let atEnd := toks[pos]?.any (·.form == .finish)
  let usable := (completions before).filter fun t =>
    !atEnd || t.text == ";" || t.text == "\x7d"
  let added := usable.filterMap fun t =>
    let mended := (toks.toList.take pos ++ t :: toks.toList.drop pos).toArray
    if passes mended (if atEnd then pos else pos + 1) then
      some ⟨missingCost, if pos == 0 then 1 else before.endLine, mended⟩
    else none
  added.take 1

/-! ## Dropping tokens -/

/-- The cost of dropping the tokens from `start` up to `stop`, of which those before `pos` form the
given number of trees. -/
def dropCost (toks : Array Token) (start pos stop trees : Nat) : Nat :=
  let dropped := (toks.toList.take stop).drop start
  let bytes := totalWidth dropped - (dropped.head?.map (·.gap.utf8ByteSize)).getD 0
  let first := (dropped.head?.map (·.line)).getD 0
  let last := (dropped.getLast?.map Token.endLine).getD 0
  let tokens := ((toks.toList.take stop).drop pos).countP (!·.isComment)
  recoveryCost + bytes + droppedLineCost * (last - first) + droppedCost * (trees + tokens)

/-- Dropping what comes before the token at `stop` back to the nearest place where it can be read.
The places are those where the trees begin that wait for their parents at `pos`. -/
def dropTo (toks : Array Token) (pos : Nat) (pending : List Nat) (limit stop : Nat) :
    Option Repair :=
  let places := (pos, 0) :: pending.zipIdx.map fun (start, i) => (start, i + 1)
  places.findSome? fun (start, trees) =>
    let cost := dropCost toks start pos stop trees
    if stop ≤ start || limit ≤ cost then none
    else
      let mended := (toks.toList.take start ++ toks.toList.drop stop).toArray
      if passes mended start then
        some ⟨cost, ((toks[start]?).map (·.line)).getD 1, mended⟩
      else none

def dropWindow : Nat := 5

/-! ## The cheapest repair -/

/-- Cost and line of the cheapest series of at most `fuel` repairs below a limit. A fault that is
left after that counts as one more repair. -/
def cheapest : Nat → Nat → Array Token → Option (Nat × Nat)
  | 0, _, toks => if (attempt toks).1.isSome then some (0, 0) else some (missingCost, 0)
  | fuel + 1, limit, toks =>
    match attempt toks with
    | (some _, _) => some (0, 0)
    | (none, front) =>
      let improve (best : Option (Nat × Nat)) (repair : Repair) : Option (Nat × Nat) :=
        let limit := (best.map Prod.fst).getD limit
        if limit ≤ repair.cost then best
        else
          match cheapest fuel (limit - repair.cost) repair.tokens with
          | some (rest, _) => if repair.cost + rest < limit then some (repair.cost + rest, repair.line)
            else best
          | none => best
      let best := (additions toks front.reach).foldl improve none
      let stops := (List.range dropWindow).map (front.reach + ·) |>.filter (· < toks.size)
      stops.foldl (fun best stop =>
        match dropTo toks front.reach front.pending ((best.map Prod.fst).getD limit) stop with
        | some repair => improve best repair
        | none => best) best

def repairDepth : Nat := 4

/-- The line of the first fault: where the cheapest repair begins, or the line of the first token
that cannot be read if there is no repair in sight. -/
def faultLine (toks : Array Token) : Nat :=
  let front := (attempt toks).2
  let limit := 10000 + totalWidth toks.toList * 2
  match cheapest repairDepth limit toks with
  | some (_, line) => line
  | none => ((toks[front.reach]?).map (·.line)).getD 1

end JavaCallGraph.Java
