import JavaCallGraph.Inference

/-!
# Resolving calls

Every call gets exactly one signature: that of the method which the solver finds, or the best that is
left without it.

* `Route` — which way led to a signature.
* `Solver.resolve` — the signature of the method that a call reaches, with its route.
* `Tally` — how many calls went which way.
-/

namespace JavaCallGraph

open Java

inductive Route where
  | solved
  /-- Without a receiver, the method is taken to be one of the enclosing type. -/
  | enclosing
  | inferred (tier : Tier)
  | unresolved
  deriving DecidableEq, Repr, Inhabited

def Route.label : Route → String
  | solved => "exact"
  | enclosing => "enclosing"
  | inferred tier => tier.label
  | unresolved => "unresolved"

structure Resolution where
  signature : Signature
  route : Route
  deriving DecidableEq, Repr, Inhabited

/-- The method that a call reaches: the one that the solver finds, else one of the enclosing type if
there is no receiver, else one of the receiver's inferred type. -/
def Solver.resolve (solver : Solver) (scope : Scope) (c : Call) : Resolution :=
  match solver.target scope c with
  | some found => ⟨found.signature, .solved⟩
  | none =>
    if c.receiver.isNone then
      ⟨⟨scope.imports.packageName, scope.owner.qualifiedName, c.name, []⟩, .enclosing⟩
    else
      match solver.infer scope c.receiver with
      | some hint => ⟨.onType hint.type c.name, .inferred hint.tier⟩
      | none => ⟨.unresolved c.name, .unresolved⟩

/-! ## Counting -/

structure Tally where
  methods : Nat := 0
  calls : Nat := 0
  solved : Nat := 0
  enclosing : Nat := 0
  /-- Calls whose receiver's type was inferred, by the name of the tier. -/
  inferred : KeyMap Nat := .empty
  unresolved : Nat := 0
  deriving Inhabited, BEq

namespace Tally

def addInferred (counts : KeyMap Nat) (tier : String) (count : Nat) : KeyMap Nat :=
  counts.modify tier fun old => old.getD 0 + count

def addCall (t : Tally) (route : Route) : Tally :=
  let t := { t with calls := t.calls + 1 }
  match route with
  | .solved => { t with solved := t.solved + 1 }
  | .enclosing => { t with enclosing := t.enclosing + 1 }
  | .inferred tier => { t with inferred := addInferred t.inferred tier.label 1 }
  | .unresolved => { t with unresolved := t.unresolved + 1 }

def addMethod (t : Tally) (routes : List Route) : Tally :=
  let t := routes.foldl addCall t
  { t with methods := t.methods + 1 }

def merge (t u : Tally) : Tally where
  methods := t.methods + u.methods
  calls := t.calls + u.calls
  solved := t.solved + u.solved
  enclosing := t.enclosing + u.enclosing
  inferred := u.inferred.toList.foldl (fun counts (tier, n) => addInferred counts tier n) t.inferred
  unresolved := t.unresolved + u.unresolved

def ofTier (t : Tally) (tier : Tier) : Nat := (t.inferred.get? tier.label).getD 0

end Tally

end JavaCallGraph
