import JavaCallGraph.Inference
import Mathlib.Data.List.Basic
import Mathlib.Data.List.Induction

/-!
# Chains of calls

A receiver such as `shop.orders().newest().buyer()` is a chain: calls that are made one on the other,
down to a root that is no call, or to a call without a receiver. Its type is that of the outermost call
about which anything is known. What the solver knows about a call goes before what the name of that call
suggests, and both go before anything about the calls that it is made on.

* `chain` — calls that are made one on the other, from a root on.
* `exists_chain` — every expression is a chain on a root that is no call.
* `Solver.linkHint` — what is known about one call of a chain.
* `inferred_along_chain` — the type of a chain is the first hint from its outermost call inwards.
-/

namespace JavaCallGraph

open Java

/-- A call of a chain, without what it is made on. -/
structure Link where
  name : String
  arguments : List Expr
  line : Nat

def Link.on (receiver : Option Expr) (l : Link) : Expr := .call l.name receiver l.arguments l.line

/-- The links as calls one on the other, the first of them on `root`. -/
def chain (root : Option Expr) (links : List Link) : Option Expr :=
  links.foldl (fun receiver l => some (l.on receiver)) root

theorem chain_concat (root : Option Expr) (links : List Link) (l : Link) :
    chain root (links ++ [l]) = some (l.on (chain root links)) := by
  simp [chain]

def Java.Expr.isCall : Expr → Bool
  | .call _ _ _ _ => true
  | _ => false

/-- Every expression is a chain on a root that is no call. -/
theorem exists_chain (e : Expr) :
    ∃ root links, some e = chain root links ∧ ∀ r ∈ root, r.isCall = false := by
  cases e with
  | call name receiver arguments line =>
    cases receiver with
    | none => exact ⟨none, [⟨name, arguments, line⟩], rfl, by simp⟩
    | some inner =>
      obtain ⟨root, links, h_inner, h_root⟩ := exists_chain inner
      refine ⟨root, links ++ [⟨name, arguments, line⟩], ?_, h_root⟩
      rw [chain_concat, ← h_inner]
      rfl
  | _ => exact ⟨some _, [], rfl, by simp [Expr.isCall]⟩
termination_by sizeOf e

namespace Solver

/-- What is known about the call number `i` of a chain: the type that the solver tells for it, or else
the one that its name suggests. -/
def linkHint (solver : Solver) (scope : Scope) (root : Option Expr) (links : List Link) (i : Nat) :
    Option TypeHint :=
  links[i]?.bind fun l =>
    (solver.typeOf scope (l.on (chain root (links.take i)))).map (⟨·, .exact⟩)
    <|> (typeByMethodName? l.name).map (⟨·, .heuristic⟩)

/-- The first hint on the way from the last call of a chain to its first. -/
def chainHint (solver : Solver) (scope : Scope) (root : Option Expr) (links : List Link) :
    Option TypeHint :=
  (List.range links.length).reverse.findSome? (solver.linkHint scope root links)

variable (solver : Solver) (scope : Scope) (root : Option Expr)

theorem linkHint_concat_of_lt {links : List Link} (l : Link) {i : Nat} (h : i < links.length) :
    solver.linkHint scope root (links ++ [l]) i = solver.linkHint scope root links i := by
  simp only [linkHint, List.getElem?_append_left h, List.take_append_of_le_length (Nat.le_of_lt h)]

theorem linkHint_concat_length (links : List Link) (l : Link) :
    solver.linkHint scope root (links ++ [l]) links.length =
      ((solver.typeOf scope (l.on (chain root links))).map (⟨·, .exact⟩)
        <|> (typeByMethodName? l.name).map (⟨·, .heuristic⟩)) := by
  simp [linkHint]

/-- One more call comes before all others. -/
theorem chainHint_concat (links : List Link) (l : Link) :
    solver.chainHint scope root (links ++ [l]) =
      (solver.linkHint scope root (links ++ [l]) links.length).or (solver.chainHint scope root links) := by
  -- the hints of the calls before it stay as they are
  have h_inner : (List.range links.length).reverse.findSome? (solver.linkHint scope root (links ++ [l])) =
      solver.chainHint scope root links := by
    rw [chainHint, ← List.head?_filterMap, ← List.head?_filterMap]
    refine congrArg List.head? (List.filterMap_congr ?_)
    intro i h_mem
    apply linkHint_concat_of_lt
    simpa using h_mem
  rw [chainHint, List.length_append, List.length_singleton, List.range_succ, List.reverse_append,
    List.findSome?_append, h_inner]
  simp

/-- A call is asked for its own type before what it is made on. -/
theorem infer_link (receiver : Option Expr) (l : Link) :
    solver.infer scope (some (l.on receiver)) =
      ((solver.typeOf scope (l.on receiver)).map (⟨·, .exact⟩)
        <|> (typeByMethodName? l.name).map (⟨·, .heuristic⟩)
        <|> solver.infer scope receiver) := by
  rw [infer, Link.on, inferExpr]
  rfl

theorem infer_chain (links : List Link) :
    solver.infer scope (chain root links) =
      (solver.chainHint scope root links <|> solver.infer scope root) := by
  induction links using List.reverseRecOn with
  | nil => rfl
  | append_singleton links l ih =>
    rw [chain_concat, infer_link, ih, chainHint_concat, linkHint_concat_length]
    simp only [Option.orElse_eq_orElse, Option.orElse_eq_or, Option.or_assoc]

end Solver

/-- The type of a chain is the first hint from its outermost call inwards, the solver's before the one of
the name; if no call gives one, it is the type of the root, and there is none without a root. Every
expression is such a chain, on a root that is no call. -/
theorem inferred_along_chain (solver : Solver) (scope : Scope) :
    (∀ (root : Expr) (links : List Link), solver.infer scope (chain (some root) links) =
      (solver.chainHint scope (some root) links <|> solver.infer scope (some root))) ∧
    (∀ links : List Link, solver.infer scope (chain none links) = solver.chainHint scope none links) ∧
    ∀ e : Expr, ∃ root links, some e = chain root links ∧ ∀ r ∈ root, r.isCall = false := by
  refine ⟨fun root links => solver.infer_chain scope (some root) links, fun links => ?_, exists_chain⟩
  rw [solver.infer_chain, Solver.infer]
  simp

end JavaCallGraph
