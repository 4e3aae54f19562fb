import JavaCallGraph.Proofs.GraphKeys
import Mathlib.Algebra.GroupWithZero.Nat
import Mathlib.Data.List.Perm.Subperm

/-!
# Every call is accounted for

The tally of a project counts calls while they are resolved, its graph holds what they were resolved
to, and the two are put together from those of the units. Nothing ties one to the other but the list of
all calls: a tally `Counts` the ways that they went, and the callees of a graph are a rearrangement of
their signatures. Both are kept by every step that makes a tally or a graph larger, so the numbers of
the report can be read off the graph.

* `callsIn` — the calls of a unit that are counted.
* `Tally.Counts` — what a tally says about a list of routes, kept by `addCall`, `addMethod` and `merge`.
* `Report.tally_foldl_addTally` — the counts of a report grow like a tally.
* `CallGraph.allCallees_extend`, `CallGraph.allCallees_merge` — callees of a grown graph.
* `calls_accounted_for` — the result.
-/

namespace JavaCallGraph

open Java

/-! ## The calls of a unit -/

def Scope.sites (scope : Scope) : List (Scope × Call) := scope.method.calls.map (scope, ·)

/-- The calls of all methods of a unit that can be called by name. -/
def callsIn (u : CompilationUnit) : List (Scope × Call) := (Scope.callables u).flatMap Scope.sites

namespace Solver

def routeOf (solver : Solver) (site : Scope × Call) : Route := (solver.resolve site.1 site.2).route

def calleeOf (solver : Solver) (site : Scope × Call) : String :=
  (solver.resolve site.1 site.2).signature.text

theorem map_route_callsOf (solver : Solver) (scope : Scope) :
    (solver.callsOf scope).map (·.route) = scope.sites.map solver.routeOf := by
  simp [callsOf, Scope.sites, routeOf, Function.comp_def]

theorem calleesOf_eq (solver : Solver) (scope : Scope) :
    solver.calleesOf scope = scope.sites.map solver.calleeOf := by
  simp [calleesOf, callsOf, Scope.sites, calleeOf, Function.comp_def]

end Solver

/-! ## Counting -/

def Route.isInferred : Route → Bool
  | inferred _ => true
  | _ => false

def Route.isInferredBy (name : String) : Route → Bool
  | inferred tier => tier.label == name
  | _ => false

def Tally.inferredTotal (t : Tally) : Nat := (t.inferred.toList.map Prod.snd).sum

/-- A number as it stands in a map of numbers that are counted up from none. -/
def counted (n : Nat) : Option Nat := if n = 0 then none else some n

@[simp] theorem getD_counted (n : Nat) : (counted n).getD 0 = n := by
  rw [counted]
  split
  · rename_i h
    simp [h]
  · rfl

theorem counted_add {m n : Nat} (h : n ≠ 0) : some (m + n) = counted (m + n) := by
  rw [counted, if_neg (by omega)]

/-- The tally counts this many methods, and calls that went these ways. -/
structure Tally.Counts (t : Tally) (methods : Nat) (routes : List Route) : Prop where
  methods : t.methods = methods
  calls : t.calls = routes.length
  solved : t.solved = routes.count .solved
  enclosing : t.enclosing = routes.count .enclosing
  unresolved : t.unresolved = routes.count .unresolved
  total : t.inferredTotal = routes.countP Route.isInferred
  inferred : ∀ name, t.inferred.get? name = counted (routes.countP (Route.isInferredBy name))

namespace Tally

theorem sum_addInferred (counts : KeyMap Nat) (name : String) (n : Nat) :
    ((addInferred counts name n).toList.map Prod.snd).sum = (counts.toList.map Prod.snd).sum + n := by
  obtain ⟨before, after, h_new, h_old⟩ :=
    counts.toList_modify name fun old => old.getD 0 + n
  rw [addInferred, h_new, h_old]
  -- the entry of the name is new, or has grown by `n`
  cases counts.get? name with
  | none =>
    simp only [List.map_append, List.map_cons, List.sum_append_nat, List.sum_cons, Option.getD_none,
      Option.toList_none, List.map_nil, List.sum_nil]
    omega
  | some old =>
    simp only [List.map_append, List.map_cons, List.sum_append_nat, List.sum_cons, Option.getD_some,
      Option.toList_some, List.map_nil, List.sum_nil]
    omega

theorem sum_foldl_addInferred (entries : List (String × Nat)) (counts : KeyMap Nat) :
    ((entries.foldl (fun counts e => addInferred counts e.1 e.2) counts).toList.map Prod.snd).sum =
      (counts.toList.map Prod.snd).sum + (entries.map Prod.snd).sum := by
  induction entries generalizing counts with
  | nil => rfl
  | cons e rest ih =>
    rw [List.foldl_cons, ih, sum_addInferred, List.map_cons, List.sum_cons]
    omega

theorem counts_empty : Counts {} 0 [] where
  methods := rfl
  calls := rfl
  solved := rfl
  enclosing := rfl
  unresolved := rfl
  total := rfl
  inferred := fun _ => rfl

namespace Counts

variable {t t' : Tally} {methods methods' : Nat} {routes routes' : List Route}

theorem get?_addInferred (h : t.Counts methods routes) (tier : Tier) (name : String) :
    (addInferred t.inferred tier.label 1).get? name =
      counted (routes.countP (Route.isInferredBy name) +
        if Route.isInferredBy name (.inferred tier) = true then 1 else 0) := by
  rw [addInferred, KeyMap.get?_modify]
  by_cases h_name : name = tier.label
  · subst h_name
    rw [if_pos rfl, h.inferred, getD_counted, if_pos (by simp [Route.isInferredBy]),
      counted_add (by omega)]
  · rw [if_neg h_name, h.inferred, if_neg (by simpa [Route.isInferredBy] using Ne.symm h_name),
      Nat.add_zero]

theorem addCall (h : t.Counts methods routes) (route : Route) :
    (t.addCall route).Counts methods (routes ++ [route]) := by
  obtain ⟨h_methods, h_calls, h_solved, h_enclosing, h_unresolved, h_total, h_inferred⟩ := h
  cases route with
  | inferred tier =>
    constructor
    case total =>
      have h_sum := sum_addInferred t.inferred tier.label 1
      rw [inferredTotal] at h_total
      simp [Tally.addCall, inferredTotal, h_sum, h_total, Route.isInferred]
    case inferred =>
      intro name
      rw [List.countP_append, List.countP_singleton]
      exact get?_addInferred
        ⟨h_methods, h_calls, h_solved, h_enclosing, h_unresolved, h_total, h_inferred⟩ tier name
    all_goals simp_all [Tally.addCall]
  | solved | enclosing | unresolved =>
    -- the other routes leave the map of the tiers as it was
    constructor
    case total => simpa [Tally.addCall, inferredTotal, Route.isInferred] using h_total
    case inferred => simpa [Tally.addCall, Route.isInferredBy] using h_inferred
    all_goals simp_all [Tally.addCall]

theorem foldl_addCall (h : t.Counts methods routes) (more : List Route) :
    (more.foldl Tally.addCall t).Counts methods (routes ++ more) := by
  induction more generalizing t routes with
  | nil => simpa using h
  | cons route rest ih => simpa using ih (h.addCall route)

theorem addMethod (h : t.Counts methods routes) (more : List Route) :
    (t.addMethod more).Counts (methods + 1) (routes ++ more) := by
  obtain ⟨h_methods, h_calls, h_solved, h_enclosing, h_unresolved, h_total, h_inferred⟩ :=
    h.foldl_addCall more
  exact ⟨congrArg (· + 1) h_methods, h_calls, h_solved, h_enclosing, h_unresolved, h_total, h_inferred⟩

theorem merge (h : t.Counts methods routes) (h' : t'.Counts methods' routes') :
    (t.merge t').Counts (methods + methods') (routes ++ routes') where
  methods := by simp [Tally.merge, h.methods, h'.methods]
  calls := by simp [Tally.merge, h.calls, h'.calls]
  solved := by simp [Tally.merge, h.solved, h'.solved]
  enclosing := by simp [Tally.merge, h.enclosing, h'.enclosing]
  unresolved := by simp [Tally.merge, h.unresolved, h'.unresolved]
  total := by
    have h_sum := sum_foldl_addInferred t'.inferred.toList t.inferred
    have h_total := h.total
    have h_total' := h'.total
    rw [inferredTotal] at h_total h_total'
    rw [h_total, h_total'] at h_sum
    rw [List.countP_append, ← h_sum]
    rfl
  inferred := by
    intro name
    have h_get := KeyMap.get?_foldl_modify (fun n old => old.getD 0 + n) t'.inferred.ascend t.inferred
      name
    have h_both : (t.merge t').inferred.get? name =
        ((t'.inferred.get? name).map fun n => (t.inferred.get? name).getD 0 + n).or
          (t.inferred.get? name) := h_get
    rw [h_both, h.inferred, h'.inferred, getD_counted, List.countP_append]
    by_cases h_zero : routes'.countP (Route.isInferredBy name) = 0
    · simp [h_zero, counted]
    · rw [← counted_add h_zero, counted, if_neg h_zero]
      rfl

/-- The numbers of a tally are those of the routes, each of which is of one sort. -/
theorem calls_eq (h : t.Counts methods routes) :
    t.calls = t.solved + t.enclosing + t.unresolved + t.inferredTotal := by
  rw [h.calls, h.solved, h.enclosing, h.unresolved, h.total]
  clear h
  induction routes with
  | nil => rfl
  | cons route rest ih =>
    cases route <;> simp [List.countP_cons, Route.isInferred] <;> omega

/-- A tally is determined by how often each route was taken. -/
theorem eq_of_perm (h : t.Counts methods routes) (h' : t'.Counts methods routes')
    (h_perm : routes.Perm routes') : t = t' := by
  have h_inferred : t.inferred = t'.inferred := by
    apply KeyMap.ext_get?
    intro name
    rw [h.inferred, h'.inferred, h_perm.countP_eq]
  obtain ⟨h_methods, h_calls, h_solved, h_enclosing, h_unresolved, -, -⟩ := h
  obtain ⟨h_methods', h_calls', h_solved', h_enclosing', h_unresolved', -, -⟩ := h'
  rw [h_perm.length_eq] at h_calls
  rw [h_perm.count_eq] at h_solved h_enclosing h_unresolved
  cases t
  cases t'
  simp_all

end Counts

end Tally

namespace Solver

theorem counts_foldl_addMethod (solver : Solver) (scopes : List Scope) {t : Tally} {methods : Nat}
    {routes : List Route} (h : t.Counts methods routes) :
    (scopes.foldl (fun t scope => t.addMethod (scope.sites.map solver.routeOf)) t).Counts
      (methods + scopes.length) (routes ++ (scopes.flatMap Scope.sites).map solver.routeOf) := by
  induction scopes generalizing t methods routes with
  | nil => simpa using h
  | cons scope rest ih =>
    have h_rest := ih (h.addMethod (scope.sites.map solver.routeOf))
    rw [List.foldl_cons, List.length_cons, List.flatMap_cons, List.map_append, ← List.append_assoc]
    have h_length : methods + (rest.length + 1) = methods + 1 + rest.length := by omega
    rw [h_length]
    exact h_rest

/-- The tally of a unit counts its calls. -/
theorem counts_tallyOf (solver : Solver) (u : CompilationUnit) :
    (solver.tallyOf u).Counts (Scope.callables u).length ((callsIn u).map solver.routeOf) := by
  have h_tally : solver.tallyOf u = (Scope.callables u).foldl
      (fun t scope => t.addMethod (scope.sites.map solver.routeOf)) {} := by
    simp only [tallyOf, callersOf, List.foldl_map, map_route_callsOf]
  have h_counts := counts_foldl_addMethod solver (Scope.callables u) Tally.counts_empty
  rw [Nat.zero_add, List.nil_append] at h_counts
  rw [h_tally, callsIn]
  exact h_counts

def mergedTally (solver : Solver) (units : List CompilationUnit) : Tally :=
  (units.map solver.tallyOf).foldl Tally.merge {}

theorem counts_foldl_merge (solver : Solver) (units : List CompilationUnit) {t : Tally} {methods : Nat}
    {routes : List Route} (h : t.Counts methods routes) :
    ((units.map solver.tallyOf).foldl Tally.merge t).Counts
      (methods + (units.flatMap Scope.callables).length)
      (routes ++ (units.flatMap callsIn).map solver.routeOf) := by
  induction units generalizing t methods routes with
  | nil => simpa using h
  | cons u rest ih =>
    have h_rest := ih (h.merge (solver.counts_tallyOf u))
    rw [List.map_cons, List.foldl_cons, List.flatMap_cons, List.flatMap_cons, List.length_append,
      List.map_append, ← List.append_assoc, ← Nat.add_assoc]
    exact h_rest

theorem counts_mergedTally (solver : Solver) (units : List CompilationUnit) :
    (solver.mergedTally units).Counts (units.flatMap Scope.callables).length
      ((units.flatMap callsIn).map solver.routeOf) := by
  have h_counts := counts_foldl_merge solver units Tally.counts_empty
  rw [Nat.zero_add, List.nil_append] at h_counts
  exact h_counts

end Solver

/-! ## Counts of a report -/

namespace Report

/-- A report grows like the tally of its counts. -/
theorem tally_addTally (r : Report) (t : Tally) : (r.addTally t).tally = r.tally.merge t := rfl

theorem tally_foldl_addTally (tallies : List Tally) (r : Report) :
    (tallies.foldl addTally r).tally = tallies.foldl Tally.merge r.tally := by
  induction tallies generalizing r with
  | nil => rfl
  | cons t rest ih => rw [List.foldl_cons, List.foldl_cons, ih, tally_addTally]

end Report

/-- The counts of the report are those of the units in one. -/
theorem Analysis.tally_report_ofUnits (solver : Solver) (output : OutputOptions)
    (units : List CompilationUnit) :
    (Analysis.ofUnits solver output units).report.tally = solver.mergedTally units :=
  Report.tally_foldl_addTally (units.map solver.tallyOf) {}

/-! ## Callees of a grown graph -/

namespace CallGraph

theorem allCallees_extend (g : CallGraph) (caller : String) (callees : List String) :
    (g.extend caller callees).allCallees.Perm (g.allCallees ++ callees) := by
  obtain ⟨before, after, h_new, h_old⟩ :=
    g.entries.toList_modify caller fun old => old.getD [] ++ callees
  rw [allCallees, allCallees, extend, h_new, h_old]
  have h_entry : ((g.entries.get? caller).toList.map (caller, ·)).flatMap Prod.snd =
      (g.entries.get? caller).getD [] := by
    cases g.entries.get? caller <;> simp
  simp only [List.flatMap_append, List.flatMap_cons, h_entry, List.append_assoc]
  -- the new callees stand before those of the later callers
  apply List.Perm.append_left
  apply List.Perm.append_left
  exact List.perm_append_comm

theorem allCallees_foldl_extend {β : Type} {caller : β → String} {callees : β → List String}
    (xs : List β) (g : CallGraph) :
    (xs.foldl (fun g x => g.extend (caller x) (callees x)) g).allCallees.Perm
      (g.allCallees ++ xs.flatMap callees) := by
  induction xs generalizing g with
  | nil => simp
  | cons x rest ih =>
    rw [List.foldl_cons, List.flatMap_cons, ← List.append_assoc]
    exact (ih _).trans ((allCallees_extend g (caller x) (callees x)).append_right _)

theorem allCallees_merge (g h : CallGraph) :
    (g.merge h).allCallees.Perm (g.allCallees ++ h.allCallees) :=
  allCallees_foldl_extend h.entries.toList g

theorem allCallees_foldl_merge (graphs : List CallGraph) (g : CallGraph) :
    (graphs.foldl merge g).allCallees.Perm (g.allCallees ++ graphs.flatMap allCallees) := by
  induction graphs generalizing g with
  | nil => simp
  | cons h rest ih =>
    rw [List.foldl_cons, List.flatMap_cons, ← List.append_assoc]
    exact (ih _).trans ((allCallees_merge g h).append_right _)

end CallGraph

namespace Solver

theorem allCallees_graphOf (solver : Solver) (u : CompilationUnit) :
    (solver.graphOf u).allCallees.Perm ((callsIn u).map solver.calleeOf) := by
  rw [graphOf_eq, callsIn, List.map_flatMap]
  simp only [← calleesOf_eq]
  exact CallGraph.allCallees_foldl_extend (Scope.callables u) .empty

/-- The callees of a project are the signatures of its calls. -/
theorem allCallees_mergedGraph (solver : Solver) (units : List CompilationUnit) :
    (solver.mergedGraph units).allCallees.Perm ((units.flatMap callsIn).map solver.calleeOf) := by
  refine (CallGraph.allCallees_foldl_merge _ _).trans ?_
  rw [List.flatMap_map, List.map_flatMap]
  exact List.Perm.flatMap_left units fun u _ => solver.allCallees_graphOf u

theorem size_mergedGraph_le (solver : Solver) (units : List CompilationUnit) :
    (solver.mergedGraph units).size ≤ (units.flatMap Scope.callables).length := by
  have h_subset : (solver.mergedGraph units).entries.keys ⊆
      (units.flatMap Scope.callables).map (·.caller.text) := by
    intro k h_key
    obtain ⟨u, h_u, scope, h_scope, h_text⟩ := contains_mergedGraph.1 (KeyMap.mem_keys_iff.1 h_key)
    exact List.mem_map.2 ⟨scope, List.mem_flatMap.2 ⟨u, h_u, h_scope⟩, h_text⟩
  have h_length := (List.subperm_of_subset (KeyMap.nodup_keys _) h_subset).length_le
  rwa [KeyMap.keys, List.length_map, List.length_map] at h_length

/-! ## Unresolved calls -/

/-- An unresolved call is written with nothing but its name. -/
theorem startsWith_calleeOf_of_unresolved {solver : Solver} {site : Scope × Call}
    (h : solver.routeOf site = .unresolved) :
    Text.startsWith "UNRESOLVED.UNRESOLVED." (solver.calleeOf site) = true := by
  have h_signature : (solver.resolve site.1 site.2).signature = .unresolved site.2.name := by
    rw [routeOf, resolve] at h
    rw [resolve]
    split at h
    · cases h
    · split at h
      · cases h
      · split at h
        · cases h
        · simp_all
  rw [calleeOf, h_signature, Text.startsWith_iff]
  simp [Signature.unresolved, Signature.text, Signature.unresolvedMark]

theorem count_unresolved_le (solver : Solver) (sites : List (Scope × Call)) :
    (sites.map solver.routeOf).count .unresolved ≤
      (sites.map solver.calleeOf).countP (Text.startsWith "UNRESOLVED.UNRESOLVED.") := by
  rw [List.count, List.countP_map, List.countP_map]
  refine List.countP_mono_left fun site _ h_route => ?_
  exact startsWith_calleeOf_of_unresolved (by simpa using h_route)

theorem count_unresolved_eq (solver : Solver) {sites : List (Scope × Call)}
    (h : ∀ site ∈ sites, solver.routeOf site ≠ .unresolved →
      Text.startsWith "UNRESOLVED.UNRESOLVED." (solver.calleeOf site) = false) :
    (sites.map solver.routeOf).count .unresolved =
      (sites.map solver.calleeOf).countP (Text.startsWith "UNRESOLVED.UNRESOLVED.") := by
  rw [List.count, List.countP_map, List.countP_map]
  refine List.countP_congr fun site h_site => ?_
  constructor
  · intro h_route
    exact startsWith_calleeOf_of_unresolved (by simpa using h_route)
  · intro h_text
    by_contra h_route
    have h_other := h site h_site (by simpa using h_route)
    rw [Function.comp_apply] at h_text
    rw [h_text] at h_other
    cases h_other

end Solver

/-! ## The report and the graph -/

/-- The numbers of a project: the calls of its report are the calls in its graph and all calls of its
methods, each counted under one route; it has one method for each declaration, and no more callers. The
graph shows at least the unresolved calls, and no others if no other call is written like one. -/
theorem calls_accounted_for (solver : Solver) (units : List CompilationUnit) :
    (∀ output, (Analysis.ofUnits solver output units).report.tally = solver.mergedTally units ∧
      (Analysis.ofUnits solver output units).graph = solver.mergedGraph units) ∧
    (solver.mergedTally units).calls = (solver.mergedGraph units).callCount ∧
    (solver.mergedGraph units).callCount = (units.flatMap callsIn).length ∧
    (solver.mergedTally units).calls =
      (solver.mergedTally units).solved + (solver.mergedTally units).enclosing +
        (solver.mergedTally units).unresolved + (solver.mergedTally units).inferredTotal ∧
    (solver.mergedTally units).methods = (units.flatMap Scope.callables).length ∧
    (solver.mergedGraph units).size ≤ (solver.mergedTally units).methods ∧
    (solver.mergedTally units).unresolved ≤ (solver.mergedGraph units).unresolvedCount ∧
    ((∀ site ∈ units.flatMap callsIn, solver.routeOf site ≠ .unresolved →
        Text.startsWith "UNRESOLVED.UNRESOLVED." (solver.calleeOf site) = false) →
      (solver.mergedTally units).unresolved = (solver.mergedGraph units).unresolvedCount) := by
  have h_counts := solver.counts_mergedTally units
  have h_callees := solver.allCallees_mergedGraph units
  have h_calls : (solver.mergedGraph units).callCount = (units.flatMap callsIn).length := by
    rw [CallGraph.callCount, h_callees.length_eq, List.length_map]
  have h_unresolved : (solver.mergedGraph units).unresolvedCount =
      ((units.flatMap callsIn).map solver.calleeOf).countP
        (Text.startsWith "UNRESOLVED.UNRESOLVED.") := h_callees.countP_eq _
  refine ⟨fun output => ⟨Analysis.tally_report_ofUnits solver output units, rfl⟩, ?_, h_calls, h_counts.calls_eq, h_counts.methods, ?_, ?_, ?_⟩
  · rw [h_calls, h_counts.calls, List.length_map]
  · rw [h_counts.methods]
    exact solver.size_mergedGraph_le units
  · rw [h_counts.unresolved, h_unresolved]
    exact solver.count_unresolved_le _
  · intro h_apart
    rw [h_counts.unresolved, h_unresolved]
    exact solver.count_unresolved_eq h_apart

namespace Till

def method (name : String) (calls : List Call) : Method :=
  ⟨name, some "void", [], [], calls, [], false, true, 1, 1⟩

def unit (path : String) (methods : List Method) : CompilationUnit :=
  ⟨path, "", some "shop", [], [⟨"Till", "Till", .classType, none, [], [], [], methods, [], 1, 1⟩]⟩

/-- A class in two files. Its method `pay` calls `log()`, `round()`, `new Drawer().open()` and
`drawer.close()` in the first, and `log()` in the second; `log` is declared, `round` is not. -/
def units : List CompilationUnit :=
  [unit "Till.java" [method "log" [], method "pay" [⟨"log", none, [], 1⟩, ⟨"round", none, [], 1⟩,
      ⟨"open", some (.creation "Drawer"), [], 1⟩, ⟨"close", some (.name "drawer"), [], 1⟩]],
    unit "Other.java" [method "pay" [⟨"log", none, [], 1⟩]]]

def solver : Solver := (SymbolStore.ofUnits units).solver

end Till

/-- The five calls of `Till` go all four ways, and the one that is unresolved is the only one that looks
so. The two declarations of `pay` share an entry. -/
theorem till_calls_accounted_for :
    (∀ site ∈ Till.units.flatMap callsIn, Till.solver.routeOf site ≠ .unresolved →
      Text.startsWith "UNRESOLVED.UNRESOLVED." (Till.solver.calleeOf site) = false) ∧
    (Till.solver.mergedTally Till.units).unresolved = 1 ∧
    (Till.solver.mergedGraph Till.units).unresolvedCount = 1 ∧
    (Till.solver.mergedGraph Till.units).callCount = 2 + 1 + 1 + 1 ∧
    (Till.solver.mergedGraph Till.units).size < (Till.solver.mergedTally Till.units).methods := by
  have h_apart : ∀ site ∈ Till.units.flatMap callsIn, Till.solver.routeOf site ≠ .unresolved →
      Text.startsWith "UNRESOLVED.UNRESOLVED." (Till.solver.calleeOf site) = false := by
    decide +kernel
  have h_unresolved : (Till.solver.mergedTally Till.units).unresolved = 1 := by decide +kernel
  obtain ⟨-, h_calls, -, h_routes, h_methods, -, -, h_eq⟩ := calls_accounted_for Till.solver Till.units
  refine ⟨h_apart, h_unresolved, ?_, ?_, ?_⟩
  · rw [← h_eq h_apart, h_unresolved]
  · rw [← h_calls, h_routes]
    decide +kernel
  · rw [h_methods]
    decide +kernel

end JavaCallGraph
