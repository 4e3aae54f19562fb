import JavaCallGraph.Proofs.Accounting
import JavaCallGraph.Proofs.ClosedWorld
import Mathlib.Data.List.Pairwise

/-!
# The order of the units does not matter

A project is put together unit by unit. The store keeps the first declaration of a name and the
snippets the first source of a caller, and a graph appends to what a caller has, so each of them could
depend on which unit comes first. It does not where no name is declared and no caller produced by two
different units: then any two units can be taken in either order, and by exchanging neighbours so can all
of them. Tallies only add up, whatever the units have in common.

* `NoSharedType`, `NoSharedCaller` — units without a common type, or a common caller.
* `SymbolStore.addUnit_comm`, `CallGraph.merge_comm`, `KeyMap.union_comm` — exchanging two steps.
* `SymbolStore.ofProject_perm`, `Solver.mergedGraph_perm`, `mergedSnippets_perm`,
  `Solver.mergedTally_perm` — exchanging all.
* `order_of_units_irrelevant` — the result.
-/

namespace JavaCallGraph

open Java

/-! ## Units apart -/

/-- The two units declare no type of one qualified name. -/
def NoSharedType (u v : CompilationUnit) : Prop :=
  ∀ d ∈ u.allTypes, ∀ e ∈ v.allTypes,
    (ImportTable.ofUnit u).inPackage d.qualifiedName ≠ (ImportTable.ofUnit v).inPackage e.qualifiedName

/-- No text is the signature of a caller in both units. -/
def NoSharedCaller (u v : CompilationUnit) : Prop :=
  ∀ scope ∈ Scope.callables u, ∀ scope' ∈ Scope.callables v, scope.caller.text ≠ scope'.caller.text

instance (u v : CompilationUnit) : Decidable (NoSharedType u v) :=
  inferInstanceAs (Decidable (∀ d ∈ _, _))

instance (u v : CompilationUnit) : Decidable (NoSharedCaller u v) :=
  inferInstanceAs (Decidable (∀ scope ∈ _, _))

instance : Std.Symm NoSharedType := ⟨fun _ _ h d h_d e h_e => (h e h_e d h_d).symm⟩

instance : Std.Symm NoSharedCaller :=
  ⟨fun _ _ h scope h_scope scope' h_scope' => (h scope' h_scope' scope h_scope).symm⟩

/-- Different units of the list are apart; a unit may stand in it more than once. -/
def AllApart (apart : CompilationUnit → CompilationUnit → Prop) (units : List CompilationUnit) : Prop :=
  ∀ u ∈ units, ∀ v ∈ units, u ≠ v → apart u v

theorem AllApart.of_pairwise {apart : CompilationUnit → CompilationUnit → Prop} [Std.Symm apart]
    {units : List CompilationUnit} (h : units.Pairwise apart) : AllApart apart units :=
  fun _ h_u _ h_v h_ne => h.forall h_u h_v h_ne

/-! ## Exchanging two units -/

theorem or_comm_of_eq_none {α : Type} {a b : Option α} (h : a = none ∨ b = none) :
    a.or b = b.or a := by
  rcases h with rfl | rfl <;> rw [Option.none_or, Option.or_none]

namespace SymbolStore

theorem ext_get? {store store' : SymbolStore}
    (h_types : ∀ k, store.types.get? k = store'.types.get? k)
    (h_library : store.libraryTypes = store'.libraryTypes) : store = store' := by
  cases store
  cases store'
  obtain rfl := KeyMap.ext_get? h_types
  obtain rfl := h_library
  rfl

theorem exists_type_of_lookup {u : CompilationUnit} {k : String}
    (h : (declaredEntries u).lookup k ≠ none) :
    ∃ d ∈ u.allTypes, (ImportTable.ofUnit u).inPackage d.qualifiedName = k := by
  obtain ⟨e, h_mem, h_key⟩ := List.lookup_isSome_iff.1 (Option.isSome_iff_ne_none.2 h)
  obtain ⟨d, h_d, rfl⟩ := List.mem_map.1 h_mem
  exact ⟨d, h_d, (eq_of_beq h_key).symm⟩

/-- Units without a common type can be stored in either order. -/
theorem addUnit_comm {u v : CompilationUnit} (h_apart : NoSharedType u v) (store : SymbolStore) :
    (store.addUnit u).addUnit v = (store.addUnit v).addUnit u := by
  refine ext_get? (fun k => ?_) (by simp)
  have h_none : (declaredEntries u).lookup k = none ∨ (declaredEntries v).lookup k = none := by
    by_contra h_both
    rw [not_or] at h_both
    obtain ⟨d, h_d, h_key⟩ := exists_type_of_lookup h_both.1
    obtain ⟨e, h_e, h_key'⟩ := exists_type_of_lookup h_both.2
    exact h_apart d h_d e h_e (h_key.trans h_key'.symm)
  rw [get?_types_addUnit, get?_types_addUnit, get?_types_addUnit, get?_types_addUnit,
    Option.or_assoc, Option.or_assoc, or_comm_of_eq_none h_none]

end SymbolStore

theorem CallGraph.ext_callees? {g h : CallGraph} (h_callees : ∀ k, g.callees? k = h.callees? k) :
    g = h := by
  cases g
  cases h
  obtain rfl := KeyMap.ext_get? h_callees
  rfl

/-- Graphs without a common caller can be merged into another in either order. -/
theorem CallGraph.merge_comm {h h' : CallGraph}
    (h_apart : ∀ k, h.callees? k = none ∨ h'.callees? k = none) (g : CallGraph) :
    (g.merge h).merge h' = (g.merge h').merge h := by
  apply ext_callees?
  intro k
  rw [callees?_merge, callees?_merge, callees?_merge, callees?_merge]
  rcases h_apart k with h_none | h_none <;> simp [h_none]

theorem KeyMap.union_comm {α : Type} {n n' : KeyMap α}
    (h_apart : ∀ k, n.get? k = none ∨ n'.get? k = none) (m : KeyMap α) :
    (m.union n).union n' = (m.union n').union n := by
  apply KeyMap.ext_get?
  intro k
  rw [get?_union, get?_union, get?_union, get?_union, Option.or_assoc, Option.or_assoc,
    or_comm_of_eq_none (h_apart k)]

/-! ## Callers of two units -/

theorem Solver.callees?_graphOf_eq_none {solver : Solver} {u : CompilationUnit} {k : String}
    (h : ∀ scope ∈ Scope.callables u, scope.caller.text ≠ k) :
    (solver.graphOf u).callees? k = none := by
  rw [← Option.not_isSome_iff_eq_none]
  intro h_some
  obtain ⟨scope, h_scope, h_key⟩ := contains_graphOf.1 h_some
  exact h scope h_scope h_key

theorem get?_snippetsOf_eq_none {u : CompilationUnit} {k : String}
    (h : ∀ scope ∈ Scope.callables u, scope.caller.text ≠ k) : (snippetsOf u).get? k = none := by
  rw [← Option.not_isSome_iff_eq_none]
  intro h_some
  obtain ⟨scope, h_scope, h_key, -⟩ := contains_snippetsOf.1 h_some
  exact h scope h_scope h_key

theorem NoSharedCaller.ne_or_ne {u v : CompilationUnit} (h_apart : NoSharedCaller u v) (k : String) :
    (∀ scope ∈ Scope.callables u, scope.caller.text ≠ k) ∨
      ∀ scope ∈ Scope.callables v, scope.caller.text ≠ k := by
  by_contra h_both
  simp only [not_or, not_forall, not_not] at h_both
  obtain ⟨⟨scope, h_scope, h_key⟩, scope', h_scope', h_key'⟩ := h_both
  exact h_apart scope h_scope scope' h_scope' (h_key.trans h_key'.symm)

/-! ## Exchanging all units -/

/-- Steps that can be exchanged where they differ can be taken in any order. -/
theorem foldl_perm_of_ne {α β : Type} {f : β → α → β} {xs ys : List α} (h_perm : xs.Perm ys)
    (h_comm : ∀ x ∈ xs, ∀ y ∈ xs, x ≠ y → ∀ z, f (f z x) y = f (f z y) x) (init : β) :
    xs.foldl f init = ys.foldl f init := by
  apply h_perm.foldl_eq'
  intro x h_x y h_y z
  by_cases h_eq : x = y
  · rw [h_eq]
  · exact h_comm x h_x y h_y h_eq z

section Permutation

variable {units units' : List CompilationUnit}

theorem SymbolStore.ofProject_perm (h_perm : units.Perm units') (h_apart : AllApart NoSharedType units)
    (libraryTypes : List String) : ofProject units libraryTypes = ofProject units' libraryTypes := by
  have h_units : ofUnits units = ofUnits units' :=
    foldl_perm_of_ne h_perm
      (fun u h_u v h_v h_ne store => addUnit_comm (h_apart u h_u v h_v h_ne) store) empty
  rw [ofProject, ofProject, h_units]

theorem Solver.mergedGraph_perm (h_perm : units.Perm units') (h_apart : AllApart NoSharedCaller units)
    (solver : Solver) : solver.mergedGraph units = solver.mergedGraph units' := by
  rw [mergedGraph, mergedGraph, List.foldl_map, List.foldl_map]
  apply foldl_perm_of_ne h_perm
  intro u h_u v h_v h_ne g
  apply CallGraph.merge_comm
  intro k
  exact ((h_apart u h_u v h_v h_ne).ne_or_ne k).imp callees?_graphOf_eq_none callees?_graphOf_eq_none

theorem mergedSnippets_perm (h_perm : units.Perm units') (h_apart : AllApart NoSharedCaller units) :
    mergedSnippets units = mergedSnippets units' := by
  rw [mergedSnippets, mergedSnippets, List.foldl_map, List.foldl_map]
  apply foldl_perm_of_ne h_perm
  intro u h_u v h_v h_ne m
  apply KeyMap.union_comm
  intro k
  exact ((h_apart u h_u v h_v h_ne).ne_or_ne k).imp get?_snippetsOf_eq_none get?_snippetsOf_eq_none

/-- Tallies need no condition: they count the same calls, in another order. -/
theorem Solver.mergedTally_perm (h_perm : units.Perm units') (solver : Solver) :
    solver.mergedTally units = solver.mergedTally units' := by
  have h_counts' := solver.counts_mergedTally units'
  rw [← (h_perm.flatMap_right Scope.callables).length_eq] at h_counts'
  exact (solver.counts_mergedTally units).eq_of_perm h_counts'
    ((h_perm.flatMap_right callsIn).map solver.routeOf)

end Permutation

/-- Units of which no two different ones declare one name or produce one caller can be taken in any
order: the store answers every question alike, whatever library types are added to it, and graph,
snippets and tally are the same. -/
theorem order_of_units_irrelevant {units units' : List CompilationUnit} (h_perm : units.Perm units')
    (h_types : AllApart NoSharedType units) (h_callers : AllApart NoSharedCaller units)
    (libraryTypes : List String) :
    (∀ name, SymbolStore.typeEntry? (.ofProject units libraryTypes) name =
      SymbolStore.typeEntry? (.ofProject units' libraryTypes) name) ∧
    (∀ name, (SymbolStore.ofProject units libraryTypes).isKnown name =
      (SymbolStore.ofProject units' libraryTypes).isKnown name) ∧
    (∀ scope e, (SymbolStore.ofProject units libraryTypes).typeOf scope e =
      (SymbolStore.ofProject units' libraryTypes).typeOf scope e) ∧
    (∀ scope c, (SymbolStore.ofProject units libraryTypes).target scope c =
      (SymbolStore.ofProject units' libraryTypes).target scope c) ∧
    (SymbolStore.ofProject units libraryTypes).solver.mergedGraph units =
      (SymbolStore.ofProject units' libraryTypes).solver.mergedGraph units' ∧
    mergedSnippets units = mergedSnippets units' ∧
    (SymbolStore.ofProject units libraryTypes).solver.mergedTally units =
      (SymbolStore.ofProject units' libraryTypes).solver.mergedTally units' := by
  rw [SymbolStore.ofProject_perm h_perm h_types libraryTypes]
  refine ⟨fun _ => rfl, fun _ => rfl, fun _ _ => rfl, fun _ _ => rfl, ?_, ?_, ?_⟩
  · exact Solver.mergedGraph_perm h_perm h_callers _
  · exact mergedSnippets_perm h_perm h_callers
  · exact Solver.mergedTally_perm h_perm _

/-- With the service before the repository that it calls, the call is resolved as before and the graph
is the same. -/
theorem service_order_irrelevant :
    Service.units.Perm Service.units.reverse ∧ AllApart NoSharedType Service.units ∧
    AllApart NoSharedCaller Service.units ∧
    (SymbolStore.ofProject Service.units.reverse ["org.lib.Client"]).target Service.scope Service.call =
      some ⟨⟨"a.data", "Named", "name", []⟩, some "java.lang.String"⟩ ∧
    (SymbolStore.ofProject Service.units ["org.lib.Client"]).solver.mergedGraph Service.units =
      (SymbolStore.ofProject Service.units.reverse ["org.lib.Client"]).solver.mergedGraph
        Service.units.reverse := by
  have h_perm : Service.units.Perm Service.units.reverse := (List.reverse_perm _).symm
  have h_types : AllApart NoSharedType Service.units := .of_pairwise (by decide +kernel)
  have h_callers : AllApart NoSharedCaller Service.units := .of_pairwise (by decide +kernel)
  obtain ⟨-, -, -, h_target, h_graph, -, -⟩ :=
    order_of_units_irrelevant h_perm h_types h_callers ["org.lib.Client"]
  refine ⟨h_perm, h_types, h_callers, ?_, h_graph⟩
  rw [← h_target]
  decide +kernel

end JavaCallGraph
