import JavaCallGraph.SymbolStore.Solve
import JavaCallGraph.Proofs.Distinct
import JavaCallGraph.Proofs.KeyMap

/-!
# What the store holds

Every entry of the store is that of a declaration, and every method that a call is resolved to is a
method of such an entry. No route of resolution makes up a signature: whichever type a call is looked
up on, the answer is read off the hierarchy of that type.

* `SymbolStore.get?_types_addUnit`, `SymbolStore.get?_types_ofUnits` — the first declaration of a
  name is stored.
* `SymbolStore.mem_hierarchy` — a hierarchy holds stored entries only.
* `SymbolStore.findMethod?_eq_some` — a method that is found is one of the hierarchy.
* `SymbolStore.target_declared` — a resolved call reaches a declared method.
-/

namespace JavaCallGraph

open Java

namespace SymbolStore

/-! ## Growing the store -/

/-- The types of a unit under their qualified names, in the order of declaration. -/
def declaredEntries (u : CompilationUnit) : List (String × TypeEntry) :=
  u.allTypes.map fun d =>
    ((ImportTable.ofUnit u).inPackage d.qualifiedName, .ofDecl (ImportTable.ofUnit u) d)

theorem types_foldl_addType (imports : ImportTable) (decls : List TypeDecl) (store : SymbolStore) :
    (decls.foldl (fun store d => store.addType imports d) store).types =
      decls.foldl (fun m d => m.insertNew (imports.inPackage d.qualifiedName) (.ofDecl imports d))
        store.types := by
  induction decls generalizing store with
  | nil => rfl
  | cons d rest ih => exact ih (store.addType imports d)

theorem get?_types_addUnit (store : SymbolStore) (u : CompilationUnit) (k : String) :
    (store.addUnit u).types.get? k = (store.types.get? k).or ((declaredEntries u).lookup k) := by
  rw [addUnit, types_foldl_addType, ← KeyMap.get?_foldl_insertNew, declaredEntries, List.foldl_map]

theorem get?_types_foldl_addUnit (units : List CompilationUnit) (store : SymbolStore) (k : String) :
    (units.foldl addUnit store).types.get? k =
      (store.types.get? k).or ((units.flatMap declaredEntries).lookup k) := by
  induction units generalizing store with
  | nil => simp
  | cons u rest ih =>
    rw [List.foldl_cons, ih, get?_types_addUnit, List.flatMap_cons, List.lookup_append,
      Option.or_assoc]

/-- Of several declarations of a name the first is stored. -/
theorem get?_types_ofUnits (units : List CompilationUnit) (k : String) :
    (ofUnits units).types.get? k = (units.flatMap declaredEntries).lookup k :=
  get?_types_foldl_addUnit units empty k

@[simp] theorem types_addLibraryTypes (store : SymbolStore) (names : List String) :
    (store.addLibraryTypes names).types = store.types := by
  induction names generalizing store with
  | nil => rfl
  | cons name rest ih => exact ih (store.addLibraryType name)

@[simp] theorem libraryTypes_addUnit (store : SymbolStore) (u : CompilationUnit) :
    (store.addUnit u).libraryTypes = store.libraryTypes := by
  rw [addUnit]
  induction u.allTypes generalizing store with
  | nil => rfl
  | cons d rest ih => exact ih (store.addType (ImportTable.ofUnit u) d)

theorem declared_of_get? {units : List CompilationUnit} {k : String} {entry : TypeEntry}
    (h : (ofUnits units).types.get? k = some entry) :
    ∃ u ∈ units, ∃ d ∈ u.allTypes, k = (ImportTable.ofUnit u).inPackage d.qualifiedName ∧
      entry = .ofDecl (ImportTable.ofUnit u) d := by
  rw [get?_types_ofUnits] at h
  obtain ⟨u, hu, h_entry⟩ := List.mem_flatMap.1 (KeyMap.mem_of_lookup h)
  obtain ⟨d, hd, h_eq⟩ := List.mem_map.1 h_entry
  cases h_eq
  exact ⟨u, hu, d, hd, rfl, rfl⟩

/-! ## Hierarchies -/

/-- Visiting collects entries that were not seen yet. -/
theorem mem_visit {unseen : List (String × TypeEntry)} {queue : List String} {entry : TypeEntry}
    (h : entry ∈ visit unseen queue) : ∃ name, (name, entry) ∈ unseen := by
  fun_induction visit unseen queue with
  | case1 => cases h
  | case2 unseen name queue h_none ih => exact ih h
  | case3 unseen name queue found h_found ih =>
    rcases List.mem_cons.1 h with rfl | h_later
    · exact ⟨name, KeyMap.mem_of_lookup h_found⟩
    · obtain ⟨other, h_other⟩ := ih h_later
      exact ⟨other, (List.mem_filter.1 h_other).1⟩

/-- A hierarchy holds stored entries only. -/
theorem mem_hierarchy {store : SymbolStore} {name : String} {entry : TypeEntry}
    (h : entry ∈ store.hierarchy name) : ∃ key, store.types.get? key = some entry := by
  obtain ⟨key, h_mem⟩ := mem_visit h
  exact ⟨key, KeyMap.mem_toList_iff.1 h_mem⟩

/-! ## Overloads -/

theorem mem_candidates {store : SymbolStore} {owner name : String} {arity : Nat}
    {entry : TypeEntry} {m : MethodEntry} (h : (entry, m) ∈ store.candidates owner name arity) :
    entry ∈ store.hierarchy owner ∧ m ∈ entry.methods ∧ m.name = name ∧
      m.acceptsArity arity = true := by
  obtain ⟨h_mem, h_fits⟩ := List.mem_filter.1 (mem_of_mem_eraseDupsBy h)
  obtain ⟨entry', h_entry, h_pair⟩ := List.mem_flatMap.1 h_mem
  obtain ⟨m', h_method, heq⟩ := List.mem_map.1 h_pair
  cases heq
  simp only [Bool.and_eq_true, beq_iff_eq] at h_fits
  exact ⟨h_entry, h_method, h_fits.1, h_fits.2⟩

theorem mem_of_select {argTypes : List (Option String)} {methods : List (TypeEntry × MethodEntry)}
    {chosen : TypeEntry × MethodEntry} (h : select argTypes methods = some chosen) :
    chosen ∈ methods := by
  unfold select at h
  split at h
  · cases h
  · cases h
    exact List.mem_cons_self
  · split at h
    · rename_i only h_filter
      cases h
      have h_mem : chosen ∈ [chosen] := List.mem_cons_self
      rw [← h_filter] at h_mem
      exact (List.mem_filter.1 h_mem).1
    · cases h

/-- A method that is found is one of the hierarchy of the type it is looked up on. -/
theorem findMethod?_eq_some {store : SymbolStore} {owner name : String}
    {argTypes : List (Option String)} {found : Target}
    (h : store.findMethod? owner name argTypes = some found) :
    ∃ entry ∈ store.hierarchy owner, ∃ m ∈ entry.methods, m.name = name ∧
      found = store.toTarget entry m := by
  obtain ⟨⟨entry, m⟩, h_select, rfl⟩ := Option.map_eq_some_iff.1 h
  obtain ⟨h_entry, h_method, h_name, -⟩ := mem_candidates (mem_of_select h_select)
  exact ⟨entry, h_entry, m, h_method, h_name, rfl⟩

/-- A call that is resolved reaches a method of a stored type. -/
theorem target_eq_some {store : SymbolStore} {scope : Scope} {c : Call} {found : Target}
    (h : store.target scope c = some found) :
    ∃ key entry, store.types.get? key = some entry ∧ ∃ m ∈ entry.methods, m.name = c.name ∧
      found = store.toTarget entry m := by
  obtain ⟨owner, -, h_found⟩ := List.exists_of_findSome?_eq_some h
  obtain ⟨entry, h_entry, m, h_method, h_name, heq⟩ := findMethod?_eq_some h_found
  obtain ⟨key, h_key⟩ := mem_hierarchy h_entry
  exact ⟨key, entry, h_key, m, h_method, h_name, heq⟩

/-! ## Declared methods -/

/-- A method of a stored type has the signature under which its declaration calls others. -/
theorem signature_toTarget_ofDecl (store : SymbolStore) (imports : ImportTable) (d : TypeDecl)
    (m : Method) :
    (store.toTarget (.ofDecl imports d) (.ofMethod imports m)).signature =
      .declared imports d.qualifiedName m := rfl

/-- A call that is resolved reaches a method that one of the units declares. -/
theorem target_declared {units : List CompilationUnit} {libraryTypes : List String} {scope : Scope}
    {c : Call} {found : Target}
    (h : ((ofUnits units).addLibraryTypes libraryTypes).target scope c = some found) :
    ∃ u ∈ units, ∃ callee ∈ Scope.callables u, found.signature = callee.caller := by
  obtain ⟨key, entry, h_entry, m, h_method, -, rfl⟩ := target_eq_some h
  rw [types_addLibraryTypes] at h_entry
  obtain ⟨u, hu, d, hd, -, rfl⟩ := declared_of_get? h_entry
  obtain ⟨method, h_callable, rfl⟩ := List.mem_map.1 h_method
  refine ⟨u, hu, ⟨.ofUnit u, d, method⟩, ?_, signature_toTarget_ofDecl _ _ _ _⟩
  refine List.mem_map.2 ⟨(d, method), ?_, rfl⟩
  exact List.mem_flatMap.2 ⟨d, hd, List.mem_map.2 ⟨method, h_callable, rfl⟩⟩

end SymbolStore

end JavaCallGraph
