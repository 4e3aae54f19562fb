import JavaCallGraph.Proofs.DeclaredNames
import JavaCallGraph.Proofs.GraphKeys
import JavaCallGraph.Proofs.KnownTypes
import JavaCallGraph.Proofs.OuterTypes
import JavaCallGraph.Proofs.Signature

/-!
# Nested types by their simple names

A unit has one table for the simple names of all its nested types. It holds the first type of a name, in
the order of the text, and is asked after the types that need no import. So a type that is declared in
another one is found there by its simple name, unless a type of that name stands further up in the unit
or needs no import.

* `ImportTable.lookup_ofUnit` — what the table of a unit holds.
* `IsFoundInside` — nothing stands in the way of a nested type.
* `nested_type_by_simple_name_iff` — when the name of a nested type denotes that type.
* `nested_record_is_platform_type` — a nested type whose name needs no import.
-/

namespace JavaCallGraph

open Java

/-- Does the import bring in a type of this simple name? -/
def Java.Import.brings (i : Import) (simple : String) : Bool :=
  !i.isStatic && !i.isWildcard && Text.afterLast '.' i.path == simple

/-- The first type of this name that a unit declares inside another type. -/
def Java.CompilationUnit.nestedNamed? (u : CompilationUnit) (simple : String) : Option TypeDecl :=
  u.allTypes.find? fun d => Text.has '.' d.qualifiedName && d.name == simple

/-- What keeps its answer while it grows gives that of the first element which has one. -/
theorem foldl_or_eq_find? {τ α β : Type} {add : τ → α → τ} {p : α → Bool} {f : α → β}
    (view : τ → Option β) (h : ∀ t a, view (add t a) = (view t).or (if p a then some (f a) else none))
    (as : List α) (t : τ) : view (as.foldl add t) = (view t).or ((as.find? p).map f) := by
  induction as generalizing t with
  | nil => simp
  | cons a as ih =>
    rw [List.foldl_cons, ih, h, Option.or_assoc, List.find?_cons]
    cases p a <;> simp

namespace ImportTable

/-! ## The table of a unit -/

theorem lookup_addImport (t : ImportTable) (i : Import) (simple : String) :
    (t.addImport i).lookup simple =
      (t.lookup simple).or (if i.brings simple then some i.path else none) := by
  obtain ⟨path, isStatic, isWildcard⟩ := i
  have h_static : (t.addStaticMember path).lookup simple = t.lookup simple := by
    unfold addStaticMember
    split <;> rfl
  cases isStatic <;> cases isWildcard
  · exact KeyMap.get?_insertNew_eq_or t.types _ path simple
  · exact Option.or_none.symm
  · exact h_static.trans Option.or_none.symm
  · exact Option.or_none.symm

theorem lookup_foldl_addImport (imports : List Import) (t : ImportTable) (simple : String) :
    (imports.foldl addImport t).lookup simple =
      (t.lookup simple).or ((imports.find? (·.brings simple)).map (·.path)) :=
  foldl_or_eq_find? (lookup · simple) (fun t i => lookup_addImport t i simple) imports t

theorem lookup_addNested (t : ImportTable) (d : TypeDecl) (simple : String) :
    (t.addNested d).lookup simple = (t.lookup simple).or
      (if Text.has '.' d.qualifiedName && d.name == simple then some (t.inPackage d.qualifiedName)
        else none) := by
  unfold addNested
  cases Text.has '.' d.qualifiedName with
  | true => exact KeyMap.get?_insertNew_eq_or t.types _ _ simple
  | false => exact Option.or_none.symm

theorem inPackage_addNested (t : ImportTable) (d : TypeDecl) : (t.addNested d).inPackage = t.inPackage := by
  funext name
  rw [inPackage, inPackage, package_addNested]

theorem lookup_foldl_addNested (types : List TypeDecl) (t : ImportTable) (simple : String) :
    (types.foldl addNested t).lookup simple = (t.lookup simple).or
      ((types.find? fun d => Text.has '.' d.qualifiedName && d.name == simple).map fun d =>
        t.inPackage d.qualifiedName) := by
  induction types generalizing t with
  | nil => simp
  | cons d types ih =>
    rw [List.foldl_cons, ih, lookup_addNested, Option.or_assoc, List.find?_cons, inPackage_addNested]
    cases Text.has '.' d.qualifiedName && d.name == simple <;> simp

/-- The imports of a unit come first, then its nested types in the order of the text. -/
theorem lookup_ofUnit (u : CompilationUnit) (simple : String) :
    (ofUnit u).lookup simple = ((u.imports.find? (·.brings simple)).map (·.path)).or
      ((u.nestedNamed? simple).map fun d => (ofUnit u).inPackage d.qualifiedName) := by
  have h_package : (u.imports.foldl addImport (ofPackage u.package)).package = (ofUnit u).package :=
    (package_ofUnit { u with types := [] }).trans (package_ofUnit u).symm
  have h_inPackage :
      (u.imports.foldl addImport (ofPackage u.package)).inPackage = (ofUnit u).inPackage := by
    funext name
    rw [inPackage, inPackage, h_package]
  rw [← h_inPackage, ofUnit, lookup_foldl_addNested, lookup_foldl_addImport]
  rfl

theorem inPackage_inj {t : ImportTable} {a b : String} : t.inPackage a = t.inPackage b ↔ a = b := by
  unfold inPackage
  cases t.package <;> simp

end ImportTable

/-! ## Types inside types -/

/-- A type of a unit that is declared in `outer`. -/
structure Nested (u : CompilationUnit) (outer inner : TypeDecl) : Prop where
  mem : inner ∈ u.allTypes
  path : inner.qualifiedName = outer.qualifiedName ++ "." ++ inner.name
  word : IsWord inner.name

theorem nested_of_parse {path source : String} {u : CompilationUnit} {outer inner : TypeDecl}
    (h_parse : CompilationUnit.parse path source = .ok u) (h_outer : outer ∈ u.allTypes)
    (h_inner : inner ∈ outer.types) : Nested u outer inner := by
  have h_mem : inner ∈ u.allTypes := TypeDecl.types_subset_allOf h_outer h_inner
  refine ⟨h_mem, ?_, CompilationUnit.isWord_of_parse h_parse h_mem⟩
  obtain ⟨t, rfl⟩ := exists_tree_of_parse h_parse
  exact (Tree.pathsFrom_toUnit path source t).inner outer h_outer inner h_inner

/-- What a text declares inside its types can be tested. -/
theorem exists_nested_of_test {path source : String}
    {test : CompilationUnit → TypeDecl → TypeDecl → Bool}
    (h : (CompilationUnit.parse path source).toOption.any (fun u =>
      u.allTypes.any fun outer => outer.types.any (test u outer)) = true) :
    ∃ u outer inner, CompilationUnit.parse path source = .ok u ∧ outer ∈ u.allTypes ∧
      inner ∈ outer.types ∧ test u outer inner = true := by
  obtain ⟨u, h_parse, h_types⟩ := exists_unit_of_test h
  obtain ⟨outer, h_outer, h_inside⟩ := List.any_eq_true.1 h_types
  obtain ⟨inner, h_inner, h_test⟩ := List.any_eq_true.1 h_inside
  exact ⟨u, outer, inner, h_parse, h_outer, h_inner, h_test⟩

/-- Nothing stands in the way of a type that is declared in `outer`. -/
structure IsFoundInside (u : CompilationUnit) (outer inner : TypeDecl) : Prop where
  /-- It is not named like a primitive type. -/
  notPrimitive : TypeName.isPrimitive inner.name = false
  /-- Nor like a type that needs no import, unless `outer` itself is spelled like their package. -/
  implicit : TypeName.isImplicit inner.name = true →
    (ImportTable.ofUnit u).inPackage outer.qualifiedName = TypeName.implicitPackage
  /-- No other type of its name comes first. -/
  first : TypeName.isImplicit inner.name = false → ∀ d ∈ u.nestedNamed? inner.name,
    d.qualifiedName = inner.qualifiedName

instance (u : CompilationUnit) (outer inner : TypeDecl) : Decidable (IsFoundInside u outer inner) :=
  decidable_of_iff (_ ∧ _ ∧ _) ⟨fun h => ⟨h.1, h.2.1, h.2.2⟩, fun h => ⟨h.1, h.2, h.3⟩⟩

namespace Nested

variable {u : CompilationUnit} {outer inner : TypeDecl}

theorem exists_nestedNamed? (h : Nested u outer inner) :
    ∃ first ∈ u.allTypes, u.nestedNamed? inner.name = some first := by
  have h_dot : Text.has '.' inner.qualifiedName = true := Text.has_iff.2 (by simp [h.path])
  obtain ⟨first, h_first⟩ := Option.isSome_iff_exists.1
    (List.find?_isSome.2 ⟨inner, h.mem, by simp [h_dot]⟩ : (u.nestedNamed? inner.name).isSome = true)
  exact ⟨first, List.mem_of_find?_eq_some h_first, h_first⟩

/-- What the name of a nested type denotes in its unit. -/
theorem qualify_eq (h : Nested u outer inner) (h_import : ∀ i ∈ u.imports, i.brings inner.name = false)
    {first : TypeDecl} (h_first : u.nestedNamed? inner.name = some first) :
    (ImportTable.ofUnit u).qualify inner.name =
      if TypeName.isPrimitive inner.name then inner.name
      else if TypeName.isImplicit inner.name then TypeName.implicitPackage ++ "." ++ inner.name
      else (ImportTable.ofUnit u).inPackage first.qualifiedName := by
  have h_imports : u.imports.find? (·.brings inner.name) = none := by
    simpa [List.find?_eq_none] using h_import
  rw [ImportTable.qualify_simple _ h.word.isDotted h.word.notMem_dot, h.word.isKept_eq,
    ImportTable.lookup_ofUnit, h_imports, h_first]
  rfl

theorem qualify_eq_inPackage_iff (h : Nested u outer inner)
    (h_import : ∀ i ∈ u.imports, i.brings inner.name = false) :
    (ImportTable.ofUnit u).qualify inner.name = (ImportTable.ofUnit u).inPackage inner.qualifiedName ↔
      IsFoundInside u outer inner := by
  obtain ⟨first, -, h_first⟩ := h.exists_nestedNamed?
  have h_key : (ImportTable.ofUnit u).inPackage inner.qualifiedName =
      (ImportTable.ofUnit u).inPackage outer.qualifiedName ++ "." ++ inner.name := by
    rw [h.path, String.append_assoc, ImportTable.inPackage_append, String.append_assoc]
  rw [h.qualify_eq h_import h_first]
  cases h_primitive : TypeName.isPrimitive inner.name with
  | true =>
    -- a key has a dot, a word has none
    constructor
    · intro h_eq
      have h_dot : '.' ∈ inner.name.toList := by
        rw [if_pos rfl] at h_eq
        rw [h_eq, h_key]
        simp
      exact absurd h_dot h.word.notMem_dot
    · intro h_found
      rw [h_found.notPrimitive] at h_primitive
      cases h_primitive
  | false =>
    cases h_implicit : TypeName.isImplicit inner.name with
    | true =>
      rw [if_neg Bool.false_ne_true, if_pos rfl, h_key, String.append_left_inj, String.append_left_inj]
      constructor
      · exact fun h_eq => ⟨h_primitive, fun _ => h_eq.symm, by simp [h_implicit]⟩
      · exact fun h_found => (h_found.implicit h_implicit).symm
    | false =>
      rw [if_neg Bool.false_ne_true, if_neg Bool.false_ne_true, ImportTable.inPackage_inj]
      constructor
      · intro h_eq
        refine ⟨h_primitive, by simp [h_implicit], fun _ d h_d => ?_⟩
        rw [h_first, Option.mem_some_iff] at h_d
        rw [← h_d, h_eq]
      · exact fun h_found => h_found.first h_implicit first h_first

theorem isKnown_qualify (h : Nested u outer inner)
    (h_import : ∀ i ∈ u.imports, i.brings inner.name = false) {store : SymbolStore}
    (h_known : ∀ d ∈ u.allTypes, store.isKnown ((ImportTable.ofUnit u).inPackage d.qualifiedName) = true) :
    store.isKnown ((ImportTable.ofUnit u).qualify inner.name) = true := by
  obtain ⟨first, h_mem, h_first⟩ := h.exists_nestedNamed?
  rw [h.qualify_eq h_import h_first]
  split
  · rename_i h_primitive
    simp [SymbolStore.isKnown, h.word.isDotted.base_eq, h_primitive]
  · split
    · have h_package : TypeName.IsDotted TypeName.implicitPackage := by decide +kernel
      have h_platform :
          Text.startsWith "java." (TypeName.implicitPackage ++ "." ++ inner.name) = true :=
        Text.startsWith_iff.2 ⟨"lang.".toList ++ inner.name.toList, by simp [TypeName.implicitPackage]⟩
      simp [SymbolStore.isKnown, (h_package.append h.word.isDotted).base_eq, h_platform]
    · exact h_known first h_mem

end Nested

/-- In a unit without an import of its name a nested type is denoted by its simple name exactly if nothing
stands in its way, and then it is the type of all variables that are declared with this name: local
variables, parameters and fields. A store has it under the qualified name in question. -/
theorem nested_type_by_simple_name_iff {path source : String} {u : CompilationUnit}
    {outer inner : TypeDecl} (h_parse : CompilationUnit.parse path source = .ok u)
    (h_outer : outer ∈ u.allTypes) (h_inner : inner ∈ outer.types)
    (h_import : ∀ i ∈ u.imports, i.brings inner.name = false) :
    ((ImportTable.ofUnit u).qualify inner.name = (ImportTable.ofUnit u).inPackage inner.qualifiedName ↔
      IsFoundInside u outer inner) ∧
    (∀ store : SymbolStore, (store.addUnit u).types.contains
      ((ImportTable.ofUnit u).inPackage inner.qualifiedName) = true) ∧
    ∀ (store : SymbolStore) (scope : Scope) (x : String) (b : Binding),
      (∀ d ∈ u.allTypes, store.isKnown ((ImportTable.ofUnit u).inPackage d.qualifiedName) = true) →
      scope.imports = ImportTable.ofUnit u → scope.binding x = some b →
      b.declaredType = some inner.name →
      (store.typeOf scope (.name x) = some ((ImportTable.ofUnit u).inPackage inner.qualifiedName) ↔
        IsFoundInside u outer inner) := by
  have h_nested := nested_of_parse h_parse h_outer h_inner
  have h_iff := h_nested.qualify_eq_inPackage_iff h_import
  refine ⟨h_iff, fun store => ?_, ?_⟩
  · rw [KeyMap.contains_iff, ← Option.isSome_iff_exists, SymbolStore.get?_types_addUnit, Option.isSome_or,
      Bool.or_eq_true]
    refine .inr (Option.isSome_iff_ne_none.2 fun h_none => ?_)
    have h_other := List.lookup_eq_none_iff.1 h_none _ (List.mem_map_of_mem h_nested.mem)
    simp at h_other
  · intro store scope x b h_known h_scope h_binding h_declared
    have h_type : store.typeOf scope (.name x) = some ((ImportTable.ofUnit u).qualify inner.name) := by
      rw [SymbolStore.typeOf, SymbolStore.nameType?, h_binding]
      simp only [h_declared, Option.bind_some]
      rw [h_scope, SymbolStore.resolveName_eq, if_pos (h_nested.isKnown_qualify h_import h_known)]
    rw [h_type, Option.some.injEq, h_iff]

/-- A class with a class in it that is the type of a field, a parameter and a local variable. -/
def nestedParts : String :=
  "package a;import x.Other;class Outer{Part field;void run(Part p){Part v;}class Part{}}"

/-- All three variables have the type of the nested class. -/
theorem nested_part_by_simple_name :
    ∃ u outer inner, CompilationUnit.parse "Outer.java" nestedParts = .ok u ∧ outer ∈ u.allTypes ∧
      inner ∈ outer.types ∧ (∀ i ∈ u.imports, i.brings inner.name = false) ∧ outer.methods.length = 1 ∧
      ∀ m ∈ outer.methods, ∀ x ∈ ["field", "p", "v"],
        (SymbolStore.ofUnits [u]).typeOf ⟨.ofUnit u, outer, m⟩ (.name x) = some "a.Outer.Part" := by
  obtain ⟨u, outer, inner, h_parse, h_outer, h_inner, h_all⟩ := exists_nested_of_test
    (show (CompilationUnit.parse "Outer.java" nestedParts).toOption.any (fun u =>
      u.allTypes.any fun outer => outer.types.any fun inner =>
        decide ((∀ i ∈ u.imports, i.brings inner.name = false) ∧ outer.methods.length = 1 ∧
          IsFoundInside u outer inner ∧
          (ImportTable.ofUnit u).inPackage inner.qualifiedName = "a.Outer.Part" ∧
          (∀ d ∈ u.allTypes, (SymbolStore.ofUnits [u]).isKnown
            ((ImportTable.ofUnit u).inPackage d.qualifiedName) = true) ∧
          ∀ m ∈ outer.methods, ∀ x ∈ ["field", "p", "v"],
            (Scope.binding ⟨.ofUnit u, outer, m⟩ x).bind Binding.declaredType =
              some inner.name)) = true by decide +kernel)
  obtain ⟨h_import, h_one, h_found, h_key, h_known, h_declared⟩ := of_decide_eq_true h_all
  refine ⟨u, outer, inner, h_parse, h_outer, h_inner, h_import, h_one, fun m h_m x h_x => ?_⟩
  obtain ⟨b, h_binding, h_type⟩ := Option.bind_eq_some_iff.1 (h_declared m h_m x h_x)
  rw [← h_key]
  exact ((nested_type_by_simple_name_iff h_parse h_outer h_inner h_import).2.2 _ _ x b h_known rfl
    h_binding h_type).2 h_found

/-- A class with a class in it that is named like one that needs no import. -/
def nestedRecords : String := "package a;class Outer{Record record;static class Record{void save(){}}}"

/-- The name of the nested class denotes the one that needs no import. -/
theorem nested_record_is_platform_type :
    ¬ ∀ (path source : String) (u : CompilationUnit) (outer inner : TypeDecl),
      CompilationUnit.parse path source = .ok u → outer ∈ u.allTypes → inner ∈ outer.types →
      (∀ i ∈ u.imports, i.brings inner.name = false) →
      (ImportTable.ofUnit u).qualify inner.name =
        (ImportTable.ofUnit u).inPackage inner.qualifiedName := by
  intro h
  obtain ⟨u, outer, inner, h_parse, h_outer, h_inner, h_all⟩ := exists_nested_of_test
    (show (CompilationUnit.parse "Outer.java" nestedRecords).toOption.any (fun u =>
      u.allTypes.any fun outer => outer.types.any fun inner =>
        decide ((∀ i ∈ u.imports, i.brings inner.name = false) ∧
          (ImportTable.ofUnit u).qualify inner.name = "java.lang.Record" ∧
          (ImportTable.ofUnit u).inPackage inner.qualifiedName = "a.Outer.Record")) = true by
      decide +kernel)
  obtain ⟨h_import, h_denotes, h_key⟩ := of_decide_eq_true h_all
  have h_eq := h "Outer.java" nestedRecords u outer inner h_parse h_outer h_inner h_import
  rw [h_denotes, h_key] at h_eq
  exact absurd h_eq (by decide)

end JavaCallGraph
