import JavaCallGraph.Proofs.SymbolStore
import JavaCallGraph.Proofs.TypeName

/-!
# Types that are told are known

A store tells the type of an expression only if the type is known. Where a type is found in a package all
whose types are imported, its name is put together with the suffix of the text, and what is known by then is
the name without the suffix. They are known alike because the name ends where it ended before, which takes a
text that has a name: with a suffix alone, the dots of the suffix would run into the dot of the package.

* `TypeName.HasName`, `Scope.TypesNamed`, `Java.Expr.typeText?` — texts of types and their names.
* `SymbolStore.isKnown_of_resolveName`, `SymbolStore.isKnown_of_fieldType?`,
  `SymbolStore.isKnown_of_returnType` — where types come from.
* `told_types_are_known` — types of expressions and of results of calls.
-/

namespace JavaCallGraph

open Java

/-! ## Texts with a name -/

namespace TypeName

/-- Something stands before the suffix of the text. -/
def HasName (raw : String) : Prop := base raw ≠ ""

instance (raw : String) : Decidable (HasName raw) := inferInstanceAs (Decidable (_ ≠ _))

theorem hasName_iff {raw : String} :
    HasName raw ↔ ∃ c ∈ (splitChars raw.toList).1, Text.isBlank c = false := by
  rw [HasName, ne_eq, ← String.toList_inj, toList_base, String.toList_empty, Text.trim_eq_nil_iff]
  simp

/-- Brackets in place of an ellipsis leave the name. -/
theorem HasName.array {raw : String} (h : HasName raw) : HasName (element raw ++ "[]") := by
  have h_base : base (element raw ++ "[]") = base (element raw) :=
    base_append (.inr (by decide)) (.inr (by decide))
  obtain ⟨dots, h_raw, h_dots⟩ := exists_toList_element raw
  rw [hasName_iff, h_raw] at h
  obtain ⟨c, h_c, h_blank⟩ := h
  rw [HasName, h_base]
  exact hasName_iff.2 ⟨c, (splitChars_append_isPrefix h_dots _).subset h_c, h_blank⟩

/-- A simple name that is put below a package keeps its place before the suffix. -/
theorem base_below {raw : String} (h_name : HasName raw) (h_simple : Text.has '.' (base raw) = false)
    (package : String) :
    base (package ++ "." ++ base raw ++ tidy (split raw).2) = base (package ++ "." ++ base raw) := by
  have h_suffix : (split raw).2.toList = (splitChars raw.toList).2 := by simp [split]
  apply base_append
  · rw [tidy, String.toList_ofList, h_suffix]
    rcases (splitChars_spec raw.toList).2.2 with h_none | h_start
    · rw [h_none]
      exact .inl rfl
    · exact .inr (startsSuffix_tidyFrom h_start none false)
  · -- the last character is one of the name, which has no dots
    refine .inl fun h_last => ?_
    have h_ne : (base raw).toList ≠ [] := fun h_nil => h_name (String.toList_inj.1 h_nil)
    rw [String.toList_append, List.getLast?_append_of_ne_nil _ h_ne] at h_last
    have h_dot : Text.has '.' (base raw) = true := Text.has_iff.2 (List.mem_of_getLast? h_last)
    rw [h_simple] at h_dot
    cases h_dot

end TypeName

open JavaCallGraph.TypeName (HasName)

/-- All types that are written in a scope have names. -/
structure Scope.TypesNamed (s : Scope) : Prop where
  declared : ∀ v ∈ s.method.locals ++ s.owner.fields,
    HasName v.type ∧ ∀ raw ∈ v.constructed, HasName raw
  params : ∀ p ∈ s.method.params, HasName p.type

/-- The text by which an expression can name a type: that of a new object or a cast, or the name that the
expression spells. -/
def Java.Expr.typeText? : Expr → Option String
  | .creation type => some type
  | .cast type _ => some type
  | e => SymbolStore.dottedName? e

theorem Java.Variable.hasName_declaredType {v : Variable} {raw : String}
    (h : HasName v.type ∧ ∀ raw ∈ v.constructed, HasName raw) (h_raw : v.declaredType = some raw) :
    HasName raw := by
  rw [declaredType] at h_raw
  split at h_raw
  · exact h.2 raw h_raw
  · cases h_raw
    exact h.1

theorem Java.Param.hasName_declaredType {p : Param} (h : HasName p.type) : HasName p.declaredType := by
  rw [declaredType]
  split
  · exact h.array
  · exact h

theorem Scope.TypesNamed.hasName_declaredType {s : Scope} (h : s.TypesNamed) {name raw : String}
    {b : Binding} (h_binding : s.binding name = some b) (h_raw : b.declaredType = some raw) :
    HasName raw := by
  simp only [binding, Option.orElse_eq_orElse, Option.orElse_eq_or, Option.or_eq_some_iff,
    Option.map_eq_some_iff] at h_binding
  rcases h_binding with ⟨v, h_v, rfl⟩ | ⟨-, ⟨p, h_p, rfl⟩ | ⟨-, v, h_v, rfl⟩⟩
  · exact Variable.hasName_declaredType
      (h.declared v (List.mem_append_left _ (List.mem_of_find?_eq_some h_v))) h_raw
  · cases h_raw
    exact Param.hasName_declaredType (h.params p (List.mem_of_find?_eq_some h_p))
  · exact Variable.hasName_declaredType
      (h.declared v (List.mem_append_right _ (List.mem_of_find?_eq_some h_v))) h_raw

namespace SymbolStore

variable {store : SymbolStore} {scope : Scope}

/-! ## Where types come from -/

theorem isKnown_congr {a b : String} (h : TypeName.base a = TypeName.base b) :
    store.isKnown a = store.isKnown b := by
  rw [isKnown, isKnown, h]

theorem isKnown_of_isSome_typeEntry? {name : String} (h : (store.typeEntry? name).isSome = true) :
    store.isKnown name = true := by
  have h_contains : store.types.contains (TypeName.base name) = true := h
  simp [isKnown, h_contains]

theorem resolveName_eq (store : SymbolStore) (imports : ImportTable) (raw : String) :
    store.resolveName imports raw =
      if store.isKnown (imports.qualify raw) then some (imports.qualify raw)
      else if Text.has '.' (TypeName.base raw) then none
      else ((imports.wildcardPackages.map fun package => package ++ "." ++ TypeName.base raw).find?
        store.isKnown).map fun found => found ++ TypeName.tidy (TypeName.split raw).2 := by
  rw [resolveName]
  rfl

theorem isKnown_of_resolveName {imports : ImportTable} {raw type : String} (h_name : HasName raw)
    (h : store.resolveName imports raw = some type) : store.isKnown type = true := by
  rw [resolveName_eq] at h
  by_cases h_known : store.isKnown (imports.qualify raw) = true
  · rw [if_pos h_known, Option.some.injEq] at h
    rwa [← h]
  · rw [if_neg h_known] at h
    cases h_simple : Text.has '.' (TypeName.base raw) with
    | true =>
      rw [h_simple] at h
      cases h
    | false =>
      rw [h_simple, if_neg Bool.false_ne_true] at h
      -- the name that was found is known, and told is this name with the suffix
      obtain ⟨found, h_find, rfl⟩ := Option.map_eq_some_iff.1 h
      obtain ⟨package, -, rfl⟩ := List.mem_map.1 (List.mem_of_find?_eq_some h_find)
      rw [← List.find?_some h_find]
      exact isKnown_congr (TypeName.base_below h_name h_simple package)

theorem isKnown_of_mem_platformFields :
    ∀ e ∈ platformFields, store.isKnown e.2 = true := by
  have h_platform : ∀ e ∈ platformFields, Text.startsWith "java." (TypeName.base e.2) = true := by
    decide
  intro e h_e
  simp [isKnown, h_platform e h_e]

theorem isKnown_of_fieldType? {owner field type : String}
    (h : store.fieldType? owner field = some type) : store.isKnown type = true := by
  rw [fieldType?] at h
  cases h_lookup : platformFields.lookup (TypeName.base owner, field) with
  | some found =>
    rw [h_lookup, Option.some.injEq] at h
    have h_mem : ((TypeName.base owner, field), found) ∈ platformFields := KeyMap.mem_of_lookup h_lookup
    rw [← h]
    exact isKnown_of_mem_platformFields ((TypeName.base owner, field), found) h_mem
  | none =>
    rw [h_lookup] at h
    exact (Option.filter_eq_some_iff.1 h).2

theorem isKnown_of_namedType? {name type : String} (h_name : HasName name)
    (h : store.namedType? scope name = some type) : store.isKnown type = true := by
  rw [namedType?] at h
  split at h
  · exact isKnown_of_resolveName h_name h
  · cases h

theorem isKnown_of_literalType? {form : Literal} {type : String}
    (h : literalType? form = some type) : store.isKnown type = true := by
  have h_kinds : ∀ type ∈ literalType? form, TypeName.isPrimitive (TypeName.base type) = true ∨
      Text.startsWith "java." (TypeName.base type) = true := by
    cases form <;> decide
  rcases h_kinds type h with h_known | h_known <;> simp [isKnown, h_known]

/-- The type of the result of a method that is found. -/
theorem isKnown_of_returnType {owner name type : String} {argTypes : List (Option String)}
    {found : Target} (h_found : store.findMethod? owner name argTypes = some found)
    (h : found.returnType = some type) : store.isKnown type = true ∧ type ≠ "void" := by
  obtain ⟨entry, -, m, -, -, rfl⟩ := findMethod?_eq_some h_found
  have h_filter := (Option.filter_eq_some_iff.1 h).2
  simp only [Bool.and_eq_true, bne_iff_ne] at h_filter
  exact h_filter.symm

theorem isKnown_of_nameType? (h_scope : scope.TypesNamed) {name type : String} (h_name : HasName name)
    (h : store.nameType? scope name = some type) : store.isKnown type = true := by
  rw [nameType?] at h
  split at h
  · rename_i b h_binding
    obtain ⟨raw, h_raw, h⟩ := Option.bind_eq_some_iff.1 h
    exact isKnown_of_resolveName (h_scope.hasName_declaredType h_binding h_raw) h
  · simp only [Option.orElse_eq_orElse, Option.orElse_eq_or, Option.or_eq_some_iff] at h
    rcases h with h | ⟨-, h⟩
    · exact isKnown_of_fieldType? h
    · exact isKnown_of_namedType? h_name h

/-! ## Expressions -/

theorem isKnown_of_typeOf (h_owner : (store.typeEntry? scope.ownerName).isSome = true)
    (h_scope : scope.TypesNamed) {e : Expr} (h_super : e ≠ .super)
    (h_text : ∀ raw ∈ e.typeText?, HasName raw) {type : String}
    (h : store.typeOf scope e = some type) : store.isKnown type = true := by
  -- no induction: whatever the parts of an expression are, its type is read off in one of the ways above
  cases e with
  | this =>
    rw [typeOf] at h
    cases h
    exact isKnown_of_isSome_typeEntry? h_owner
  | super => exact absurd rfl h_super
  | name text =>
    rw [typeOf] at h
    exact isKnown_of_nameType? h_scope (h_text text rfl) h
  | field object name =>
    rw [typeOf] at h
    simp only [Option.orElse_eq_orElse, Option.orElse_eq_or, Option.or_eq_some_iff,
      Option.bind_eq_some_iff] at h
    rcases h with ⟨owner, -, h⟩ | ⟨-, spelled, h_spelled, h⟩
    · exact isKnown_of_fieldType? h
    · exact isKnown_of_namedType? (h_text spelled h_spelled) h
  | call name receiver arguments line =>
    rw [typeOf] at h
    obtain ⟨found, h_found, h⟩ := Option.bind_eq_some_iff.1 h
    obtain ⟨owner, -, h_found⟩ := List.exists_of_findSome?_eq_some h_found
    exact (isKnown_of_returnType h_found h).1
  | creation text =>
    rw [typeOf] at h
    exact isKnown_of_resolveName (h_text text rfl) h
  | cast text value =>
    rw [typeOf] at h
    exact isKnown_of_resolveName (h_text text rfl) h
  | literal form =>
    rw [typeOf] at h
    exact isKnown_of_literalType? h
  | other kind =>
    rw [typeOf] at h
    cases h

end SymbolStore

/-- In a scope whose type is stored, a type that is told for an expression is known if the types that are
written in the scope and in the expression have names; only for `super` anything may be told. The result
of a call has a known type too, which is not `void`. -/
theorem told_types_are_known {store : SymbolStore} {scope : Scope}
    (h_owner : (store.typeEntry? scope.ownerName).isSome = true) (h_scope : scope.TypesNamed) :
    (∀ (e : Expr) (type : String), e ≠ .super → (∀ raw ∈ e.typeText?, HasName raw) →
      store.typeOf scope e = some type → store.isKnown type = true) ∧
    ∀ (c : Call) (found : Target) (type : String), store.target scope c = some found →
      found.returnType = some type → store.isKnown type = true ∧ type ≠ "void" := by
  constructor
  · intro e type h_super h_text h
    exact SymbolStore.isKnown_of_typeOf h_owner h_scope h_super h_text h
  · intro c found type h_target h
    obtain ⟨owner, -, h_found⟩ := List.exists_of_findSome?_eq_some h_target
    exact SymbolStore.isKnown_of_returnType h_found h

namespace Depot

def type (name : String) (superclass : Option String) (fields : List Variable)
    (methods : List Method) : TypeDecl :=
  ⟨name, name, .classType, superclass, [], [], fields, methods, [], 1, 1⟩

/-- `void fill(Label<?>... labels)`. -/
def fill : Method :=
  ⟨"fill", some "void", [⟨"labels", "Label<?>...", true⟩], [], [], [], false, true, 1, 1⟩

def depot : TypeDecl := type "Depot" (some "Crate") [] [fill]

/-- A crate with a label, and a depot in another package that extends it and imports all labels. -/
def units : List CompilationUnit :=
  [⟨"Crate.java", "", some "lib", [],
      [type "Crate" none [⟨"label", "Label", none⟩] [],
        type "Label" none [] [⟨"crate", some "Crate", [], [], [], [], false, true, 1, 1⟩]]⟩,
    ⟨"Depot.java", "", some "app", [⟨"lib.Crate", false, false⟩, ⟨"lib", false, true⟩], [depot]⟩]

def store : SymbolStore := .ofUnits units

def scope : Scope := ⟨.ofUnit (units.getD 1 default), depot, fill⟩

/-- `label.crate()`. -/
def call : Call := ⟨"crate", some (.name "label"), [], 1⟩

end Depot

/-- Types in the depot that are told with a suffix, and the type of a result through an inherited field. -/
theorem depot_types_are_known :
    (Depot.store.typeEntry? Depot.scope.ownerName).isSome = true ∧ Depot.scope.TypesNamed ∧
    Depot.store.typeOf Depot.scope (.creation "Label<String>[]") = some "lib.Label<String>[]" ∧
    Depot.store.isKnown "lib.Label<String>[]" = true ∧
    Depot.store.typeOf Depot.scope (.name "labels") = some "lib.Label<?>[]" ∧
    Depot.store.isKnown "lib.Label<?>[]" = true ∧
    ∃ found, Depot.store.target Depot.scope Depot.call = some found ∧
      found.returnType = some "lib.Crate" ∧ Depot.store.isKnown "lib.Crate" = true := by
  have h_owner : (Depot.store.typeEntry? Depot.scope.ownerName).isSome = true := by decide +kernel
  have h_scope : Depot.scope.TypesNamed := ⟨by decide +kernel, by decide +kernel⟩
  have h_new : Depot.store.typeOf Depot.scope (.creation "Label<String>[]") =
      some "lib.Label<String>[]" := by decide +kernel
  have h_labels : Depot.store.typeOf Depot.scope (.name "labels") = some "lib.Label<?>[]" := by
    decide +kernel
  have h_call : (Depot.store.target Depot.scope Depot.call).map (·.returnType) =
      some (some "lib.Crate") := by decide +kernel
  obtain ⟨found, h_found, h_return⟩ := Option.map_eq_some_iff.1 h_call
  obtain ⟨h_expressions, h_calls⟩ := told_types_are_known h_owner h_scope
  refine ⟨h_owner, h_scope, h_new, ?_, h_labels, ?_, found, h_found, h_return,
    (h_calls _ _ _ h_found h_return).1⟩
  · exact h_expressions _ _ (by simp) (by decide +kernel) h_new
  · exact h_expressions _ _ (by simp) (by decide +kernel) h_labels

namespace Ellipsis

def method : Method := ⟨"f", some "void", [], [], [], [], false, true, 3, 3⟩

/-- A class that imports all types of a package. -/
def unit : CompilationUnit :=
  ⟨"A.java", "", none, [⟨"java", false, true⟩],
    [⟨"A", "A", .classType, none, [], [], [], [method], [], 2, 4⟩]⟩

def store : SymbolStore := .ofUnits [unit]

def scope : Scope := ⟨.ofUnit unit, ⟨"A", "A", .classType, none, [], [], [], [method], [], 2, 4⟩, method⟩

end Ellipsis

/-- An expression that is a suffix and no name has a type that is not known. -/
theorem ellipsis_has_unknown_type :
    (Ellipsis.store.typeEntry? Ellipsis.scope.ownerName).isSome = true ∧ Ellipsis.scope.TypesNamed ∧
    Ellipsis.store.typeOf Ellipsis.scope (.name "...B") = some "java....B" ∧
    Ellipsis.store.isKnown "java....B" = false :=
  ⟨by decide +kernel, ⟨by decide +kernel, by decide +kernel⟩, by decide +kernel, by decide +kernel⟩

end JavaCallGraph
