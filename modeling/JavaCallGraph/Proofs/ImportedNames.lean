import JavaCallGraph.Proofs.NestedTypes

/-!
# Names that a unit brings in

The table of a unit is filled from its imports and then from its nested types, and no entry is replaced. So
an import goes before a nested type of the same name, and of two of a kind the first one counts. The owner
of a static member is the path before its last name; where there is only one name, there is no owner and
the import is passed over.

* `Import.names`, `Import.outerPath` — the names of an imported path, and the path without its last one.
* `ImportTable.staticOwner_foldl_addImport` — the owners of members after all imports.
* `ImportTable.foldl_addNested_eq` — nested types change nothing but the types of the table.
* `CompilationUnit.has_dot_iff_nested` — the types of a text whose paths have a dot.
* `imports_before_nested_types` — all that the table of a unit holds.
* `lone_member_is_passed_over` — a static import without a type.
-/

namespace JavaCallGraph

open Java

/-- A list that only grows at its end holds the elements that were to be added, in order. -/
theorem foldl_append_eq_filter {τ α β : Type} {add : τ → α → τ} {p : α → Bool} {f : α → β}
    (view : τ → List β) (h : ∀ t a, view (add t a) = view t ++ (if p a then [f a] else []))
    (as : List α) (t : τ) : view (as.foldl add t) = view t ++ (as.filter p).map f := by
  induction as generalizing t with
  | nil => simp
  | cons a as ih =>
    rw [List.foldl_cons, ih, h, List.filter_cons]
    cases p a <;> simp

namespace Java.Import

def names (i : Import) : List String := Text.split '.' i.path

def outerPath (i : Import) : String := ".".intercalate i.names.dropLast

/-- Is it an import of one type or member, of this name? -/
def isOf (i : Import) (simple : String) : Bool := !i.isWildcard && i.names.getLast? == some simple

theorem isOf_eq (i : Import) (simple : String) :
    i.isOf simple = (!i.isWildcard && Text.afterLast '.' i.path == simple) := by
  rw [isOf, names, Text.getLast?_split]
  rfl

theorem brings_eq (i : Import) (simple : String) : i.brings simple = (!i.isStatic && i.isOf simple) := by
  rw [brings, isOf_eq, Bool.and_assoc]

theorem cutLast_path {i : Import} (h : Text.has '.' i.path = true) :
    Text.cutLast '.' i.path = some (i.outerPath, Text.afterLast '.' i.path) := by
  have h_sep : ".".toList = ['.'] := rfl
  exact Text.cutLast_of_mem h_sep (Text.has_iff.1 h)

end Java.Import

namespace ImportTable

/-! ## Static members -/

theorem staticOwner_addStaticMember (t : ImportTable) (i : Import) (member : String) :
    (t.addStaticMember i.path).staticOwner member = (t.staticOwner member).or
      (if Text.has '.' i.path && Text.afterLast '.' i.path == member then some i.outerPath else none) := by
  unfold addStaticMember
  cases h_dot : Text.has '.' i.path with
  | true =>
    rw [Import.cutLast_path h_dot]
    exact KeyMap.get?_insertNew_eq_or t.staticMembers _ _ member
  | false =>
    rw [Text.cutLast_of_notMem (mt Text.has_iff.2 (by simp [h_dot]))]
    exact Option.or_none.symm

theorem staticOwner_addImport (t : ImportTable) (i : Import) (member : String) :
    (t.addImport i).staticOwner member = (t.staticOwner member).or
      (if i.isStatic && Text.has '.' i.path && i.isOf member then some i.outerPath else none) := by
  have h_static := t.staticOwner_addStaticMember i member
  rw [Import.isOf_eq]
  unfold addImport
  cases i.isStatic <;> cases i.isWildcard
  · exact Option.or_none.symm
  · exact Option.or_none.symm
  · simpa using h_static
  · simp [staticOwner]

theorem staticOwner_foldl_addImport (imports : List Import) (t : ImportTable) (member : String) :
    (imports.foldl addImport t).staticOwner member = (t.staticOwner member).or
      ((imports.find? fun i => i.isStatic && Text.has '.' i.path && i.isOf member).map (·.outerPath)) :=
  foldl_or_eq_find? (staticOwner · member) (fun t i => t.staticOwner_addImport i member) imports t

/-! ## Wildcards -/

theorem addStaticMember_eq (t : ImportTable) (path : String) :
    ∃ members, t.addStaticMember path = { t with staticMembers := members } := by
  unfold addStaticMember
  split
  · exact ⟨_, rfl⟩
  · exact ⟨_, rfl⟩

/-- An import goes to the end of one list at most. -/
theorem wildcards_addImport (t : ImportTable) (i : Import) :
    (t.addImport i).staticWildcards =
      t.staticWildcards ++ (if i.isStatic && i.isWildcard then [i.path] else []) ∧
    (t.addImport i).wildcardPackages =
      t.wildcardPackages ++ (if !i.isStatic && i.isWildcard then [i.path] else []) := by
  obtain ⟨members, h_static⟩ := t.addStaticMember_eq i.path
  unfold addImport
  cases i.isStatic <;> cases i.isWildcard <;> simp [addType, h_static]

/-! ## Nested types -/

/-- Nested types change nothing but the types of the table. -/
theorem foldl_addNested_eq (types : List TypeDecl) (t : ImportTable) :
    ∃ table, types.foldl addNested t = { t with types := table } := by
  induction types generalizing t with
  | nil => exact ⟨_, rfl⟩
  | cons d types ih =>
    obtain ⟨table, h_rest⟩ := ih (t.addNested d)
    refine ⟨table, h_rest.trans ?_⟩
    unfold addNested
    split <;> rfl

end ImportTable

/-! ## Types in types -/

/-- In a text that can be read the path of a type has a dot exactly if the type is declared in another. -/
theorem Java.CompilationUnit.has_dot_iff_nested {path source : String} {u : CompilationUnit}
    (h_parse : CompilationUnit.parse path source = .ok u) {d : TypeDecl} (h_d : d ∈ u.allTypes) :
    Text.has '.' d.qualifiedName = true ↔ ∃ outer ∈ u.allTypes, d ∈ outer.types := by
  have h_paths : Tree.PathsFrom none u.types := by
    obtain ⟨t, rfl⟩ := exists_tree_of_parse h_parse
    exact Tree.pathsFrom_toUnit path source t
  -- a type is one of the outermost or stands in another
  have h_place : ∀ d ∈ u.allTypes, d ∈ u.types ∨ ∃ outer ∈ u.allTypes, d ∈ outer.types :=
    TypeDecl.forall_mem_allOf u.types (fun d h_mem => .inl h_mem)
      fun outer h_outer _ d h_mem => .inr ⟨outer, h_outer, h_mem⟩
  rw [Text.has_iff]
  constructor
  · intro h_dot
    refine (h_place d h_d).resolve_left fun h_top => ?_
    rw [h_paths.outermost d h_top] at h_dot
    exact (CompilationUnit.isWord_of_parse h_parse h_d).notMem_dot h_dot
  · rintro ⟨outer, h_outer, h_mem⟩
    rw [(nested_of_parse h_parse h_outer h_mem).path]
    simp

/-! ## The table of a unit -/

/-- What the names of a unit stand for. A simple name is that of the first import of a type of this name,
or else of the first nested type of this name; a member belongs to the type in the first static import of a
member of this name that has a type; and wildcards are kept in order. In a text that can be read the types
whose paths have a dot are those which are declared in others. -/
theorem imports_before_nested_types (u : CompilationUnit) (simple : String) :
    (ImportTable.ofUnit u).lookup simple =
      ((u.imports.find? fun i => !i.isStatic && i.isOf simple).map (·.path)).or
        ((u.allTypes.find? fun d => Text.has '.' d.qualifiedName && d.name == simple).map fun d =>
          (ImportTable.ofUnit u).inPackage d.qualifiedName) ∧
    (ImportTable.ofUnit u).staticOwner simple =
      (u.imports.find? fun i => i.isStatic && Text.has '.' i.path && i.isOf simple).map (·.outerPath) ∧
    (ImportTable.ofUnit u).staticWildcards =
      (u.imports.filter fun i => i.isStatic && i.isWildcard).map (·.path) ∧
    (ImportTable.ofUnit u).wildcardPackages =
      (u.imports.filter fun i => !i.isStatic && i.isWildcard).map (·.path) ∧
    ∀ path source, CompilationUnit.parse path source = .ok u → ∀ d ∈ u.allTypes,
      (Text.has '.' d.qualifiedName = true ↔ ∃ outer ∈ u.allTypes, d ∈ outer.types) := by
  obtain ⟨table, h_table⟩ := ImportTable.foldl_addNested_eq u.allTypes
    (u.imports.foldl ImportTable.addImport (.ofPackage u.package))
  refine ⟨?_, ?_, ?_, ?_, fun path source h_parse d h_d =>
    CompilationUnit.has_dot_iff_nested h_parse h_d⟩
  · simp only [ImportTable.lookup_ofUnit, Import.brings_eq]
    rfl
  · rw [ImportTable.ofUnit, h_table]
    exact ImportTable.staticOwner_foldl_addImport u.imports _ simple
  · rw [ImportTable.ofUnit, h_table]
    exact foldl_append_eq_filter ImportTable.staticWildcards
      (fun t i => (t.wildcards_addImport i).1) u.imports _
  · rw [ImportTable.ofUnit, h_table]
    exact foldl_append_eq_filter ImportTable.wildcardPackages
      (fun t i => (t.wildcards_addImport i).2) u.imports _

/-- A class with two nested classes, one of them named like two imported ones. -/
def importsOfOuter : String :=
  "package a;import b.N;import c.N;import static m.M.f;class Outer{class N{}class E{}}"

/-- The first import counts, and a nested class that no import hides is found. -/
theorem first_imports_of_outer :
    ∃ u, CompilationUnit.parse "Outer.java" importsOfOuter = .ok u ∧
      (ImportTable.ofUnit u).lookup "N" = some "b.N" ∧
      (ImportTable.ofUnit u).lookup "E" = some "a.Outer.E" ∧
      (ImportTable.ofUnit u).staticOwner "f" = some "m.M" ∧
      ∃ d ∈ u.allTypes, d.name = "E" ∧ ∃ outer ∈ u.allTypes, d ∈ outer.types := by
  have h_test : (CompilationUnit.parse "Outer.java" importsOfOuter).toOption.any (fun u =>
      (u.imports.find? fun i => !i.isStatic && i.isOf "N").map (·.path) == some "b.N" &&
      (u.imports.find? fun i => !i.isStatic && i.isOf "E").isNone &&
      (u.allTypes.find? fun d => Text.has '.' d.qualifiedName && d.name == "E").map (fun d =>
        (ImportTable.ofUnit u).inPackage d.qualifiedName) == some "a.Outer.E" &&
      (u.imports.find? fun i => i.isStatic && Text.has '.' i.path && i.isOf "f").map (·.outerPath) ==
        some "m.M") = true := by
    decide +kernel
  obtain ⟨u, h_parse, h_found⟩ := exists_unit_of_test h_test
  simp only [Bool.and_eq_true, beq_iff_eq, Option.isNone_iff_eq_none] at h_found
  obtain ⟨⟨⟨h_import, h_none⟩, h_nested⟩, h_owner⟩ := h_found
  obtain ⟨d, h_d, -⟩ := Option.map_eq_some_iff.1 h_nested
  have h_dotted := List.find?_some h_d
  rw [Bool.and_eq_true, beq_iff_eq] at h_dotted
  have h_mem := List.mem_of_find?_eq_some h_d
  refine ⟨u, h_parse, ?_, ?_, ?_, d, h_mem, h_dotted.2, ?_⟩
  · rw [(imports_before_nested_types u "N").1, h_import]
    rfl
  · rw [(imports_before_nested_types u "E").1, h_none, h_nested]
    rfl
  · rw [(imports_before_nested_types u "f").2.1, h_owner]
  · exact ((imports_before_nested_types u "E").2.2.2.2 _ _ h_parse d h_mem).1 h_dotted.1

/-- Two static imports of a member, the first without a type. -/
def loneMember : String := "import static f;import static a.B.f;"

/-- The first static import of a member need not be the one that counts. -/
theorem lone_member_is_passed_over :
    ¬ ∀ (path source : String) (u : CompilationUnit) (member : String),
      CompilationUnit.parse path source = .ok u →
      (ImportTable.ofUnit u).staticOwner member =
        (u.imports.find? fun i => i.isStatic && i.isOf member).map (·.outerPath) := by
  intro h
  have h_test : (CompilationUnit.parse "A.java" loneMember).toOption.any (fun u =>
      (ImportTable.ofUnit u).staticOwner "f" == some "a.B" &&
      (u.imports.find? fun i => i.isStatic && i.isOf "f").map (·.outerPath) == some "") = true := by
    decide +kernel
  obtain ⟨u, h_parse, h_found⟩ := exists_unit_of_test h_test
  simp only [Bool.and_eq_true, beq_iff_eq] at h_found
  have h_eq := h "A.java" loneMember u "f" h_parse
  rw [h_found.1, h_found.2] at h_eq
  exact absurd h_eq (by decide)

end JavaCallGraph
