import JavaCallGraph.Signature
import JavaCallGraph.Proofs.TypeName

/-!
# Signatures by qualified name and by declaration

A method of a type can be named from the qualified name of the type, which is cut at its last dot, or
from the package and path of the declaration, which are kept apart. This module says when both give
the same text.

* `qualifiedType_onType` — what cutting a qualified name keeps of it.
* `text_onType_inPackage_iff` — the two texts agree for bare names, nested types of the default package
  excepted.
-/

namespace JavaCallGraph

open Java

/-! ## The package of a unit -/

namespace ImportTable

@[simp] theorem package_addImport (t : ImportTable) (i : Import) :
    (t.addImport i).package = t.package := by
  unfold addImport addStaticMember
  split <;> try rfl
  split <;> rfl

@[simp] theorem package_addNested (t : ImportTable) (d : TypeDecl) :
    (t.addNested d).package = t.package := by
  unfold addNested
  split <;> rfl

@[simp] theorem package_ofUnit (u : CompilationUnit) : (ofUnit u).package = u.package := by
  have h_imports : ∀ (imports : List Import) (t : ImportTable),
      (imports.foldl addImport t).package = t.package := by
    intro imports
    induction imports with
    | nil => exact fun _ => rfl
    | cons i imports ih => exact fun t => (ih _).trans (package_addImport t i)
  have h_types : ∀ (types : List TypeDecl) (t : ImportTable),
      (types.foldl addNested t).package = t.package := by
    intro types
    induction types with
    | nil => exact fun _ => rfl
    | cons d types ih => exact fun t => (ih _).trans (package_addNested t d)
  exact (h_types _ _).trans (h_imports _ _)

end ImportTable

/-! ## The type in a text -/

namespace Signature

open JavaCallGraph.TypeName

theorem text_onType (type method : String) :
    (onType type method).text = (onType type method).qualifiedType ++ ("." ++ method ++ "()") := by
  cases h : splitQualified type
  simp [onType, h, text, qualifiedType, String.append_assoc]

/-- Cutting a qualified name keeps its name, and a name without dots gets the default package. -/
theorem qualifiedType_onType (type method : String) :
    (onType type method).qualifiedType =
      if Text.has '.' (base type) then base type else defaultPackage ++ "." ++ base type := by
  rw [onType, splitQualified, Text.cutLast]
  cases h_cut : Text.cutLastChars '.' (base type).toList with
  | none =>
    have h_dot := Text.cutLastChars_eq_none_iff.1 h_cut
    rw [if_neg fun h => h_dot (Text.has_iff.1 h)]
    rfl
  | some cut =>
    obtain ⟨before, after⟩ := cut
    have h_pieces := Text.cutLastChars_eq_some h_cut
    rw [if_pos (Text.has_iff.2 (by simp [h_pieces]))]
    apply String.toList_injective
    simp [qualifiedType, h_pieces]

theorem has_dot_base_default {name : String} (h : Text.has '.' name = false) :
    Text.has '.' (base (defaultPackage ++ "." ++ name)) = true := by
  have h_dot : '.' ∉ name.toList := fun h_mem => by simp [Text.has_iff.2 h_mem] at h
  have h_start : startsSuffix ('.' :: name.toList) = false :=
    startsSuffix_dot_of_ne fun h_head => h_dot (List.mem_of_head? h_head)
  rw [Text.has_iff, toList_base]
  refine Text.mem_trim ?_ (by decide)
  have h_none : NoSuffixIn "default.".toList name.toList :=
    ⟨rfl, rfl, rfl, rfl, rfl, rfl, rfl, h_start, trivial⟩
  rw [String.toList_append, show (defaultPackage ++ ".").toList = "default.".toList from rfl,
    splitChars_append h_none]
  exact List.mem_append_left _ (by decide)

/-- A dotted name is cut and put together to itself exactly if it is bare. -/
theorem qualifiedType_onType_eq_self_iff {type method : String} (h_dot : Text.has '.' type = true) :
    (onType type method).qualifiedType = type ↔ IsBare type := by
  rw [qualifiedType_onType, ← base_eq_self_iff]
  split
  · rfl
  · rename_i h_base
    rw [Bool.not_eq_true] at h_base
    constructor
    · intro h
      have h_placeholder := has_dot_base_default h_base
      rw [h, h_base] at h_placeholder
      cases h_placeholder
    · intro h
      rw [h, h_dot] at h_base
      cases h_base

/-- A name gets the placeholder of the default package exactly if it is bare and has no dots. -/
theorem qualifiedType_onType_eq_default_iff {type method : String} :
    (onType type method).qualifiedType = defaultPackage ++ "." ++ type ↔
      IsBare type ∧ Text.has '.' type = false := by
  rw [qualifiedType_onType, ← base_eq_self_iff]
  split
  · rename_i h_base
    constructor
    · intro h
      -- the name is part of the text, which is shorter than the text with the placeholder
      have h_length := congrArg (fun s => s.toList.length) h
      have h_le := length_base_le type
      simp only [String.toList_append, List.length_append] at h_length
      have h_one : (".".toList).length = 1 := rfl
      omega
    · rintro ⟨h_self, h_dot⟩
      rw [h_self, h_dot] at h_base
      cases h_base
  · rename_i h_base
    rw [Bool.not_eq_true] at h_base
    rw [String.append_right_inj]
    constructor
    · intro h
      exact ⟨h, by rw [← h]; exact h_base⟩
    · exact fun h => h.1

end Signature

/-! ## The two texts of a method -/

/-- A method that is named from the qualified name of its type and from the declaration of its type has
one text exactly if the qualified name is bare and, in the default package, the type is not nested.
For a nested type of the default package the first text lacks the placeholder of the package. -/
theorem text_onType_inPackage_iff (u : CompilationUnit) (d : TypeDecl) (method : String) :
    ((Signature.onType ((ImportTable.ofUnit u).inPackage d.qualifiedName) method).text =
        (⟨(ImportTable.ofUnit u).packageName, d.qualifiedName, method, []⟩ : Signature).text ↔
      TypeName.IsBare ((ImportTable.ofUnit u).inPackage d.qualifiedName) ∧
        (u.package = none → Text.has '.' d.qualifiedName = false)) ∧
    (u.package = none → TypeName.IsBare d.qualifiedName → Text.has '.' d.qualifiedName = true →
      (⟨(ImportTable.ofUnit u).packageName, d.qualifiedName, method, []⟩ : Signature).text =
        "default." ++
          (Signature.onType ((ImportTable.ofUnit u).inPackage d.qualifiedName) method).text) := by
  have h_declared : (⟨(ImportTable.ofUnit u).packageName, d.qualifiedName, method, []⟩ :
      Signature).text = (ImportTable.ofUnit u).packageName ++ "." ++ d.qualifiedName ++
        ("." ++ method ++ "()") := by
    simp [Signature.text, String.append_assoc]
  rw [h_declared, Signature.text_onType, String.append_left_inj]
  unfold ImportTable.packageName ImportTable.inPackage
  rw [ImportTable.package_ofUnit]
  cases u.package with
  | some package =>
    have h_dot : Text.has '.' (package ++ "." ++ d.qualifiedName) = true :=
      Text.has_iff.2 (by simp)
    simpa using Signature.qualifiedType_onType_eq_self_iff h_dot
  | none =>
    refine ⟨by simpa using Signature.qualifiedType_onType_eq_default_iff, ?_⟩
    intro _ h_bare h_dot
    have h_type : (Signature.onType d.qualifiedName method).qualifiedType = d.qualifiedName :=
      (Signature.qualifiedType_onType_eq_self_iff h_dot).2 h_bare
    have h_placeholder : (none : Option String).getD TypeName.defaultPackage ++ "." = "default." :=
      rfl
    rw [h_type, h_placeholder, String.append_assoc]

namespace Nested

def inner : TypeDecl := ⟨"Inner", "Outer.Inner", .classType, none, [], [], [], [], [], 4, 4⟩

/-- A unit that declares `Outer` and in it `Inner`. -/
def unit (package : Option String) : CompilationUnit :=
  ⟨"Outer.java", "", package, [],
    [⟨"Outer", "Outer", .classType, none, [], [], [], [], [inner], 1, 5⟩]⟩

end Nested

/-- In a package the two texts of a method of `Inner` agree; in the default package one of them lacks the
placeholder. -/
theorem nested_texts_by_package :
    (Signature.onType ((ImportTable.ofUnit (Nested.unit (some "a.b"))).inPackage "Outer.Inner")
        "go").text =
      (⟨(ImportTable.ofUnit (Nested.unit (some "a.b"))).packageName, "Outer.Inner", "go", []⟩ :
        Signature).text ∧
    (⟨(ImportTable.ofUnit (Nested.unit none)).packageName, "Outer.Inner", "go", []⟩ :
        Signature).text =
      "default." ++
        (Signature.onType ((ImportTable.ofUnit (Nested.unit none)).inPackage "Outer.Inner")
          "go").text :=
  ⟨(text_onType_inPackage_iff (Nested.unit (some "a.b")) Nested.inner "go").1.2
      ⟨by decide +kernel, by decide⟩,
    (text_onType_inPackage_iff (Nested.unit none) Nested.inner "go").2 rfl (by decide +kernel)
      (by decide +kernel)⟩

/-- A type that is nested in a type of the default package gives a method two texts. -/
theorem nested_default_package_texts_differ :
    ¬ ∀ (u : CompilationUnit), ∀ d ∈ u.allTypes, ∀ method : String,
      (Signature.onType ((ImportTable.ofUnit u).inPackage d.qualifiedName) method).text =
        (⟨(ImportTable.ofUnit u).packageName, d.qualifiedName, method, []⟩ : Signature).text := by
  intro h
  have h_go := h (Nested.unit none) Nested.inner (List.mem_cons_of_mem _ List.mem_cons_self) "go"
  have h_texts : (Signature.onType ((ImportTable.ofUnit (Nested.unit none)).inPackage "Outer.Inner")
      "go").text = "Outer.Inner.go()" ∧
      (⟨(ImportTable.ofUnit (Nested.unit none)).packageName, "Outer.Inner", "go", []⟩ : Signature).text =
        "default.Outer.Inner.go()" := by
    decide +kernel
  rw [show Nested.inner.qualifiedName = "Outer.Inner" from rfl, h_texts.1, h_texts.2] at h_go
  exact absurd h_go (by decide)

end JavaCallGraph
