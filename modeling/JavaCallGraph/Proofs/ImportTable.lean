import JavaCallGraph.ImportTable
import JavaCallGraph.Proofs.KeyMap
import JavaCallGraph.Proofs.TypeName

/-!
# Qualified names are fixed

Qualifying the text of a type puts a package before it, or replaces the first type of its name, or
leaves it alone. Each of these is left alone when it is qualified again.

* `qualifyParts_cases` — what qualifying does to a text.
* `qualifyParts_under`, `qualifyParts_replace` — a text with its package, and one whose first type was
  looked up, are left alone.
* `qualify_qualify` — qualifying twice is qualifying once.
-/

namespace JavaCallGraph.ImportTable

open JavaCallGraph.TypeName

/-- What follows the first type of a name: nothing, or more types behind a dot. -/
def Continues (more : String) : Prop := more = "" ∨ ∃ rest, more = "." ++ rest

/-- A package whose types are known without an import. -/
def IsHome (t : ImportTable) (package : String) : Prop :=
  package = implicitPackage ∨ t.package = some package

/-! ## What qualifying does -/

theorem qualify_tidy (t : ImportTable) (raw : String) : t.qualify (tidy raw) = t.qualify raw := by
  simp only [qualify, tidy_tidy]

theorem qualify_append (t : ImportTable) {name suffix : String} (h : Parts name suffix) :
    t.qualify (name ++ suffix) = t.qualifyParts (name ++ suffix) name suffix := by
  simp only [qualify, h.tidy_append, h.split_append]

theorem inPackage_cases (t : ImportTable) (s : String) :
    (t.package = none ∧ t.inPackage s = s) ∨
      ∃ package, t.package = some package ∧ t.inPackage s = package ++ "." ++ s := by
  unfold inPackage
  cases t.package with
  | none => exact .inl ⟨rfl, rfl⟩
  | some package => exact .inr ⟨package, rfl, rfl⟩

theorem exists_cons_of_startsUppercase {s : String} (h : startsUppercase s = true) :
    ∃ c cs, s.toList = c :: cs := by
  cases h_list : s.toList with
  | nil => simp [startsUppercase, h_list] at h
  | cons c cs => exact ⟨c, cs, rfl⟩

theorem startsUppercase_append {s : String} (h : startsUppercase s = true) (more : String) :
    startsUppercase (s ++ more) = true := by
  obtain ⟨c, cs, h_list⟩ := exists_cons_of_startsUppercase h
  simpa [startsUppercase, h_list] using h

/-- A text is left alone, or a package comes before it, or the first type of its name is replaced by
what the table has for it. -/
theorem qualifyParts_cases (t : ImportTable) (tidied name suffix : String) :
    t.qualifyParts tidied name suffix = tidied ∨
      (name ≠ "" ∧ name.toList.head? ≠ some '.' ∧ ∃ package, t.IsHome package ∧
        t.qualifyParts tidied name suffix = package ++ "." ++ tidied) ∨
      ∃ outer more found, name = outer ++ more ∧ Continues more ∧ t.lookup outer = some found ∧
        t.qualifyParts tidied name suffix = found ++ more ++ suffix := by
  unfold qualifyParts
  split
  · exact .inl rfl
  · rename_i h_kept
    have h_ne : name ≠ "" := by
      rintro rfl
      exact h_kept (by decide)
    have h_own : t.inPackage tidied = tidied ∨
        ∃ package, t.IsHome package ∧ t.inPackage tidied = package ++ "." ++ tidied := by
      rcases t.inPackage_cases tidied with ⟨-, h⟩ | ⟨package, h_package, h⟩
      · exact .inl h
      · exact .inr ⟨package, .inr h_package, h⟩
    cases h_cut : Text.cutFirst '.' name with
    | none =>
      have h_head : name.toList.head? ≠ some '.' :=
        fun h => Text.cutFirst_eq_none_iff.1 h_cut (List.mem_of_head? h)
      simp only
      split
      · exact .inr (.inl ⟨h_ne, h_head, _, .inl rfl, rfl⟩)
      · cases h_found : t.lookup name with
        | some found =>
          exact .inr (.inr ⟨name, "", found, by simp, .inl rfl, h_found, by simp⟩)
        | none => exact h_own.imp id fun h => .inl ⟨h_ne, h_head, h⟩
    | some cut =>
      obtain ⟨outer, rest⟩ := cut
      obtain ⟨h_name, h_outer⟩ := Text.cutFirst_eq_some_iff.1 h_cut
      simp only
      split
      · exact .inl rfl
      · rename_i h_type
        have h_head : name.toList.head? ≠ some '.' := by
          simp only [Bool.or_eq_true, not_or, Bool.not_eq_true, Bool.not_eq_false'] at h_type
          obtain ⟨c, cs, h_list⟩ := exists_cons_of_startsUppercase h_type.2
          rw [h_list] at h_name h_outer
          rintro h_dot
          simp_all
        cases h_found : t.lookup outer with
        | some found =>
          refine .inr (.inr ⟨outer, "." ++ rest, found, ?_, .inr ⟨rest, rfl⟩, h_found, ?_⟩)
          · exact String.toList_injective (by simp [h_name])
          · simp [String.append_assoc]
        | none =>
          simp only
          split
          · exact .inr (.inl ⟨h_ne, h_head, _, .inl rfl, rfl⟩)
          · exact h_own.imp id fun h => .inl ⟨h_ne, h_head, h⟩

/-! ## What qualifying leaves alone -/

theorem startsWith_append (s more : String) : Text.startsWith s (s ++ more) = true :=
  Text.startsWith_iff.2 ⟨more.toList, by simp⟩

/-- A text that starts with a package whose types are known is left alone. -/
theorem qualifyParts_under (t : ImportTable) {package : String} (h : t.IsHome package)
    (name suffix : String) :
    t.qualifyParts (package ++ "." ++ name ++ suffix) (package ++ "." ++ name) suffix =
      package ++ "." ++ name ++ suffix := by
  unfold qualifyParts
  split
  · rfl
  · rcases h with rfl | h_package
    · have h_cut : Text.cutFirst '.' (implicitPackage ++ "." ++ name) =
          some ("java", "lang." ++ name) :=
        Text.cutFirst_eq_some_iff.2 ⟨by simp [implicitPackage], by decide⟩
      have h_lower : startsUppercase "java" = false := by decide +kernel
      simp [h_cut, h_lower]
    · have h_own : t.inOwnPackage (package ++ "." ++ name) = true := by
        simp [inOwnPackage, h_package, startsWith_append]
      cases h_cut : Text.cutFirst '.' (package ++ "." ++ name) with
      | none => exact absurd (by simp) (Text.cutFirst_eq_none_iff.1 h_cut)
      | some cut => simp [h_own]

theorem inPackage_eq_self_iff {t : ImportTable} {s : String} :
    t.inPackage s = s ↔ t.package = none := by
  rcases t.inPackage_cases s with ⟨h_none, h⟩ | ⟨package, h_package, h⟩
  · simp [h_none, h]
  · simp [h_package, h]

theorem inOwnPackage_append {t : ImportTable} {name : String} (h : t.inOwnPackage name = true)
    (more : String) : t.inOwnPackage (name ++ more) = true := by
  unfold inOwnPackage at h ⊢
  cases h_package : t.package with
  | none => simp [h_package] at h
  | some package =>
    simp only [h_package, Option.any_some, Text.startsWith_iff] at h ⊢
    exact h.trans ⟨more.toList, by simp⟩

/-- A name that is left alone whatever the table: none at all, a wildcard or a primitive. -/
def isKept (name : String) : Bool := name.isEmpty || Text.startsWith "?" name || isPrimitive name

theorem startsUppercase_of_isKept {name : String} (h : isKept name = true) :
    startsUppercase name = false := by
  simp only [isKept, Bool.or_eq_true] at h
  rcases h with (h_empty | h_wildcard) | h_primitive
  · rw [String.isEmpty_iff.1 h_empty]
    rfl
  · obtain ⟨rest, h_rest⟩ := Text.startsWith_iff.1 h_wildcard
    have h_mark : Text.isUppercase '?' = false := by decide +kernel
    simp [startsUppercase, ← h_rest, h_mark]
  · have h_all : ∀ p ∈ primitives, startsUppercase p = false := by decide +kernel
    exact h_all name (List.contains_iff_mem.1 h_primitive)

theorem qualifyParts_simple (t : ImportTable) {name : String} (h : '.' ∉ name.toList)
    (tidied suffix : String) :
    t.qualifyParts tidied name suffix =
      if isKept name then tidied
      else if isImplicit name then implicitPackage ++ "." ++ tidied
      else match t.lookup name with
        | some found => found ++ suffix
        | none => t.inPackage tidied := by
  rw [qualifyParts, Text.cutFirst_eq_none_iff.2 h]
  rfl

theorem qualifyParts_dotted (t : ImportTable) {outer : String} (h : '.' ∉ outer.toList)
    (rest tidied suffix : String) :
    t.qualifyParts tidied (outer ++ "." ++ rest) suffix =
      if t.inOwnPackage (outer ++ "." ++ rest) || !startsUppercase outer then tidied
      else match t.lookup outer with
        | some found => found ++ "." ++ rest ++ suffix
        | none => if isImplicit outer then implicitPackage ++ "." ++ tidied else t.inPackage tidied := by
  have h_cut : Text.cutFirst '.' (outer ++ "." ++ rest) = some (outer, rest) :=
    Text.cutFirst_eq_some_iff.2 ⟨by simp, h⟩
  rw [qualifyParts, h_cut]
  split
  · -- a wildcard or primitive does not start with a type
    rename_i h_kept
    have h_lower : startsUppercase outer = false := by
      by_contra h_upper
      rw [Bool.not_eq_false] at h_upper
      have h_name := startsUppercase_append h_upper ("." ++ rest)
      rw [← String.append_assoc, startsUppercase_of_isKept h_kept] at h_name
      cases h_name
    simp [h_lower]
  · rfl

/-- A dotted name that is left alone stays so with more behind it. -/
theorem qualifyParts_replace_dotted (t : ImportTable) {outer : String} (h : '.' ∉ outer.toList)
    {rest : String}
    (h_fixed : t.qualifyParts (outer ++ "." ++ rest) (outer ++ "." ++ rest) "" = outer ++ "." ++ rest)
    (more suffix : String) :
    t.qualifyParts (outer ++ "." ++ (rest ++ more) ++ suffix) (outer ++ "." ++ (rest ++ more)) suffix =
      outer ++ "." ++ (rest ++ more) ++ suffix := by
  rw [qualifyParts_dotted t h] at h_fixed ⊢
  split
  · rfl
  · rename_i h_type
    have h_found : ¬(t.inOwnPackage (outer ++ "." ++ rest) || !startsUppercase outer) = true := by
      intro h_kept
      rw [Bool.or_eq_true] at h_kept h_type
      refine h_type (h_kept.imp (fun h_own => ?_) id)
      rw [← String.append_assoc]
      exact inOwnPackage_append h_own more
    rw [if_neg h_found] at h_fixed
    cases h_lookup : t.lookup outer with
    | some found =>
      simp only [h_lookup] at h_fixed ⊢
      rw [String.append_empty, String.append_left_inj, String.append_left_inj] at h_fixed
      rw [h_fixed]
    | none =>
      simp only [h_lookup] at h_fixed ⊢
      split at h_fixed
      · exact absurd h_fixed (by simp)
      · rename_i h_implicit
        rw [if_neg h_implicit]
        exact inPackage_eq_self_iff.2 (inPackage_eq_self_iff.1 h_fixed)

/-- A simple name that is left alone stays so with a suffix or with more types behind it. -/
theorem qualifyParts_replace_simple (t : ImportTable) {name : String} (h : '.' ∉ name.toList)
    (h_fixed : t.qualifyParts name name "" = name) {more : String} (h_more : Continues more)
    (suffix : String) :
    t.qualifyParts (name ++ more ++ suffix) (name ++ more) suffix = name ++ more ++ suffix := by
  rw [qualifyParts_simple t h] at h_fixed
  split at h_fixed
  · rename_i h_kept
    rcases h_more with rfl | ⟨rest, rfl⟩
    · rw [String.append_empty, qualifyParts_simple t h, if_pos h_kept]
    · rw [← String.append_assoc, qualifyParts_dotted t h]
      simp [startsUppercase_of_isKept h_kept]
  · rename_i h_kept
    split at h_fixed
    · exact absurd h_fixed (by simp)
    · rename_i h_implicit
      cases h_lookup : t.lookup name with
      | some found =>
        rw [h_lookup] at h_fixed
        simp only [String.append_empty] at h_fixed
        subst h_fixed
        rcases h_more with rfl | ⟨rest, rfl⟩
        · rw [String.append_empty, qualifyParts_simple t h, if_neg h_kept, if_neg h_implicit, h_lookup]
        · rw [← String.append_assoc, qualifyParts_dotted t h, h_lookup]
          simp
      | none =>
        simp only [h_lookup] at h_fixed
        have h_package := inPackage_eq_self_iff.1 h_fixed
        rcases h_more with rfl | ⟨rest, rfl⟩
        · rw [String.append_empty, qualifyParts_simple t h, if_neg h_kept, if_neg h_implicit, h_lookup]
          exact inPackage_eq_self_iff.2 h_package
        · rw [← String.append_assoc, qualifyParts_dotted t h, h_lookup]
          simp [h_implicit, inPackage_eq_self_iff.2 h_package]

/-- What a look-up found, with what followed the type that was looked up, is left alone if the found
name is. -/
theorem qualifyParts_replace (t : ImportTable) {found more : String}
    (h_fixed : t.qualifyParts found found "" = found) (h_more : Continues more) (suffix : String) :
    t.qualifyParts (found ++ more ++ suffix) (found ++ more) suffix = found ++ more ++ suffix := by
  cases h_cut : Text.cutFirst '.' found with
  | none => exact t.qualifyParts_replace_simple (Text.cutFirst_eq_none_iff.1 h_cut) h_fixed h_more suffix
  | some cut =>
    obtain ⟨outer, rest⟩ := cut
    obtain ⟨h_found, h_outer⟩ := Text.cutFirst_eq_some_iff.1 h_cut
    obtain rfl : found = outer ++ "." ++ rest := String.toList_injective (by simp [h_found])
    have h_assoc : outer ++ "." ++ rest ++ more = outer ++ "." ++ (rest ++ more) := String.append_assoc
    rw [h_assoc]
    exact t.qualifyParts_replace_dotted h_outer h_fixed more suffix

/-! ## Qualifying twice -/

/-- Qualifying is a projection: in a table whose package and names are dotted and whose names stand for
themselves, the qualified name of a type is its own qualified name. -/
theorem qualify_qualify (t : ImportTable) (h_package : ∀ package ∈ t.package, IsDotted package)
    (h_types : ∀ simple found, t.lookup simple = some found →
      IsDotted found ∧ t.qualify found = found)
    (raw : String) (h_raw : ',' ∉ (splitChars raw.toList).1) :
    t.qualify (t.qualify raw) = t.qualify raw := by
  obtain ⟨name, suffix, h_tidy, h_parts⟩ := exists_parts_tidy h_raw
  have h_qualify : t.qualify raw = t.qualifyParts (name ++ suffix) name suffix := by
    rw [← qualify_tidy, h_tidy, t.qualify_append h_parts]
  rw [h_qualify]
  rcases t.qualifyParts_cases (name ++ suffix) name suffix with
    h_kept | ⟨h_ne, h_head, package, h_home, h_under⟩ |
      ⟨outer, more, found, rfl, h_more, h_lookup, h_found⟩
  · rw [h_kept, t.qualify_append h_parts, h_kept]
  · -- the package is found again at the beginning of the name
    have h_dotted : IsDotted package := by
      rcases h_home with rfl | h_own
      · decide
      · exact h_package package h_own
    have h_new := h_parts.under h_ne h_head h_dotted
    rw [h_under, ← String.append_assoc, t.qualify_append h_new, t.qualifyParts_under h_home]
  · -- the name that was found stands for itself, whatever follows it
    obtain ⟨h_dotted, h_fixed⟩ := h_types outer found h_lookup
    have h_bare : Parts found "" := h_dotted.parts
    have h_new := h_parts.replace h_more h_dotted
    rw [h_found, t.qualify_append h_new]
    refine t.qualifyParts_replace ?_ h_more suffix
    have h_self := t.qualify_append h_bare
    rw [String.append_empty] at h_self
    rw [← h_self, h_fixed]

/-- The table of a unit in `a.b` that imports a list and a map. -/
def collections : ImportTable :=
  (ofPackage (some "a.b")).addType "java.util.List" |>.addType "java.util.Map"

/-- A nested type of an imported map keeps its arguments, spaced, when it is qualified once or twice. -/
theorem qualify_qualify_map_entry :
    collections.qualify "Map . Entry <String ,List<Integer>> [ ]" =
      "java.util.Map.Entry<String, List<Integer>>[]" ∧
    collections.qualify (collections.qualify "Map . Entry <String ,List<Integer>> [ ]") =
      "java.util.Map.Entry<String, List<Integer>>[]" := by
  have h_once : collections.qualify "Map . Entry <String ,List<Integer>> [ ]" =
      "java.util.Map.Entry<String, List<Integer>>[]" := by decide +kernel
  have h_types : ∀ entry ∈ collections.types.toList,
      IsDotted entry.2 ∧ collections.qualify entry.2 = entry.2 := by decide +kernel
  refine ⟨h_once, ?_⟩
  rw [qualify_qualify collections (by decide +kernel) (fun simple found h_lookup => h_types
    (simple, found) (KeyMap.mem_toList_iff.2 h_lookup)) _ (by decide +kernel), h_once]

end JavaCallGraph.ImportTable
