import JavaCallGraph.Proofs.ImportTable

/-!
# Types inside other types

In a dotted name such as `Map.Entry` the first segment is a type, and qualifying the name qualifies that
type. Alone, a name goes to the types that need no import first and to the table of the unit second; in
front of a dot it is the other way round. So the two agree unless the table has another type for one of
the names that need no import.

* `IsSuffix` — generic arguments, brackets or dots of a variable number of arguments, however spaced.
* `tidy_append_of_isSuffix` — spacing a dotted name with a suffix spaces the suffix.
* `qualify_simple`, `qualify_dotted` — the order in which a name is looked up alone and in front of a dot.
* `qualify_outer_type_iff` — when both qualify the outer type alike.
* `imported_record_differs` — an import that counts in front of a dot only.
-/

namespace JavaCallGraph

namespace TypeName

open Text (isBlank)

/-! ## Suffixes -/

/-- A text that follows the name of a type and is not part of it. -/
def IsSuffix (s : String) : Prop := (tidy s).toList = [] ∨ startsSuffix (tidy s).toList = true

instance (s : String) : Decidable (IsSuffix s) := inferInstanceAs (Decidable (_ ∨ _))

/-- A text that does not start like a name is spaced alike after whatever comes before it. -/
theorem tidyFrom_eq_of_head {cs : List Char}
    (h : (tidyFrom none false cs).head?.any isNameChar = false) (last : Option Char) (gap : Bool) :
    tidyFrom last gap cs = tidyFrom none false cs := by
  induction cs generalizing gap with
  | nil => rfl
  | cons c cs ih =>
    cases h_blank : isBlank c with
    | true =>
      have h_gap : tidyFrom none true cs = tidyFrom none false cs :=
        tidyFrom_eq_of_not_isNameChar (by simp) true false cs
      rw [tidyFrom_cons_blank h_blank, h_gap] at h
      rw [tidyFrom_cons_blank h_blank, tidyFrom_cons_blank h_blank, h_gap, ih h]
    | false =>
      have h_name : isNameChar c = false := by
        simpa [tidyFrom_cons h_blank, tidyChar] using h
      simp [tidyFrom_cons h_blank, tidyChar, h_name]

theorem tidy_append_of_isSuffix {name suffix : String} (h_name : IsDotted name)
    (h_suffix : IsSuffix suffix) : tidy (name ++ suffix) = name ++ tidy suffix := by
  have h_spaced : tidyFrom none false name.toList = name.toList := by
    simpa using h_name.spaced_append spaced_nil none
  have h_head : (tidyFrom none false suffix.toList).head?.any isNameChar = false := by
    apply not_isNameChar_suffix
    simpa [IsSuffix, tidy] using h_suffix
  obtain ⟨last, gap, h_append⟩ := tidyFrom_append none false name.toList suffix.toList
  rw [tidy, String.toList_append, h_append, h_spaced, tidyFrom_eq_of_head h_head, String.ofList_append,
    String.ofList_toList, tidy]

/-- A dotted name and a suffix are told apart again. -/
theorem IsDotted.parts_tidy {name suffix : String} (h_name : IsDotted name) (h_suffix : IsSuffix suffix) :
    Parts name (tidy suffix) where
  spaced := by
    have h_again : tidy (name ++ tidy suffix) = name ++ tidy suffix := by
      rw [← tidy_append_of_isSuffix h_name h_suffix, tidy_tidy]
    simpa [tidy] using congrArg String.toList h_again
  noSuffixIn := h_name.noSuffixIn _
  starts := h_suffix
  trimmed := h_name.parts.trimmed

theorem IsDotted.base_eq {name : String} (h_name : IsDotted name) : base name = name := by
  have h_split := h_name.parts.split_append
  rw [String.append_empty] at h_split
  rw [base, h_split]

theorem IsDotted.append {outer rest : String} (h_outer : IsDotted outer) (h_rest : IsDotted rest) :
    IsDotted (outer ++ "." ++ rest) := by
  have h_list : (outer ++ "." ++ rest).toList = outer.toList ++ '.' :: rest.toList := by simp
  intro segment h_mem
  rw [Text.split, h_list, Text.splitChars_append_cons, List.map_append, List.mem_append] at h_mem
  exact h_mem.elim (h_outer segment) (h_rest segment)

end TypeName

namespace ImportTable

open JavaCallGraph.TypeName

/-! ## One name, alone and in front of a dot -/

/-- A simple name is looked up among the types that need no import, then in the table. -/
theorem qualify_simple (t : ImportTable) {name : String} (h_name : IsDotted name)
    (h_dot : '.' ∉ name.toList) :
    t.qualify name = if isKept name then name
      else if isImplicit name then implicitPackage ++ "." ++ name
      else (t.lookup name).getD (t.inPackage name) := by
  have h_parts := t.qualify_append h_name.parts
  rw [String.append_empty, qualifyParts_simple t h_dot] at h_parts
  rw [h_parts]
  cases t.lookup name <;> simp

theorem inPackage_append (t : ImportTable) (name more : String) :
    t.inPackage (name ++ more) = t.inPackage name ++ more := by
  unfold inPackage
  cases t.package <;> simp [String.append_assoc]

/-- In front of a dot a name is looked up in the table, then among the types that need no import. -/
theorem qualify_dotted (t : ImportTable) {outer rest suffix : String} (h_outer : IsDotted outer)
    (h_dot : '.' ∉ outer.toList) (h_upper : startsUppercase outer = true) (h_rest : IsDotted rest)
    (h_own : t.inOwnPackage (outer ++ "." ++ rest) = false) (h_suffix : IsSuffix suffix) :
    t.qualify (outer ++ "." ++ rest ++ suffix) =
      (t.lookup outer).getD (if isImplicit outer then implicitPackage ++ "." ++ outer
        else t.inPackage outer) ++ ("." ++ rest ++ tidy suffix) := by
  have h_name : IsDotted (outer ++ "." ++ rest) := h_outer.append h_rest
  have h_text : outer ++ "." ++ rest ++ tidy suffix = outer ++ ("." ++ rest ++ tidy suffix) := by
    simp [String.append_assoc]
  rw [← qualify_tidy, tidy_append_of_isSuffix h_name h_suffix,
    t.qualify_append (h_name.parts_tidy h_suffix), qualifyParts_dotted t h_dot, h_own, h_upper]
  cases t.lookup outer with
  | some found => simp [String.append_assoc]
  | none =>
    -- what follows the outer type is kept as it is
    simp only [Bool.not_true, Bool.or_self, Bool.false_eq_true, if_false, Option.getD_none]
    rw [h_text, inPackage_append]
    split <;> simp [String.append_assoc]

/-- A name in front of a dot is qualified as it is alone exactly if it does not both need no import and
stand for another type in the table. A type of the table is always the one in front of a dot; alone it
counts unless the name needs no import. -/
theorem qualify_outer_type_iff (t : ImportTable) {outer rest suffix : String} (h_outer : IsDotted outer)
    (h_dot : '.' ∉ outer.toList) (h_upper : startsUppercase outer = true) (h_rest : IsDotted rest)
    (h_own : t.inOwnPackage (outer ++ "." ++ rest) = false) (h_suffix : IsSuffix suffix) :
    (t.qualify (outer ++ "." ++ rest ++ suffix) = t.qualify outer ++ "." ++ rest ++ tidy suffix ↔
      (isImplicit outer = true → ∀ found, t.lookup outer = some found →
        found = implicitPackage ++ "." ++ outer)) ∧
    ∀ found, t.lookup outer = some found →
      t.qualify (outer ++ "." ++ rest ++ suffix) = found ++ "." ++ rest ++ tidy suffix ∧
      (t.qualify outer = found ↔
        (isImplicit outer = true → found = implicitPackage ++ "." ++ outer)) := by
  have h_kept : isKept outer = false := by
    by_contra h_kept
    rw [startsUppercase_of_isKept (by simpa using h_kept)] at h_upper
    cases h_upper
  have h_alone := t.qualify_simple h_outer h_dot
  rw [h_kept, if_neg Bool.false_ne_true] at h_alone
  have h_front := t.qualify_dotted h_outer h_dot h_upper h_rest h_own h_suffix
  have h_assoc : ∀ s : String, s ++ "." ++ rest ++ tidy suffix = s ++ ("." ++ rest ++ tidy suffix) :=
    fun s => by simp [String.append_assoc]
  rw [h_front, h_alone, h_assoc, String.append_left_inj]
  refine ⟨?_, ?_⟩
  · cases t.lookup outer <;> cases isImplicit outer <;> simp
  · intro found h_found
    rw [h_found, h_assoc]
    refine ⟨rfl, ?_⟩
    cases isImplicit outer <;> simp [eq_comm]

/-- The table of a unit in `a` that imports a map and a record. -/
def records : ImportTable := (ofPackage (some "a")).addType "java.util.Map" |>.addType "x.Record"

/-- An entry of the imported map is an entry of what `Map` alone stands for. -/
theorem qualify_outer_map :
    records.qualify "Map.Entry<K ,V> [ ]" = records.qualify "Map" ++ "." ++ "Entry" ++ "<K, V>[]" ∧
    records.qualify "Map" = "java.util.Map" := by
  have h_tidy : tidy "<K ,V> [ ]" = "<K, V>[]" := by decide +kernel
  have h_table : records.lookup "Map" = some "java.util.Map" := by decide +kernel
  have h_other : isImplicit "Map" = false := by decide +kernel
  have h_outer := @qualify_outer_type_iff records "Map" "Entry" "<K ,V> [ ]" (by decide +kernel)
    (by decide +kernel) (by decide +kernel) (by decide +kernel) (by decide +kernel) (by decide +kernel)
  rw [h_tidy, h_other] at h_outer
  exact ⟨h_outer.1.2 (by simp), (h_outer.2 _ h_table).2.2 (by simp)⟩

/-- The name `Record` needs no import, so an import of another record counts in front of a dot only. -/
theorem imported_record_differs :
    ¬ ∀ (t : ImportTable) (outer rest suffix : String), IsDotted outer → '.' ∉ outer.toList →
      startsUppercase outer = true → IsDotted rest → t.inOwnPackage (outer ++ "." ++ rest) = false →
      IsSuffix suffix →
      t.qualify (outer ++ "." ++ rest ++ suffix) = t.qualify outer ++ "." ++ rest ++ tidy suffix := by
  intro h
  have h_part := h records "Record" "Part" "" (by decide +kernel) (by decide +kernel)
    (by decide +kernel) (by decide +kernel) (by decide +kernel) (by decide +kernel)
  have h_texts : records.qualify "Record.Part" = "x.Record.Part" ∧
      records.qualify "Record" ++ "." ++ "Part" ++ tidy "" = "java.lang.Record.Part" := by
    decide +kernel
  rw [h_texts.2] at h_part
  exact absurd (h_texts.1.symm.trans h_part) (by decide)

end ImportTable

end JavaCallGraph
