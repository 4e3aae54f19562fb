import JavaCallGraph.Proofs.DeclaredNames
import JavaCallGraph.Proofs.ImportTable

/-!
# What canonical spacing keeps of a text

Two texts of a type may be laid out differently: with other blanks, with more of them, or with blanks in
other places. Canonical spacing keeps the characters that are no blanks, and which characters of names
are divided from the next one; it forgets everything else. `marks` lists just this much of a text, and
the spaced text is spelled from it.

* `SameLayout` — texts that agree in what is kept.
* `getElem?_marks_iff`, `marks_eq_iff` — the list of marks and what it tells.
* `tidyFrom_eq_spell`, `marks_tidyFrom` — a spaced text is spelled from its marks and has the same marks.
* `tidy_eq_iff` — texts that are spaced alike.
* `spacing_keeps_layout` — their qualified names.
-/

namespace JavaCallGraph.TypeName

open Text (isBlank)

/-! ## Layout -/

def solid (cs : List Char) : List Char := cs.filter (!isBlank ·)

/-- Blanks stand between the character `k` of a text, blanks not counted, and the next one, and both are
characters of names. -/
def DividedAt (cs : List Char) (k : Nat) : Prop :=
  ∃ before c gap d after, cs = before ++ c :: (gap ++ d :: after) ∧ (solid before).length = k ∧
    isNameChar c = true ∧ isNameChar d = true ∧ gap ≠ [] ∧ ∀ b ∈ gap, isBlank b = true

/-- Texts with the same characters but for blanks, and with blanks between the same characters of names. -/
structure SameLayout (raw raw' : String) : Prop where
  chars : solid raw.toList = solid raw'.toList
  divided : ∀ k, DividedAt raw.toList k ↔ DividedAt raw'.toList k

theorem isBlank_of_isNameChar {c : Char} (h : isNameChar c = true) : isBlank c = false := by
  have h_none : ∀ n ∈ Java.dividers, isBlank (Char.ofNat n) = true →
      isNameChar (Char.ofNat n) = false := by decide +kernel
  by_contra h_blank
  rw [Bool.not_eq_false] at h_blank
  have h_char := h_none c.toNat (Java.mem_dividers_of_isBlank h_blank)
  rw [Char.ofNat_toNat, h] at h_char
  exact Bool.noConfusion (h_char h_blank)

section

variable {b c : Char} {cs : List Char} {k : Nat}

theorem solid_cons_blank (h : isBlank b = true) : solid (b :: cs) = solid cs := by
  simp [solid, h]

theorem solid_cons (h : isBlank c = false) : solid (c :: cs) = c :: solid cs := by
  simp [solid, h]

theorem dividedAt_cons_blank (h : isBlank b = true) : DividedAt (b :: cs) k ↔ DividedAt cs k := by
  constructor
  · rintro ⟨before, c, gap, d, after, h_text, h_count, h_c, h_rest⟩
    cases before with
    | nil =>
      -- the blank itself is no character of a name
      rw [List.nil_append, List.cons.injEq] at h_text
      rw [h_text.1, isBlank_of_isNameChar h_c] at h
      cases h
    | cons b' before =>
      rw [List.cons_append, List.cons.injEq] at h_text
      obtain ⟨rfl, rfl⟩ := h_text
      rw [solid_cons_blank h] at h_count
      exact ⟨before, c, gap, d, after, rfl, h_count, h_c, h_rest⟩
  · rintro ⟨before, c, gap, d, after, rfl, h_count, h_rest⟩
    exact ⟨b :: before, c, gap, d, after, rfl, by rw [solid_cons_blank h, h_count], h_rest⟩

theorem dividedAt_cons_succ (h : isBlank c = false) :
    DividedAt (c :: cs) (k + 1) ↔ DividedAt cs k := by
  constructor
  · rintro ⟨before, c', gap, d, after, h_text, h_count, h_rest⟩
    cases before with
    | nil => cases h_count
    | cons c'' before =>
      rw [List.cons_append, List.cons.injEq] at h_text
      obtain ⟨rfl, rfl⟩ := h_text
      rw [solid_cons h, List.length_cons, Nat.add_right_cancel_iff] at h_count
      exact ⟨before, c', gap, d, after, rfl, h_count, h_rest⟩
  · rintro ⟨before, c', gap, d, after, rfl, h_count, h_rest⟩
    exact ⟨c :: before, c', gap, d, after, rfl, by rw [solid_cons h, List.length_cons, h_count], h_rest⟩

end

/-! ## Marks -/

def startsBlank (cs : List Char) : Bool := cs.head?.any isBlank

def startsName (cs : List Char) : Bool := (cs.dropWhile isBlank).head?.any isNameChar

/-- The characters of a text that are no blanks. Those of names that blanks divide from another one are
marked. -/
def marks : List Char → List (Char × Bool)
  | [] => []
  | c :: cs =>
    if isBlank c then marks cs else (c, isNameChar c && startsBlank cs && startsName cs) :: marks cs

/-- A character in canonical spacing, with a space after it if it is marked or a comma. -/
def spellMark (m : Char × Bool) : List Char :=
  m.1 :: ((if m.1 == ',' then [' '] else []) ++ if m.2 then [' '] else [])

section

variable {b c : Char} {cs : List Char}

theorem marks_cons_blank (h : isBlank b = true) : marks (b :: cs) = marks cs := by
  rw [marks, if_pos h]

theorem marks_cons (h : isBlank c = false) :
    marks (c :: cs) = (c, isNameChar c && startsBlank cs && startsName cs) :: marks cs := by
  rw [marks, h, if_neg Bool.false_ne_true]

theorem startsName_cons_blank (h : isBlank b = true) : startsName (b :: cs) = startsName cs := by
  simp [startsName, h]

theorem startsName_cons (h : isBlank c = false) : startsName (c :: cs) = isNameChar c := by
  simp [startsName, h]

theorem map_fst_marks (cs : List Char) : (marks cs).map Prod.fst = solid cs := by
  induction cs with
  | nil => rfl
  | cons c cs ih =>
    cases h_blank : isBlank c with
    | true => rw [marks_cons_blank h_blank, solid_cons_blank h_blank, ih]
    | false => rw [marks_cons h_blank, solid_cons h_blank, List.map_cons, ih]

/-- A text that starts with blanks and goes on with a character of a name. -/
theorem startsBlank_and_startsName_iff :
    (startsBlank cs && startsName cs) = true ↔
      ∃ gap d after, cs = gap ++ d :: after ∧ isNameChar d = true ∧ gap ≠ [] ∧
        ∀ b ∈ gap, isBlank b = true := by
  rw [Bool.and_eq_true]
  constructor
  · rintro ⟨h_blank, h_name⟩
    cases h_rest : cs.dropWhile isBlank with
    | nil => simp [startsName, h_rest] at h_name
    | cons d after =>
      refine ⟨cs.takeWhile isBlank, d, after, ?_, by simpa [startsName, h_rest] using h_name, ?_,
        List.all_eq_true.1 List.all_takeWhile⟩
      · rw [← h_rest, List.takeWhile_append_dropWhile]
      · cases cs with
        | nil => cases h_blank
        | cons b cs => simpa [startsBlank] using h_blank
  · rintro ⟨gap, d, after, rfl, h_d, h_gap, h_blanks⟩
    constructor
    · cases gap with
      | nil => exact absurd rfl h_gap
      | cons b gap => simpa [startsBlank] using h_blanks b List.mem_cons_self
    · rw [startsName, List.dropWhile_append_of_pos h_blanks]
      simpa [isBlank_of_isNameChar h_d] using h_d

theorem dividedAt_cons_zero (h : isBlank c = false) :
    DividedAt (c :: cs) 0 ↔ (isNameChar c && startsBlank cs && startsName cs) = true := by
  rw [Bool.and_assoc, Bool.and_eq_true, startsBlank_and_startsName_iff]
  constructor
  · rintro ⟨before, c', gap, d, after, h_text, h_count, h_c, h_d, h_gap⟩
    cases before with
    | nil =>
      rw [List.nil_append, List.cons.injEq] at h_text
      obtain ⟨rfl, rfl⟩ := h_text
      exact ⟨h_c, gap, d, after, rfl, h_d, h_gap⟩
    | cons c'' before =>
      -- the first character would count
      rw [List.cons_append, List.cons.injEq] at h_text
      rw [← h_text.1, solid_cons h] at h_count
      cases h_count
  · rintro ⟨h_c, gap, d, after, rfl, h_d, h_gap⟩
    exact ⟨[], c, gap, d, after, rfl, rfl, h_c, h_d, h_gap⟩

/-- Marked are the characters at which a text is divided. -/
theorem getElem?_marks_iff {k : Nat} : DividedAt cs k ↔ ∃ c, (marks cs)[k]? = some (c, true) := by
  induction cs generalizing k with
  | nil =>
    constructor
    · rintro ⟨before, c, gap, d, after, h_text, -⟩
      simp at h_text
    · rintro ⟨c, h_mark⟩
      cases h_mark
  | cons c cs ih =>
    cases h_blank : isBlank c with
    | true => rw [dividedAt_cons_blank h_blank, ih, marks_cons_blank h_blank]
    | false =>
      rw [marks_cons h_blank]
      cases k with
      | zero => simp [dividedAt_cons_zero h_blank]
      | succ k => rw [dividedAt_cons_succ h_blank, ih, List.getElem?_cons_succ]

/-- The marks of a text tell its layout and nothing else. -/
theorem marks_eq_iff {cs cs' : List Char} :
    marks cs = marks cs' ↔ solid cs = solid cs' ∧ ∀ k, DividedAt cs k ↔ DividedAt cs' k := by
  constructor
  · intro h
    refine ⟨?_, fun k => ?_⟩
    · rw [← map_fst_marks, ← map_fst_marks, h]
    · rw [getElem?_marks_iff, getElem?_marks_iff, h]
  · rintro ⟨h_chars, h_divided⟩
    refine List.ext_getElem? fun k => ?_
    have h_char : ((marks cs)[k]?).map Prod.fst = ((marks cs')[k]?).map Prod.fst := by
      rw [← List.getElem?_map, ← List.getElem?_map, map_fst_marks, map_fst_marks, h_chars]
    have h_mark := h_divided k
    rw [getElem?_marks_iff, getElem?_marks_iff] at h_mark
    cases h_m : (marks cs)[k]? with
    | none => cases h_m' : (marks cs')[k]? <;> simp_all
    | some m =>
      cases h_m' : (marks cs')[k]? with
      | none => simp_all
      | some m' =>
        obtain ⟨c, marked⟩ := m
        obtain ⟨c', marked'⟩ := m'
        rw [h_m, h_m'] at h_char h_mark
        obtain rfl : c = c' := by simpa using h_char
        have h_same : marked = true ↔ marked' = true := by simpa using h_mark
        rw [Bool.eq_iff_iff.2 h_same]

end

theorem sameLayout_iff {raw raw' : String} :
    SameLayout raw raw' ↔ marks raw.toList = marks raw'.toList :=
  ⟨fun h => marks_eq_iff.2 ⟨h.chars, h.divided⟩, fun h => ⟨(marks_eq_iff.1 h).1, (marks_eq_iff.1 h).2⟩⟩

instance (raw raw' : String) : Decidable (SameLayout raw raw') :=
  decidable_of_iff _ sameLayout_iff.symm

/-! ## Spacing -/

/-- A spaced text is spelled from its marks. What came before matters only for the first character: a
space comes before it if blanks divide it from the last one, and both are characters of names. -/
theorem tidyFrom_eq_spell (last : Option Char) (gap : Bool) (cs : List Char) :
    tidyFrom last gap cs =
      (if last.any isNameChar && (gap || startsBlank cs) && startsName cs then [' '] else []) ++
        (marks cs).flatMap spellMark := by
  induction cs generalizing last gap with
  | nil => simp [tidyFrom, marks, startsName]
  | cons c cs ih =>
    cases h_blank : isBlank c with
    | true =>
      rw [tidyFrom_cons_blank h_blank, ih, marks_cons_blank h_blank, startsName_cons_blank h_blank]
      simp [startsBlank, h_blank]
    | false =>
      rw [tidyFrom_cons h_blank, ih, marks_cons h_blank, startsName_cons h_blank, List.flatMap_cons]
      simp [startsBlank, h_blank, tidyChar, spellMark, Bool.and_comm gap]

theorem startsName_spell (cs : List Char) :
    startsBlank ((marks cs).flatMap spellMark) = false ∧
      startsName ((marks cs).flatMap spellMark) = startsName cs := by
  induction cs with
  | nil => exact ⟨rfl, rfl⟩
  | cons c cs ih =>
    cases h_blank : isBlank c with
    | true => rwa [marks_cons_blank h_blank, startsName_cons_blank h_blank]
    | false =>
      rw [marks_cons h_blank, List.flatMap_cons, spellMark, List.cons_append, startsName_cons h_blank,
        startsName_cons h_blank]
      exact ⟨by simpa [startsBlank] using h_blank, rfl⟩

/-- After a character of a name, a spaced text goes on with a blank and a name if the text did. -/
theorem divides_tidyFrom {c : Char} (h : isNameChar c = true) (cs : List Char) :
    (startsBlank (tidyFrom (some c) false cs) && startsName (tidyFrom (some c) false cs)) =
      (startsBlank cs && startsName cs) := by
  obtain ⟨h_blank, h_name⟩ := startsName_spell cs
  rw [tidyFrom_eq_spell, Option.any_some, h, Bool.true_and, Bool.false_or]
  cases h_divided : startsBlank cs && startsName cs with
  | false => simp [h_blank]
  | true =>
    have h_space : isBlank ' ' = true := by decide
    rw [if_pos rfl, List.singleton_append, startsName_cons_blank h_space, h_name,
      (Bool.and_eq_true_iff.1 h_divided).2]
    rfl

/-- Spacing a text keeps its marks. -/
theorem marks_tidyFrom (last : Option Char) (gap : Bool) (cs : List Char) :
    marks (tidyFrom last gap cs) = marks cs := by
  have h_space : isBlank ' ' = true := by decide
  induction cs generalizing last gap with
  | nil => rfl
  | cons c cs ih =>
    cases h_blank : isBlank c with
    | true => rw [tidyFrom_cons_blank h_blank, ih, marks_cons_blank h_blank]
    | false =>
      -- the space before the character has no mark
      have h_front : marks (tidyFrom last gap (c :: cs)) =
          marks (c :: ((if c == ',' then [' '] else []) ++ tidyFrom (some c) false cs)) := by
        rw [tidyFrom_cons h_blank, tidyChar]
        split
        · rw [List.singleton_append, List.cons_append, marks_cons_blank h_space, List.cons_append]
        · rfl
      rw [h_front, marks_cons h_blank, marks_cons h_blank]
      by_cases h_comma : c = ','
      · subst h_comma
        have h_name : isNameChar ',' = false := by decide
        simp [h_name, marks_cons_blank h_space, ih]
      · simp only [beq_iff_eq, h_comma, if_false, List.nil_append, ih, Bool.and_assoc]
        cases h_name : isNameChar c with
        | false => rfl
        | true => rw [divides_tidyFrom h_name]

/-- Texts are spaced alike exactly if they have the same layout. -/
theorem tidy_eq_iff {raw raw' : String} : tidy raw = tidy raw' ↔ SameLayout raw raw' := by
  rw [sameLayout_iff, tidy, tidy, String.ofList_inj]
  constructor
  · intro h
    rw [← marks_tidyFrom none false raw.toList, h, marks_tidyFrom]
  · intro h
    rw [tidyFrom_eq_spell, tidyFrom_eq_spell, h]
    simp

/-- How a text is laid out does not change its spaced text or the name that it denotes, in whatever unit
it stands: texts with the same layout are spaced alike, and no others are. Spacing a text again changes
nothing. -/
theorem spacing_keeps_layout (raw raw' : String) :
    (SameLayout raw raw' ↔ tidy raw = tidy raw') ∧
    (SameLayout raw raw' → ∀ imports : ImportTable, imports.qualify raw = imports.qualify raw') ∧
    tidy (tidy raw) = tidy raw := by
  refine ⟨tidy_eq_iff.symm, fun h_layout imports => ?_, tidy_tidy raw⟩
  calc imports.qualify raw
      = imports.qualify (tidy raw) := (imports.qualify_tidy raw).symm
    _ = imports.qualify (tidy raw') := by rw [tidy_eq_iff.2 h_layout]
    _ = imports.qualify raw' := imports.qualify_tidy raw'

/-- Blanks of several kinds, in other places and numbers, leave a text the same; one between `?` and
`extends` does not go missing. -/
theorem map_layouts_spaced_alike :
    SameLayout " Map <String ,\tList< ?  extends Number > >" "Map<String,List<?\u00A0extends\nNumber>>" ∧
    tidy " Map <String ,\tList< ?  extends Number > >" = "Map<String, List<? extends Number>>" ∧
    tidy "Map<String,List<?\u00A0extends\nNumber>>" = "Map<String, List<? extends Number>>" ∧
    (∀ imports : ImportTable,
      imports.qualify " Map <String ,\tList< ?  extends Number > >" =
        imports.qualify "Map<String,List<?\u00A0extends\nNumber>>") ∧
    ¬ SameLayout "? extends Number" "?extends Number" := by
  have h_layout : SameLayout " Map <String ,\tList< ?  extends Number > >"
      "Map<String,List<?\u00A0extends\nNumber>>" := by decide +kernel
  have h_spaced : tidy " Map <String ,\tList< ?  extends Number > >" =
      "Map<String, List<? extends Number>>" := by decide +kernel
  obtain ⟨h_alike, h_names, -⟩ := spacing_keeps_layout " Map <String ,\tList< ?  extends Number > >"
    "Map<String,List<?\u00A0extends\nNumber>>"
  exact ⟨h_layout, h_spaced, (h_alike.1 h_layout).symm.trans h_spaced, h_names h_layout, by decide +kernel⟩

end JavaCallGraph.TypeName
