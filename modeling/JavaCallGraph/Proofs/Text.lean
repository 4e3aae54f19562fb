import JavaCallGraph.Text.Blank
import JavaCallGraph.Text.Cut
import Mathlib.Data.List.Basic
import Mathlib.Data.List.TakeWhile

/-!
# Laws of cutting and trimming texts

Cutting a text puts its pieces back together in one way only, and trimming leaves a text alone exactly
if no blank stands at its ends. Statements are about lists of characters; strings are taken apart with
`String.toList`.

* `cutFirstChars_eq_some_iff`, `cutLastChars_append_cons` — the pieces of a cut.
* `splitChars_append_cons` — the pieces around a cut.
* `split_intercalate`, `intercalate_split` — pieces that were joined are found again, and the other way.
* `getLast?_split`, `cutLast_of_mem` — the last piece and the others.
* `startsWith_iff`, `endsWith_iff` — a beginning is a prefix, an ending a suffix.
* `trim_eq_self_iff`, `trim_of_blanks` — what trimming leaves alone, and what it takes away.
-/

namespace JavaCallGraph.Text

/-! ## Cutting -/

theorem has_iff {c : Char} {s : String} : has c s = true ↔ c ∈ s.toList := by
  simp [has]

theorem cutFirstChars_eq_none_iff {c : Char} {cs : List Char} :
    cutFirstChars c cs = none ↔ c ∉ cs := by
  induction cs with
  | nil => simp [cutFirstChars]
  | cons d ds ih =>
    by_cases h : d = c
    · simp [cutFirstChars, h]
    · simp [cutFirstChars, h, ih, eq_comm (a := c)]

/-- The first cut is where no such character stands before it. -/
theorem cutFirstChars_eq_some_iff {c : Char} {cs before after : List Char} :
    cutFirstChars c cs = some (before, after) ↔ cs = before ++ c :: after ∧ c ∉ before := by
  induction cs generalizing before with
  | nil => simp [cutFirstChars]
  | cons d ds ih =>
    by_cases h : d = c
    · subst h
      cases before with
      | nil => simp [cutFirstChars]
      | cons b before =>
        simp only [cutFirstChars, beq_self_eq_true, if_true, Option.some.injEq, Prod.mk.injEq,
          List.nil_eq, List.cons_append, List.cons.injEq, List.mem_cons, not_or]
        constructor
        · rintro ⟨h_nil, -⟩
          cases h_nil
        · rintro ⟨⟨h_eq, -⟩, h_ne, -⟩
          exact absurd h_eq h_ne
    · cases before with
      | nil => simp [cutFirstChars, h]
      | cons b before =>
        simp only [cutFirstChars, beq_iff_eq, h, if_false, Option.map_eq_some_iff, Prod.exists,
          Prod.mk.injEq, List.cons.injEq, List.cons_append, List.mem_cons, not_or]
        constructor
        · rintro ⟨x, y, hxy, ⟨rfl, rfl⟩, rfl⟩
          obtain ⟨rfl, h_new⟩ := ih.1 hxy
          exact ⟨⟨rfl, rfl⟩, fun heq => h heq.symm, h_new⟩
        · rintro ⟨⟨rfl, rfl⟩, -, h_new⟩
          exact ⟨before, after, ih.2 ⟨rfl, h_new⟩, ⟨rfl, rfl⟩, rfl⟩

theorem cutFirst_eq_none_iff {c : Char} {s : String} : cutFirst c s = none ↔ c ∉ s.toList := by
  rw [cutFirst, Option.map_eq_none_iff, cutFirstChars_eq_none_iff]

theorem cutFirst_eq_some_iff {c : Char} {s before after : String} :
    cutFirst c s = some (before, after) ↔
      s.toList = before.toList ++ c :: after.toList ∧ c ∉ before.toList := by
  rw [cutFirst, Option.map_eq_some_iff]
  constructor
  · rintro ⟨⟨b, a⟩, h_cut, h_eq⟩
    cases h_eq
    simpa using cutFirstChars_eq_some_iff.1 h_cut
  · intro h
    exact ⟨(before.toList, after.toList), cutFirstChars_eq_some_iff.2 h, by simp⟩

/-- What stands before the first cut; all of it if there is none. -/
theorem fst_cutFirst_getD (c : Char) (s : String) :
    ((cutFirst c s).map Prod.fst).getD s = String.ofList (s.toList.takeWhile (· != c)) := by
  cases h_cut : cutFirst c s with
  | none =>
    have h_all : s.toList.takeWhile (· != c) = s.toList := by
      rw [List.takeWhile_eq_self_iff]
      intro d h_d
      simpa using fun h_eq : d = c => cutFirst_eq_none_iff.1 h_cut (h_eq ▸ h_d)
    rw [h_all, String.ofList_toList]
    rfl
  | some cut =>
    obtain ⟨before, after⟩ := cut
    obtain ⟨h_eq, h_before⟩ := cutFirst_eq_some_iff.1 h_cut
    have h_front : ∀ d ∈ before.toList, (d != c) = true := by
      intro d h_d
      simpa using fun h_eq : d = c => h_before (h_eq ▸ h_d)
    rw [h_eq, List.takeWhile_append_of_pos h_front]
    simp

/-- What stands before the first cut does not depend on what stands after it. -/
theorem takeWhile_append_cons (c : Char) (cs more : List Char) :
    (cs ++ c :: more).takeWhile (· != c) = cs.takeWhile (· != c) := by
  induction cs with
  | nil => simp
  | cons d ds ih => by_cases h : d = c <;> simp [h, ih]

theorem takeWhile_append_of_mem {c : Char} {cs : List Char} (h : c ∈ cs) (more : List Char) :
    (cs ++ more).takeWhile (· != c) = cs.takeWhile (· != c) := by
  obtain ⟨before, after, rfl⟩ := List.append_of_mem h
  rw [List.append_assoc, List.cons_append, takeWhile_append_cons, takeWhile_append_cons]

theorem cutLastChars_eq_none_iff {c : Char} {cs : List Char} :
    cutLastChars c cs = none ↔ c ∉ cs := by
  induction cs with
  | nil => simp [cutLastChars]
  | cons d ds ih =>
    rw [cutLastChars]
    cases h_cut : cutLastChars c ds with
    | some cut =>
      have h_mem : c ∈ ds := by
        by_contra h
        simp [ih.2 h] at h_cut
      simp [h_mem]
    | none =>
      by_cases h : d = c
      · simp [h]
      · simp [h, ih.1 h_cut, eq_comm (a := c)]

theorem cutLastChars_eq_some {c : Char} {cs before after : List Char}
    (h : cutLastChars c cs = some (before, after)) : cs = before ++ c :: after := by
  induction cs generalizing before with
  | nil => cases h
  | cons d ds ih =>
    rw [cutLastChars] at h
    cases h_cut : cutLastChars c ds with
    | some cut =>
      simp only [h_cut, Option.some.injEq, Prod.mk.injEq] at h
      obtain ⟨rfl, rfl⟩ := h
      rw [ih h_cut]
      rfl
    | none =>
      by_cases h_eq : d = c
      · simp only [h_cut, h_eq, beq_self_eq_true, if_true, Option.some.injEq, Prod.mk.injEq] at h
        obtain ⟨rfl, rfl⟩ := h
        rw [h_eq]
        rfl
      · simp [h_cut, h_eq] at h

theorem cutLastChars_append_cons {c : Char} {before after : List Char} (h : c ∉ after) :
    cutLastChars c (before ++ c :: after) = some (before, after) := by
  induction before with
  | nil => simp [cutLastChars, cutLastChars_eq_none_iff.2 h]
  | cons d ds ih => simp [cutLastChars, ih]

theorem cutLast_append_cons {c : Char} {s before after : String}
    (h : s.toList = before.toList ++ c :: after.toList) (h_after : c ∉ after.toList) :
    cutLast c s = some (before, after) := by
  simp [cutLast, h, cutLastChars_append_cons h_after]

theorem cutLast_eq_some {c : Char} {s before after : String} (h : cutLast c s = some (before, after)) :
    s.toList = before.toList ++ c :: after.toList := by
  obtain ⟨⟨b, a⟩, h_cut, h_eq⟩ := Option.map_eq_some_iff.1 h
  cases h_eq
  simpa using cutLastChars_eq_some h_cut

theorem afterLast_append_cons {c : Char} {s before after : String}
    (h : s.toList = before.toList ++ c :: after.toList) (h_after : c ∉ after.toList) :
    afterLast c s = after := by
  rw [afterLast, cutLast_append_cons h h_after]

theorem afterLast_of_notMem {c : Char} {s : String} (h : c ∉ s.toList) : afterLast c s = s := by
  simp [afterLast, cutLast, cutLastChars_eq_none_iff.2 h]

theorem exists_append_afterLast (c : Char) (s : String) : ∃ front, s = front ++ afterLast c s := by
  unfold afterLast
  split
  · rename_i before after h_cut
    refine ⟨before ++ String.singleton c, ?_⟩
    rw [← String.toList_inj, cutLast_eq_some h_cut]
    simp
  · exact ⟨"", String.empty_append.symm⟩

/-! ## Pieces -/

theorem exists_splitChars_eq_cons (c : Char) (cs : List Char) :
    ∃ first others, splitChars c cs = first :: others := by
  cases cs with
  | nil => exact ⟨[], [], rfl⟩
  | cons d ds =>
    rw [splitChars]
    split
    · exact ⟨[d], [], rfl⟩
    · split
      · exact ⟨[], _, rfl⟩
      · exact ⟨_, _, rfl⟩

/-- If the first piece is not empty, the text starts with a character of it. -/
theorem exists_cons_of_splitChars {c : Char} {cs first : List Char} {others : List (List Char)}
    (h : splitChars c cs = first :: others) (h_first : first ≠ []) : ∃ d ds, cs = d :: ds ∧ d ≠ c := by
  cases cs with
  | nil => simp_all [splitChars]
  | cons d ds =>
    refine ⟨d, ds, rfl, ?_⟩
    rintro rfl
    obtain ⟨first', others', h_ds⟩ := exists_splitChars_eq_cons d ds
    simp_all [splitChars]

/-- Every other character stands in a piece. -/
theorem mem_splitChars {c d : Char} {cs : List Char} (h : d ∈ cs) :
    d = c ∨ ∃ piece ∈ splitChars c cs, d ∈ piece := by
  induction cs with
  | nil => cases h
  | cons e es ih =>
    obtain ⟨first, others, h_split⟩ := exists_splitChars_eq_cons c es
    simp only [h_split, List.mem_cons, exists_eq_or_imp] at ih
    rw [splitChars, h_split]
    by_cases h_eq : e = c
    · rcases List.mem_cons.1 h with rfl | h_later
      · exact .inl h_eq
      · simpa [h_eq] using ih h_later
    · rcases List.mem_cons.1 h with rfl | h_later
      · simp [h_eq]
      · rcases ih h_later with h_c | h_first | h_others
        · exact .inl h_c
        · simp [h_eq, h_first]
        · exact .inr (by simpa [h_eq] using .inr h_others)

theorem splitChars_of_notMem {c : Char} {cs : List Char} (h : c ∉ cs) : splitChars c cs = [cs] := by
  induction cs with
  | nil => rfl
  | cons d ds ih =>
    obtain ⟨h_d, h_ds⟩ := List.ne_and_not_mem_of_not_mem_cons h
    simp [splitChars, ih h_ds, Ne.symm h_d]

/-- The pieces before a cut and those after it. -/
theorem splitChars_append_cons (c : Char) (before after : List Char) :
    splitChars c (before ++ c :: after) = splitChars c before ++ splitChars c after := by
  induction before with
  | nil =>
    obtain ⟨first, others, h_after⟩ := exists_splitChars_eq_cons c after
    simp [splitChars, h_after]
  | cons d ds ih =>
    obtain ⟨first, others, h_ds⟩ := exists_splitChars_eq_cons c ds
    rw [List.cons_append, splitChars, ih, splitChars, h_ds]
    by_cases h : d = c <;> simp [h]

/-! ## Joined pieces -/

theorem splitChars_intercalate {c : Char} {pieces : List (List Char)} (h_ne : pieces ≠ [])
    (h : ∀ piece ∈ pieces, c ∉ piece) : splitChars c ([c].intercalate pieces) = pieces := by
  induction pieces with
  | nil => exact absurd rfl h_ne
  | cons piece pieces ih =>
    obtain ⟨h_piece, h_pieces⟩ := List.forall_mem_cons.1 h
    by_cases h_last : pieces = []
    · rw [h_last, List.intercalate_singleton, splitChars_of_notMem h_piece]
    · rw [List.intercalate_cons_of_ne_nil h_last, List.append_assoc, List.singleton_append,
        splitChars_append_cons, splitChars_of_notMem h_piece, ih h_last h_pieces]
      rfl

/-- Names that were joined by a character which none of them has are found again. -/
theorem split_intercalate {c : Char} {sep : String} (h_sep : sep.toList = [c]) {names : List String}
    (h_ne : names ≠ []) (h : ∀ name ∈ names, c ∉ name.toList) : split c (sep.intercalate names) = names := by
  have h_pieces : splitChars c ([c].intercalate (names.map String.toList)) = names.map String.toList :=
    splitChars_intercalate (by simpa using h_ne) (by simpa using h)
  rw [split, String.toList_intercalate, h_sep, h_pieces, List.map_map]
  simp [Function.comp_def]

theorem intercalate_splitChars (c : Char) (cs : List Char) : [c].intercalate (splitChars c cs) = cs := by
  induction cs with
  | nil => rfl
  | cons d ds ih =>
    obtain ⟨first, others, h_split⟩ := exists_splitChars_eq_cons c ds
    rw [h_split] at ih
    rw [splitChars, h_split]
    by_cases h : d = c
    · simp [h, List.intercalate_cons_of_ne_nil, ih]
    · -- the character goes to the front of the first piece
      rw [← ih]
      cases others <;> simp [h, List.intercalate_cons_of_ne_nil]

/-- The pieces of a text, joined again, are the text. -/
theorem intercalate_split {c : Char} {sep : String} (h_sep : sep.toList = [c]) (s : String) :
    sep.intercalate (split c s) = s := by
  apply String.toList_injective
  rw [String.toList_intercalate, h_sep, split, List.map_map]
  simp [Function.comp_def, intercalate_splitChars]

theorem split_append_cons {c : Char} {s before after : String}
    (h : s.toList = before.toList ++ c :: after.toList) (h_after : c ∉ after.toList) :
    split c s = split c before ++ [after] := by
  simp [split, h, splitChars_append_cons, splitChars_of_notMem h_after]

theorem split_of_notMem {c : Char} {s : String} (h : c ∉ s.toList) : split c s = [s] := by
  simp [split, splitChars_of_notMem h]

theorem exists_last_cut {c : Char} {s : String} (h : c ∈ s.toList) :
    ∃ before after : String, s.toList = before.toList ++ c :: after.toList ∧ c ∉ after.toList := by
  obtain ⟨after, before, h_eq, h_after⟩ := List.eq_append_cons_of_mem (List.mem_reverse.2 h)
  refine ⟨String.ofList before.reverse, String.ofList after.reverse, ?_, by simpa using h_after⟩
  rw [← List.reverse_reverse s.toList, h_eq]
  simp

/-- The last piece is what follows the last cut. -/
theorem getLast?_split (c : Char) (s : String) : (split c s).getLast? = some (afterLast c s) := by
  by_cases h : c ∈ s.toList
  · obtain ⟨before, after, h_eq, h_after⟩ := exists_last_cut h
    rw [split_append_cons h_eq h_after, afterLast_append_cons h_eq h_after, List.getLast?_concat]
  · rw [split_of_notMem h, afterLast_of_notMem h]
    rfl

/-- The last cut stands between the last piece and the others. -/
theorem cutLast_of_mem {c : Char} {sep : String} (h_sep : sep.toList = [c]) {s : String}
    (h : c ∈ s.toList) : cutLast c s = some (sep.intercalate (split c s).dropLast, afterLast c s) := by
  obtain ⟨before, after, h_eq, h_after⟩ := exists_last_cut h
  rw [split_append_cons h_eq h_after, List.dropLast_concat, intercalate_split h_sep,
    afterLast_append_cons h_eq h_after, cutLast_append_cons h_eq h_after]

theorem cutLast_of_notMem {c : Char} {s : String} (h : c ∉ s.toList) : cutLast c s = none := by
  simp [cutLast, cutLastChars_eq_none_iff.2 h]

theorem notMem_intercalate {c : Char} {sep : List Char} {pieces : List (List Char)} (h_sep : c ∉ sep)
    (h : ∀ piece ∈ pieces, c ∉ piece) : c ∉ sep.intercalate pieces := by
  induction pieces with
  | nil => simp [List.intercalate_nil]
  | cons piece pieces ih =>
    obtain ⟨h_piece, h_pieces⟩ := List.forall_mem_cons.1 h
    by_cases h_last : pieces = []
    · rwa [h_last, List.intercalate_singleton]
    · rw [List.intercalate_cons_of_ne_nil h_last]
      simp [h_piece, h_sep, ih h_pieces]

theorem map_intercalate (f : Char → Char) (sep : List Char) (pieces : List (List Char)) :
    (sep.intercalate pieces).map f = (sep.map f).intercalate (pieces.map (List.map f)) := by
  induction pieces with
  | nil => rfl
  | cons piece pieces ih =>
    by_cases h_last : pieces = []
    · rw [h_last, List.intercalate_singleton, List.map_singleton, List.intercalate_singleton]
    · have h_map : pieces.map (List.map f) ≠ [] := by simpa using h_last
      rw [List.intercalate_cons_of_ne_nil h_last, List.map_append, List.map_append, ih,
        List.map_cons, List.intercalate_cons_of_ne_nil h_map]

/-! ## Beginnings and endings -/

theorem dropStartChars?_eq_some_iff {start cs rest : List Char} :
    dropStartChars? start cs = some rest ↔ cs = start ++ rest := by
  induction start generalizing cs with
  | nil => simp [dropStartChars?]
  | cons s start ih =>
    cases cs with
    | nil => simp [dropStartChars?]
    | cons c cs =>
      by_cases h : s = c
      · simp [dropStartChars?, h, ih]
      · simp [dropStartChars?, h, eq_comm (a := c)]

theorem startsWith_iff {start s : String} :
    startsWith start s = true ↔ start.toList <+: s.toList := by
  rw [startsWith, dropStart?, Option.isSome_map, Option.isSome_iff_exists]
  simp only [dropStartChars?_eq_some_iff, List.IsPrefix, eq_comm (a := s.toList)]

theorem endsWith_iff {stop s : String} :
    endsWith stop s = true ↔ stop.toList <:+ s.toList := by
  rw [endsWith, dropEnd?, dropEndChars?, Option.isSome_map, Option.isSome_map,
    Option.isSome_iff_exists, ← List.reverse_prefix]
  simp only [dropStartChars?_eq_some_iff, List.IsPrefix, eq_comm (a := s.toList.reverse)]

theorem dropEndChars?_eq_some_iff {stop cs rest : List Char} :
    dropEndChars? stop cs = some rest ↔ cs = rest ++ stop := by
  rw [dropEndChars?, Option.map_eq_some_iff]
  simp only [dropStartChars?_eq_some_iff]
  constructor
  · rintro ⟨front, h_front, rfl⟩
    rw [← List.reverse_reverse cs, h_front]
    simp
  · rintro rfl
    exact ⟨rest.reverse, by simp, by simp⟩

theorem dropStart?_eq_some_iff {start s rest : String} :
    dropStart? start s = some rest ↔ s = start ++ rest := by
  rw [dropStart?, Option.map_eq_some_iff]
  simp only [dropStartChars?_eq_some_iff]
  constructor
  · rintro ⟨cs, h_cs, rfl⟩
    exact String.toList_injective (by simpa using h_cs)
  · rintro rfl
    exact ⟨rest.toList, by simp, by simp⟩

theorem dropEnd?_eq_some_iff {stop s rest : String} :
    dropEnd? stop s = some rest ↔ s = rest ++ stop := by
  rw [dropEnd?, Option.map_eq_some_iff]
  simp only [dropEndChars?_eq_some_iff]
  constructor
  · rintro ⟨cs, h_cs, rfl⟩
    exact String.toList_injective (by simpa using h_cs)
  · rintro rfl
    exact ⟨rest.toList, by simp, by simp⟩

theorem dropStart?_eq_none_iff {start s : String} : dropStart? start s = none ↔ startsWith start s = false := by
  rw [startsWith, Option.isSome_eq_false_iff, Option.isNone_iff_eq_none]

theorem dropEnd?_eq_none_iff {stop s : String} : dropEnd? stop s = none ↔ endsWith stop s = false := by
  rw [endsWith, Option.isSome_eq_false_iff, Option.isNone_iff_eq_none]

/-- A beginning whose last character is not in the ending is a beginning of what stands before it. -/
theorem isPrefix_of_isPrefix_append {before cs stop : List Char} {c : Char}
    (h : before ++ [c] <+: cs ++ stop) (h_stop : c ∉ stop) : before ++ [c] <+: cs := by
  obtain ⟨rest, h_rest⟩ := h
  rcases List.append_eq_append_iff.1 h_rest with ⟨more, rfl, -⟩ | ⟨more, h_before, h_more⟩
  · exact List.prefix_append _ _
  · rcases List.eq_nil_or_concat more with rfl | ⟨init, last, rfl⟩
    · rw [List.append_nil] at h_before
      exact h_before ▸ List.prefix_refl _
    · rw [List.concat_eq_append, ← List.append_assoc] at h_before
      have h_last : c = last := (List.cons.inj (List.append_inj_right' h_before rfl)).1
      exact absurd (by simp [h_more, h_last]) h_stop

theorem dropTrailing_append_self (c : Char) (cs : List Char) :
    dropTrailing c (cs ++ [c]) = dropTrailing c cs := by
  simp [dropTrailing]

theorem dropTrailing_eq_self {c : Char} {cs : List Char} (h : ∀ d ∈ cs.getLast?, d ≠ c) :
    dropTrailing c cs = cs := by
  rw [dropTrailing, List.reverse_eq_iff]
  rw [← List.head?_reverse] at h
  cases h_reverse : cs.reverse with
  | nil => rfl
  | cons d ds =>
    rw [h_reverse] at h
    simp [h d rfl]

/-! ## Trimming -/

theorem trimStart_eq_self_iff {cs : List Char} :
    trimStart cs = cs ↔ ∀ c ∈ cs.head?, isBlank c = false := by
  cases cs with
  | nil => simp [trimStart]
  | cons c cs =>
    by_cases h : isBlank c = true
    · have h_le := (List.dropWhile_sublist (l := cs) isBlank).length_le
      have h_ne : cs.dropWhile isBlank ≠ c :: cs := by
        intro heq
        rw [heq, List.length_cons] at h_le
        omega
      simpa [trimStart, h] using h_ne
    · simp [trimStart, h]

theorem trimEnd_eq_self_iff {cs : List Char} :
    trimEnd cs = cs ↔ ∀ c ∈ cs.getLast?, isBlank c = false := by
  rw [trimEnd, List.reverse_eq_iff, ← List.head?_reverse]
  exact trimStart_eq_self_iff

/-- Trimming leaves a text alone exactly if no blank stands at its ends. -/
theorem trim_eq_self_iff {cs : List Char} :
    trim cs = cs ↔ (∀ c ∈ cs.head?, isBlank c = false) ∧ ∀ c ∈ cs.getLast?, isBlank c = false := by
  rw [← trimStart_eq_self_iff, ← trimEnd_eq_self_iff]
  constructor
  · intro h
    -- both steps drop characters at most, so together they drop none only if each drops none
    have h_end := ((List.dropWhile_sublist (l := (trimStart cs).reverse) isBlank).length_le)
    have h_start := List.dropWhile_sublist (l := cs) isBlank
    have h_length := congrArg List.length h
    rw [trim, trimEnd, List.length_reverse] at h_length
    rw [List.length_reverse, h_length] at h_end
    have h_eq : trimStart cs = cs := h_start.eq_of_length_le h_end
    rw [trim, h_eq] at h
    exact ⟨h_eq, h⟩
  · rintro ⟨h_start, h_end⟩
    rw [trim, h_start, h_end]

/-- What stands before the end of a trimmed text may be replaced by a text without blanks. -/
theorem trim_append_of_trim_append {before rest new : List Char}
    (h : trim (before ++ rest) = before ++ rest) (h_new : ∀ c ∈ new, isBlank c = false)
    (h_ne : new ≠ []) : trim (new ++ rest) = new ++ rest := by
  obtain ⟨d, ds, rfl⟩ := List.exists_cons_of_ne_nil h_ne
  refine trim_eq_self_iff.2 ⟨fun c hc => ?_, fun c hc => ?_⟩
  · rw [List.cons_append, List.head?_cons, Option.mem_some_iff] at hc
    exact h_new c (hc ▸ List.mem_cons_self)
  · have h_end := (trim_eq_self_iff.1 h).2 c
    rw [List.getLast?_append] at hc h_end
    cases h_last : rest.getLast? with
    | some last =>
      rw [h_last] at hc h_end
      exact h_end hc
    | none =>
      rw [h_last] at hc
      exact h_new c (List.mem_of_getLast? hc)

theorem trimStart_append_of_blank {before cs : List Char} (h : ∀ c ∈ before, isBlank c = true) :
    trimStart (before ++ cs) = trimStart cs := List.dropWhile_append_of_pos h

theorem trimEnd_append_of_blank {cs after : List Char} (h : ∀ c ∈ after, isBlank c = true) :
    trimEnd (cs ++ after) = trimEnd cs := by
  rw [trimEnd, List.reverse_append, List.dropWhile_append_of_pos (by simpa using h), trimEnd]

/-- Blanks at the end of a text are those after a character that is none. -/
theorem trimEnd_cons {c : Char} (h : isBlank c = false) (cs : List Char) :
    trimEnd (c :: cs) = c :: trimEnd cs := by
  rw [trimEnd, trimEnd, List.reverse_cons, List.dropWhile_append]
  split
  · rename_i h_empty
    simp [List.isEmpty_iff.1 h_empty, h]
  · simp

/-- Blanks around a text are trimmed away. -/
theorem trim_of_blanks {before cs after : List Char} (h_before : ∀ c ∈ before, isBlank c = true)
    (h_after : ∀ c ∈ after, isBlank c = true) : trim (before ++ cs ++ after) = trim cs := by
  rw [trim, List.append_assoc, trimStart_append_of_blank h_before, trim, trimStart, trimStart,
    List.dropWhile_append]
  split
  · rename_i h_empty
    rw [List.isEmpty_iff.1 h_empty, List.dropWhile_eq_nil_iff.2 h_after]
  · exact trimEnd_append_of_blank h_after

theorem trim_sublist (cs : List Char) : (trim cs).Sublist cs := by
  have h_end : (trimEnd (trimStart cs)).Sublist (trimStart cs) := by
    rw [← List.reverse_sublist, trimEnd, List.reverse_reverse]
    exact List.dropWhile_sublist _
  exact h_end.trans (List.dropWhile_sublist _)

theorem mem_trimStart {c : Char} {cs : List Char} (h : c ∈ cs) (h_blank : isBlank c = false) :
    c ∈ trimStart cs := by
  induction cs with
  | nil => cases h
  | cons d ds ih =>
    rw [trimStart, List.dropWhile_cons]
    split
    · rename_i h_d
      rcases List.mem_cons.1 h with rfl | h_later
      · simp [h_blank] at h_d
      · exact ih h_later
    · exact h

theorem mem_trim {c : Char} {cs : List Char} (h : c ∈ cs) (h_blank : isBlank c = false) :
    c ∈ trim cs := by
  rw [trim, trimEnd, List.mem_reverse]
  exact mem_trimStart (List.mem_reverse.2 (mem_trimStart h h_blank)) h_blank

/-- Only blanks are trimmed away altogether. -/
theorem trim_eq_nil_iff {cs : List Char} : trim cs = [] ↔ ∀ c ∈ cs, isBlank c = true := by
  constructor
  · intro h c h_mem
    by_contra h_blank
    have h_kept : c ∈ trim cs := mem_trim h_mem (Bool.not_eq_true _ ▸ h_blank)
    rw [h] at h_kept
    cases h_kept
  · intro h
    rw [trim, trimStart, List.dropWhile_eq_nil_iff.2 h]
    rfl

end JavaCallGraph.Text
