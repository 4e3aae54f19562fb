import JavaCallGraph.TypeName
import JavaCallGraph.Proofs.Text

/-!
# Laws of the texts of types

Spacing a text a second time changes nothing, and what follows a character that is neither blank nor a
comma is spaced as if it stood alone. The name of a type ends where the first suffix starts.

* `splitChars_eq_iff` — name and suffix are determined by where suffixes start.
* `base_eq_self_iff` — the texts that are names only.
* `base_append` — names of texts that get a suffix.
* `tidyFrom_tidyFrom` — canonical spacing is stable.
* `tidyFrom_tail`, `blank_of_tidyFrom` — the rest of a spaced text is spaced, and where its blanks are.
* `Parts` — a name and a suffix that stay apart; `exists_parts_tidy` finds them in every spaced text,
  `Parts.replace` and `Parts.under` give them another name and a package.
-/

namespace JavaCallGraph.TypeName

open Text (isBlank trim)

/-! ## Name and suffix -/

/-- No suffix starts inside `name` when `rest` follows it. -/
def NoSuffixIn : List Char → List Char → Prop
  | [], _ => True
  | c :: cs, rest => startsSuffix (c :: (cs ++ rest)) = false ∧ NoSuffixIn cs rest

instance decidableNoSuffixIn : (name rest : List Char) → Decidable (NoSuffixIn name rest)
  | [], _ => isTrue trivial
  | _ :: cs, rest =>
    have := decidableNoSuffixIn cs rest
    inferInstanceAs (Decidable (_ ∧ _))

theorem noSuffixIn_append {a b rest : List Char} :
    NoSuffixIn (a ++ b) rest ↔ NoSuffixIn a (b ++ rest) ∧ NoSuffixIn b rest := by
  induction a with
  | nil => simp [NoSuffixIn]
  | cons c cs ih => simp [NoSuffixIn, ih, and_assoc]

/-- Name and suffix are determined by where suffixes start. -/
theorem splitChars_eq_iff {cs name suffix : List Char} :
    splitChars cs = (name, suffix) ↔
      cs = name ++ suffix ∧ NoSuffixIn name suffix ∧ (suffix = [] ∨ startsSuffix suffix = true) := by
  induction cs generalizing name with
  | nil =>
    cases name <;> cases suffix <;> simp [splitChars, NoSuffixIn]
  | cons c cs ih =>
    rw [splitChars]
    by_cases h_start : startsSuffix (c :: cs) = true
    · simp only [h_start, if_true, Prod.mk.injEq]
      constructor
      · rintro ⟨rfl, rfl⟩
        exact ⟨rfl, trivial, .inr h_start⟩
      · rintro ⟨heq, h_none, -⟩
        cases name with
        | nil => exact ⟨rfl, heq⟩
        | cons d name =>
          have h_not := h_none.1
          rw [← List.cons_append, ← heq, h_start] at h_not
          cases h_not
    · rw [if_neg h_start]
      constructor
      · rintro ⟨rfl, rfl⟩
        obtain ⟨heq, h_none, h_end⟩ := ih.1 rfl
        refine ⟨by rw [List.cons_append, ← heq], ⟨?_, h_none⟩, h_end⟩
        rw [← heq]
        simpa using h_start
      · rintro ⟨heq, h_none, h_end⟩
        cases name with
        | nil =>
          rcases h_end with rfl | h_end
          · cases heq
          · rw [List.nil_append] at heq
            exact absurd (heq ▸ h_end) h_start
        | cons d name =>
          rw [List.cons_append, List.cons.injEq] at heq
          obtain ⟨rfl, heq⟩ := heq
          have h_split := ih.2 ⟨heq, h_none.2, h_end⟩
          rw [h_split]

theorem splitChars_spec (cs : List Char) :
    cs = (splitChars cs).1 ++ (splitChars cs).2 ∧ NoSuffixIn (splitChars cs).1 (splitChars cs).2 ∧
      ((splitChars cs).2 = [] ∨ startsSuffix (splitChars cs).2 = true) :=
  splitChars_eq_iff.1 rfl

/-- A part in which no suffix starts belongs to the name. -/
theorem splitChars_append {part rest : List Char} (h : NoSuffixIn part rest) :
    splitChars (part ++ rest) = (part ++ (splitChars rest).1, (splitChars rest).2) := by
  obtain ⟨h_parts, h_none, h_end⟩ := splitChars_spec rest
  refine splitChars_eq_iff.2 ⟨?_, noSuffixIn_append.2 ⟨?_, h_none⟩, h_end⟩
  · rw [List.append_assoc, ← h_parts]
  · rw [← h_parts]
    exact h

/-- A name ends at the latest where a suffix starts. -/
theorem splitChars_isPrefix {before rest : List Char} (h : startsSuffix rest = true) :
    (splitChars (before ++ rest)).1 <+: before := by
  induction before with
  | nil =>
    cases rest with
    | nil => cases h
    | cons c cs => simp [splitChars, h]
  | cons c cs ih =>
    rw [List.cons_append, splitChars]
    split
    · exact List.nil_prefix
    · exact List.cons_prefix_cons.2 ⟨rfl, ih⟩

theorem startsSuffix_cases {cs : List Char} (h : startsSuffix cs = true) :
    ∃ c rest, cs = c :: rest ∧ (c = '<' ∨ c = '[' ∨ c = '.') := by
  unfold startsSuffix at h
  split at h
  · exact ⟨_, _, rfl, .inl rfl⟩
  · exact ⟨_, _, rfl, .inr (.inl rfl)⟩
  · exact ⟨_, _, rfl, .inr (.inr rfl)⟩
  · cases h

theorem startsSuffix_cons_of_ne {c : Char} (h_angle : c ≠ '<') (h_square : c ≠ '[')
    (h_dot : c ≠ '.') (cs : List Char) : startsSuffix (c :: cs) = false := by
  unfold startsSuffix
  split <;> simp_all

theorem startsSuffix_dot_of_ne {cs : List Char} (h : cs.head? ≠ some '.') :
    startsSuffix ('.' :: cs) = false := by
  unfold startsSuffix
  split <;> simp_all

theorem startsSuffix_iff {cs : List Char} :
    startsSuffix cs = true ↔
      cs.head? = some '<' ∨ cs.head? = some '[' ∨ ['.', '.', '.'] <+: cs := by
  unfold startsSuffix
  split
  · simp
  · simp
  · simp
  · rename_i h_angle h_square h_dots
    simp only [Bool.false_eq_true, false_iff, not_or]
    refine ⟨?_, ?_, ?_⟩
    · rw [List.head?_eq_some_iff]
      rintro ⟨rest, rfl⟩
      exact h_angle rest rfl
    · rw [List.head?_eq_some_iff]
      rintro ⟨rest, rfl⟩
      exact h_square rest rfl
    · rintro ⟨rest, rfl⟩
      exact h_dots rest rfl

/-- What follows a text matters only where dots on both sides meet. -/
theorem startsSuffix_append {cs rest : List Char} (h_ne : cs ≠ [])
    (h : cs.getLast? ≠ some '.' ∨ rest.head? ≠ some '.') :
    startsSuffix (cs ++ rest) = startsSuffix cs := by
  rw [Bool.eq_iff_iff, startsSuffix_iff, startsSuffix_iff, List.head?_append_of_ne_nil _ h_ne]
  refine or_congr_right (or_congr_right ⟨fun h_dots => ?_, fun h_dots => h_dots.trans ⟨rest, rfl⟩⟩)
  rcases List.prefix_or_prefix_of_prefix h_dots (List.prefix_append cs rest) with h_in | h_out
  · exact h_in
  · -- dots on both sides
    obtain ⟨more, h_more⟩ := h_out
    rw [← h_more, List.prefix_append_right_inj] at h_dots
    cases more with
    | nil => exact ⟨[], by simpa using h_more.symm⟩
    | cons d ds =>
      have h_all : ∀ c ∈ cs ++ d :: ds, c = '.' := by
        rw [h_more]
        simp
      rcases h with h | h
      · refine absurd ?_ h
        rw [List.getLast?_eq_some_getLast h_ne, h_all _ (List.mem_append_left _ (List.getLast_mem h_ne))]
      · obtain ⟨tail, rfl⟩ := h_dots
        exact absurd (congrArg some (h_all d (by simp))) h

/-- A text is cut no later if a suffix follows it. -/
theorem splitChars_append_isPrefix {suffix : List Char} (h : suffix = [] ∨ startsSuffix suffix = true)
    (cs : List Char) : (splitChars (cs ++ suffix)).1 <+: (splitChars cs).1 := by
  induction cs with
  | nil =>
    rcases h with rfl | h
    · exact List.prefix_refl _
    · exact @splitChars_isPrefix [] suffix h
  | cons c cs ih =>
    rw [List.cons_append, splitChars, splitChars]
    by_cases h_start : startsSuffix (c :: cs) = true
    · have h_more : startsSuffix (c :: (cs ++ suffix)) = true := by
        rw [startsSuffix_iff] at h_start ⊢
        exact h_start.imp_right (Or.imp_right fun h_dots => h_dots.trans ⟨suffix, rfl⟩)
      simp [h_start, h_more]
    · rw [if_neg h_start]
      split
      · exact List.nil_prefix
      · exact List.cons_prefix_cons.2 ⟨rfl, ih⟩

/-- Where no dots meet, a suffix leaves the name before it as it is. -/
theorem fst_splitChars_append {cs suffix : List Char} (h : suffix = [] ∨ startsSuffix suffix = true)
    (h_dots : cs.getLast? ≠ some '.' ∨ suffix.head? ≠ some '.') :
    (splitChars (cs ++ suffix)).1 = (splitChars cs).1 := by
  induction cs with
  | nil => exact List.prefix_nil.1 (splitChars_append_isPrefix h [])
  | cons c cs ih =>
    have h_start : startsSuffix (c :: (cs ++ suffix)) = startsSuffix (c :: cs) :=
      startsSuffix_append (List.cons_ne_nil c cs) h_dots
    have h_dots' : cs.getLast? ≠ some '.' ∨ suffix.head? ≠ some '.' := by
      refine h_dots.imp_left fun h_last h_dot => h_last ?_
      rw [List.getLast?_cons, h_dot]
      rfl
    rw [List.cons_append, splitChars, splitChars, h_start]
    split
    · rfl
    · exact congrArg (c :: ·) (ih h_dots')

/-! ## Texts that are names only -/

/-- The text is a name without a suffix and without blanks around it. -/
def IsBare (s : String) : Prop := NoSuffixIn s.toList [] ∧ trim s.toList = s.toList

instance (s : String) : Decidable (IsBare s) := inferInstanceAs (Decidable (_ ∧ _))

theorem toList_base (s : String) : (base s).toList = trim (splitChars s.toList).1 := by
  simp [base, split]

theorem length_base_le (s : String) : (base s).toList.length ≤ s.toList.length := by
  have h_parts := congrArg List.length (splitChars_spec s.toList).1
  have h_trim := (Text.trim_sublist (splitChars s.toList).1).length_le
  rw [List.length_append] at h_parts
  rw [toList_base]
  omega

/-- Only a bare name is its own name. -/
theorem base_eq_self_iff {s : String} : base s = s ↔ IsBare s := by
  rw [← String.toList_inj, toList_base, IsBare]
  obtain ⟨h_parts, h_name, -⟩ := splitChars_spec s.toList
  constructor
  · intro h
    -- the name is a part of the text, so it is as long only if it is all of it
    have h_length := congrArg List.length h_parts
    have h_trim := (Text.trim_sublist (splitChars s.toList).1).length_le
    rw [List.length_append, ← congrArg List.length h] at h_length
    have h_suffix : (splitChars s.toList).2 = [] := List.length_eq_zero_iff.1 (by omega)
    have h_all : (splitChars s.toList).1 = s.toList := by
      rw [h_suffix, List.append_nil] at h_parts
      exact h_parts.symm
    rw [h_suffix, h_all] at h_name
    rw [h_all] at h
    exact ⟨h_name, h⟩
  · rintro ⟨h_none, h_trim⟩
    have h_split : splitChars s.toList = (s.toList, []) :=
      splitChars_eq_iff.2 ⟨(List.append_nil _).symm, h_none, .inl rfl⟩
    rw [h_split]
    exact h_trim

/-- A suffix does not change the name, unless dots of both make an ellipsis. -/
theorem base_append {s suffix : String}
    (h : suffix.toList = [] ∨ startsSuffix suffix.toList = true)
    (h_dots : s.toList.getLast? ≠ some '.' ∨ suffix.toList.head? ≠ some '.') :
    base (s ++ suffix) = base s := by
  rw [← String.toList_inj, toList_base, toList_base, String.toList_append, fst_splitChars_append h h_dots]

theorem dropEllipses_eq (cs : List Char) :
    ∃ n, cs = List.replicate (3 * n) '.' ++ dropEllipses cs := by
  fun_induction dropEllipses cs with
  | case1 cs ih =>
    obtain ⟨n, h⟩ := ih
    refine ⟨n + 1, ?_⟩
    rw [Nat.mul_add, Nat.add_comm, List.replicate_add, List.append_assoc, ← h]
    rfl
  | case2 cs h => exact ⟨0, rfl⟩

/-- What is taken off the end of a text is a suffix. -/
theorem exists_toList_element (s : String) :
    ∃ dots, s.toList = (element s).toList ++ dots ∧ (dots = [] ∨ startsSuffix dots = true) := by
  obtain ⟨n, h⟩ := dropEllipses_eq s.toList.reverse
  refine ⟨List.replicate (3 * n) '.', ?_, ?_⟩
  · rw [element, String.toList_ofList]
    have h_rev := congrArg List.reverse h
    rwa [List.reverse_reverse, List.reverse_append, List.reverse_replicate] at h_rev
  · cases n with
    | zero => exact .inl rfl
    | succ n =>
      rw [Nat.mul_add, Nat.add_comm, List.replicate_add]
      exact .inr rfl

/-! ## Spacing -/

theorem tidyFrom_cons_blank {c : Char} (h : isBlank c = true) (last : Option Char) (gap : Bool)
    (cs : List Char) : tidyFrom last gap (c :: cs) = tidyFrom last true cs := by
  rw [tidyFrom, if_pos h]

theorem tidyFrom_cons {c : Char} (h : isBlank c = false) (last : Option Char) (gap : Bool)
    (cs : List Char) :
    tidyFrom last gap (c :: cs) = tidyChar last gap c ++ tidyFrom (some c) false cs := by
  rw [tidyFrom, h, if_neg Bool.false_ne_true]

theorem tidyChar_false {c : Char} (h : c ≠ ',') (last : Option Char) :
    tidyChar last false c = [c] := by
  simp [tidyChar, h]

/-- After anything but a character of a name, blanks do not matter. -/
theorem tidyFrom_eq_of_not_isNameChar {last : Option Char} (h : last.any isNameChar = false)
    (gap gap' : Bool) (cs : List Char) : tidyFrom last gap cs = tidyFrom none gap' cs := by
  induction cs generalizing gap gap' with
  | nil => rfl
  | cons c cs ih =>
    cases h_blank : isBlank c with
    | true => rw [tidyFrom_cons_blank h_blank, tidyFrom_cons_blank h_blank, ih]
    | false => simp [tidyFrom_cons h_blank, tidyChar, h]

/-- The text of one character is not changed by spacing it again. -/
theorem tidyFrom_tidyChar {c : Char} (h : isBlank c = false) (last : Option Char) (gap : Bool)
    (cs : List Char) :
    tidyFrom last false (tidyChar last gap c ++ cs) =
      tidyChar last gap c ++ tidyFrom (some c) false cs := by
  have h_space : isBlank ' ' = true := by decide
  by_cases h_comma : c = ','
  · -- a comma has no space before it, and the one after it is put there again
    subst h_comma
    have h_name : isNameChar ',' = false := by decide
    have h_after : ∀ gap, tidyFrom (some ',') gap cs = tidyFrom none false cs := fun gap =>
      tidyFrom_eq_of_not_isNameChar (by simp [h_name]) gap false cs
    simp [tidyChar, h_name, tidyFrom_cons h, tidyFrom_cons_blank h_space, h_after]
  · cases h_gap : gap && last.any isNameChar && isNameChar c with
    | true =>
      have h_text : tidyChar last gap c = [' ', c] := by simp [tidyChar, h_gap, h_comma]
      have h_again : tidyChar last true c = [' ', c] := by
        rw [Bool.and_eq_true, Bool.and_eq_true] at h_gap
        simp [tidyChar, h_gap.1.2, h_gap.2, h_comma]
      rw [h_text, List.cons_append, tidyFrom_cons_blank h_space, List.singleton_append,
        tidyFrom_cons h, h_again]
    | false =>
      have h_text : tidyChar last gap c = [c] := by simp [tidyChar, h_gap, h_comma]
      rw [h_text, List.singleton_append, tidyFrom_cons h, tidyChar_false h_comma]

/-- Canonical spacing is stable. -/
theorem tidyFrom_tidyFrom (last : Option Char) (gap : Bool) (cs : List Char) :
    tidyFrom last false (tidyFrom last gap cs) = tidyFrom last gap cs := by
  induction cs generalizing last gap with
  | nil => rfl
  | cons c cs ih =>
    cases h_blank : isBlank c with
    | true => rw [tidyFrom_cons_blank h_blank, ih]
    | false => rw [tidyFrom_cons h_blank, tidyFrom_tidyChar h_blank, ih]

theorem tidy_tidy (raw : String) : tidy (tidy raw) = tidy raw := by
  simp [tidy, tidyFrom_tidyFrom]

theorem tidyFrom_append (last : Option Char) (gap : Bool) (a b : List Char) :
    ∃ last' gap', tidyFrom last gap (a ++ b) = tidyFrom last gap a ++ tidyFrom last' gap' b := by
  induction a generalizing last gap with
  | nil => exact ⟨last, gap, rfl⟩
  | cons c cs ih =>
    cases h_blank : isBlank c with
    | true =>
      obtain ⟨last', gap', h⟩ := ih last true
      exact ⟨last', gap', by rw [List.cons_append, tidyFrom_cons_blank h_blank, h,
        tidyFrom_cons_blank h_blank]⟩
    | false =>
      obtain ⟨last', gap', h⟩ := ih (some c) false
      exact ⟨last', gap', by rw [List.cons_append, tidyFrom_cons h_blank, h,
        tidyFrom_cons h_blank, List.append_assoc]⟩

theorem mem_of_mem_tidyFrom {c : Char} (h_space : c ≠ ' ') {last : Option Char} {gap : Bool}
    {cs : List Char} (h : c ∈ tidyFrom last gap cs) : c ∈ cs := by
  induction cs generalizing last gap with
  | nil => exact h
  | cons d ds ih =>
    cases h_blank : isBlank d with
    | true =>
      rw [tidyFrom_cons_blank h_blank] at h
      exact List.mem_cons_of_mem _ (ih h)
    | false =>
      rw [tidyFrom_cons h_blank, List.mem_append] at h
      rcases h with h | h
      · have h_eq : c = d := by
          unfold tidyChar at h
          split at h <;> split at h <;> simp_all
        rw [h_eq]
        exact List.mem_cons_self
      · exact List.mem_cons_of_mem _ (ih h)

theorem pair_eq_append {a b c : Char} {before after : List Char} (h : [a, b] = before ++ c :: after) :
    (before = [] ∧ c = a ∧ after = [b]) ∨ (before = [a] ∧ c = b ∧ after = []) := by
  rcases before with _ | ⟨x, _ | ⟨y, before⟩⟩
  · cases h
    exact .inl ⟨rfl, rfl, rfl⟩
  · cases h
    exact .inr ⟨rfl, rfl, rfl⟩
  · simp at h

/-- What stands in the text of one character: the character itself, and a space after a comma or before
a character of a name. -/
theorem tidyChar_eq_append {last : Option Char} {gap : Bool} {d c : Char} {before after : List Char}
    (h : tidyChar last gap d = before ++ c :: after) :
    (c = d ∧ (after = [] ∨ d = ',')) ∨
      (c = ' ' ∧ (',' ∈ before ∨ (after = [d] ∧ isNameChar d = true))) := by
  by_cases h_comma : d = ','
  · subst h_comma
    have h_name : isNameChar ',' = false := by decide
    have h_text : tidyChar last gap ',' = [',', ' '] := by simp [tidyChar, h_name]
    rcases pair_eq_append (h_text.symm.trans h) with ⟨-, rfl, -⟩ | ⟨rfl, rfl, -⟩
    · exact .inl ⟨rfl, .inr rfl⟩
    · exact .inr ⟨rfl, .inl List.mem_cons_self⟩
  · cases h_gap : gap && last.any isNameChar && isNameChar d with
    | true =>
      have h_text : tidyChar last gap d = [' ', d] := by simp [tidyChar, h_gap, h_comma]
      rw [Bool.and_eq_true] at h_gap
      rcases pair_eq_append (h_text.symm.trans h) with ⟨-, rfl, rfl⟩ | ⟨-, rfl, rfl⟩
      · exact .inr ⟨rfl, .inr ⟨rfl, h_gap.2⟩⟩
      · exact .inl ⟨rfl, .inl rfl⟩
    | false =>
      have h_text : tidyChar last gap d = [d] := by simp [tidyChar, h_gap, h_comma]
      obtain ⟨-, h_eq⟩ | ⟨-, h_eq⟩ := List.singleton_eq_append_iff.1 (h_text.symm.trans h)
      · cases h_eq
        exact .inl ⟨rfl, .inl rfl⟩
      · cases h_eq

/-- What follows a character of a spaced text is spaced, unless a space belongs to the character. -/
theorem tidyFrom_tail {last : Option Char} {gap : Bool} {cs before after : List Char} {c : Char}
    (h : tidyFrom last gap cs = before ++ c :: after) (h_blank : isBlank c = false)
    (h_comma : c ≠ ',') : ∃ cs', after = tidyFrom (some c) false cs' := by
  induction cs generalizing last gap before with
  | nil => simp [tidyFrom] at h
  | cons d ds ih =>
    cases h_d : isBlank d with
    | true =>
      rw [tidyFrom_cons_blank h_d] at h
      exact ih h
    | false =>
      rw [tidyFrom_cons h_d, List.append_eq_append_iff] at h
      -- `c` stands in the rest, or starts it, or is in the text of `d`
      rcases h with ⟨before', -, h_rest⟩ | ⟨_ | ⟨c', cs'⟩, h_char, h_rest⟩
      · exact ih h_rest
      · exact ih (h_rest.symm.trans (List.nil_append _).symm)
      · rw [List.cons_append, List.cons.injEq] at h_rest
        obtain ⟨rfl, h_rest⟩ := h_rest
        rcases tidyChar_eq_append h_char with ⟨rfl, h_after⟩ | ⟨rfl, -⟩
        · rw [h_after.resolve_right h_comma] at h_rest
          exact ⟨ds, h_rest⟩
        · exact absurd h_blank (by decide)

/-- A blank of a spaced text comes after a comma or before a character of a name. -/
theorem blank_of_tidyFrom {last : Option Char} {gap : Bool} {cs before after : List Char} {b : Char}
    (h : tidyFrom last gap cs = before ++ b :: after) (h_blank : isBlank b = true) :
    ',' ∈ before ∨ after.head?.any isNameChar = true := by
  induction cs generalizing last gap before with
  | nil => simp [tidyFrom] at h
  | cons d ds ih =>
    cases h_d : isBlank d with
    | true =>
      rw [tidyFrom_cons_blank h_d] at h
      exact ih h
    | false =>
      rw [tidyFrom_cons h_d, List.append_eq_append_iff] at h
      rcases h with ⟨before', rfl, h_rest⟩ | ⟨_ | ⟨b', bs⟩, h_char, h_rest⟩
      · exact (ih h_rest).imp (List.mem_append_right _) id
      · exact (ih (h_rest.symm.trans (List.nil_append _).symm)).imp (fun h => by cases h) id
      · rw [List.cons_append, List.cons.injEq] at h_rest
        obtain ⟨rfl, rfl⟩ := h_rest
        rcases tidyChar_eq_append h_char with ⟨rfl, -⟩ | ⟨-, h_comma | ⟨rfl, h_name⟩⟩
        · rw [h_blank] at h_d
          cases h_d
        · exact .inl h_comma
        · exact .inr h_name

theorem head_tidyFrom_none (gap : Bool) (cs : List Char) :
    ∀ c ∈ (tidyFrom none gap cs).head?, isBlank c = false := by
  induction cs generalizing gap with
  | nil => simp [tidyFrom]
  | cons d ds ih =>
    cases h_d : isBlank d with
    | true =>
      rw [tidyFrom_cons_blank h_d]
      exact ih true
    | false => simp [tidyFrom_cons h_d, tidyChar, h_d]

theorem startsSuffix_tidyFrom {cs : List Char} (h : startsSuffix cs = true) (last : Option Char)
    (gap : Bool) : startsSuffix (tidyFrom last gap cs) = true := by
  have h_blank : isBlank '<' = false ∧ isBlank '[' = false ∧ isBlank '.' = false := by decide
  have h_name : isNameChar '<' = false ∧ isNameChar '[' = false ∧ isNameChar '.' = false := by decide
  unfold startsSuffix at h
  split at h
  · simp [tidyFrom, tidyChar, h_blank, h_name, startsSuffix]
  · simp [tidyFrom, tidyChar, h_blank, h_name, startsSuffix]
  · simp [tidyFrom, tidyChar, h_blank, h_name, startsSuffix]
  · cases h

theorem not_isNameChar_suffix {cs : List Char} (h : cs = [] ∨ startsSuffix cs = true) :
    cs.head?.any isNameChar = false := by
  rcases h with rfl | h
  · rfl
  · obtain ⟨c, rest, rfl, h_c⟩ := startsSuffix_cases h
    have h_name : isNameChar c = false := by rcases h_c with rfl | rfl | rfl <;> decide
    simpa using h_name

/-- If no comma stands in the name of a text, none stands in its name after spacing. -/
theorem comma_notMem_name_tidyFrom {cs : List Char} (h : ',' ∉ (splitChars cs).1) :
    ',' ∉ (splitChars (tidyFrom none false cs)).1 := by
  obtain ⟨h_parts, -, h_end⟩ := splitChars_spec cs
  obtain ⟨last, gap, h_append⟩ := tidyFrom_append none false (splitChars cs).1 (splitChars cs).2
  rw [← h_parts] at h_append
  have h_before : ',' ∉ tidyFrom none false (splitChars cs).1 :=
    fun h_mem => h (mem_of_mem_tidyFrom (by decide) h_mem)
  intro h_mem
  rcases h_end with h_nil | h_start
  · apply h_before
    rw [h_append, h_nil, tidyFrom, List.append_nil] at h_mem
    rw [(splitChars_spec (tidyFrom none false (splitChars cs).1)).1]
    exact List.mem_append_left _ h_mem
  · -- a suffix that starts in the text starts in the spaced text, so the name ends there at the latest
    rw [h_append] at h_mem
    exact h_before ((splitChars_isPrefix (startsSuffix_tidyFrom h_start last gap)).subset h_mem)

/-- A text that is in canonical spacing after whatever character. -/
def Spaced (cs : List Char) : Prop := ∀ last, tidyFrom last false cs = cs

theorem spaced_nil : Spaced [] := fun _ => rfl

theorem spaced_cons {c : Char} {cs : List Char} (h_blank : isBlank c = false) (h_comma : c ≠ ',')
    (h : tidyFrom (some c) false cs = cs) : Spaced (c :: cs) := fun last => by
  rw [tidyFrom_cons h_blank, tidyChar_false h_comma, h, List.singleton_append]

theorem spaced_append {part rest : List Char} (h_part : ∀ c ∈ part, isBlank c = false ∧ c ≠ ',')
    (h : Spaced rest) : Spaced (part ++ rest) := by
  induction part with
  | nil => exact h
  | cons c cs ih =>
    obtain ⟨h_blank, h_comma⟩ := h_part c List.mem_cons_self
    exact spaced_cons h_blank h_comma (ih (fun d hd => h_part d (List.mem_cons_of_mem _ hd)) _)

/-- What starts with a character between names is spaced after whatever character. -/
theorem spaced_tail {cs before after : List Char} {c : Char}
    (h : tidyFrom none false cs = before ++ c :: after) (h_blank : isBlank c = false)
    (h_comma : c ≠ ',') : Spaced (c :: after) := by
  obtain ⟨cs', rfl⟩ := tidyFrom_tail h h_blank h_comma
  exact spaced_cons h_blank h_comma (tidyFrom_tidyFrom _ _ _)

/-! ## Dotted names -/

/-- Characters of identifiers, and others that need no care: no blanks, commas or brackets. -/
def isSegmentChar (c : Char) : Bool := !isBlank c && c != ',' && c != '<' && c != '['

/-- A dotted name: its segments are not empty and hold no blank, comma or bracket. -/
def IsDotted (s : String) : Prop :=
  ∀ segment ∈ Text.split '.' s, segment ≠ "" ∧ segment.toList.all isSegmentChar = true

instance (s : String) : Decidable (IsDotted s) :=
  inferInstanceAs (Decidable (∀ segment ∈ Text.split '.' s, _ ∧ _))

/-- No suffix starts in a text whose later pieces are not empty and that has no brackets. -/
theorem noSuffixIn_of_pieces {cs first : List Char} {others : List (List Char)}
    (h_split : Text.splitChars '.' cs = first :: others) (h_others : ∀ piece ∈ others, piece ≠ [])
    (h_chars : ∀ c ∈ cs, c ≠ '<' ∧ c ≠ '[') (rest : List Char) : NoSuffixIn cs rest := by
  induction cs generalizing first others with
  | nil => trivial
  | cons d ds ih =>
    obtain ⟨first', others', h_ds⟩ := Text.exists_splitChars_eq_cons '.' ds
    obtain ⟨h_angle, h_square⟩ := h_chars d List.mem_cons_self
    have h_rest : ∀ c ∈ ds, c ≠ '<' ∧ c ≠ '[' := fun c hc => h_chars c (List.mem_cons_of_mem _ hc)
    rw [Text.splitChars, h_ds] at h_split
    by_cases h_dot : d = '.'
    · subst h_dot
      simp only [beq_self_eq_true, if_true, List.cons.injEq] at h_split
      obtain ⟨-, rfl⟩ := h_split
      refine ⟨startsSuffix_dot_of_ne ?_,
        ih h_ds (fun piece hp => h_others piece (List.mem_cons_of_mem _ hp)) h_rest⟩
      obtain ⟨e, es, rfl, h_e⟩ :=
        Text.exists_cons_of_splitChars h_ds (h_others _ List.mem_cons_self)
      simpa using h_e
    · simp only [beq_iff_eq, h_dot, if_false, List.cons.injEq] at h_split
      obtain ⟨-, rfl⟩ := h_split
      exact ⟨startsSuffix_cons_of_ne h_angle h_square h_dot _, ih h_ds h_others h_rest⟩

namespace IsDotted

variable {s : String}

theorem of_mem_pieces (h : IsDotted s) {piece : List Char}
    (h_mem : piece ∈ Text.splitChars '.' s.toList) :
    piece ≠ [] ∧ ∀ c ∈ piece, isSegmentChar c = true := by
  have h_piece := h (String.ofList piece) (List.mem_map_of_mem h_mem)
  rw [String.toList_ofList, List.all_eq_true] at h_piece
  refine ⟨?_, h_piece.2⟩
  rintro rfl
  exact h_piece.1 rfl

theorem of_mem (h : IsDotted s) {c : Char} (h_mem : c ∈ s.toList) :
    isBlank c = false ∧ c ≠ ',' ∧ c ≠ '<' ∧ c ≠ '[' := by
  rcases Text.mem_splitChars (c := '.') h_mem with rfl | ⟨piece, h_piece, h_c⟩
  · decide
  · simpa [isSegmentChar, and_assoc] using (h.of_mem_pieces h_piece).2 c h_c

theorem ne_nil (h : IsDotted s) : s.toList ≠ [] := by
  intro h_nil
  have h_mem : [] ∈ Text.splitChars '.' s.toList := by
    rw [h_nil]
    exact List.mem_cons_self
  exact (h.of_mem_pieces h_mem).1 rfl

/-- A dotted name belongs to the name of whatever text it starts. -/
theorem noSuffixIn (h : IsDotted s) (rest : List Char) : NoSuffixIn s.toList rest := by
  obtain ⟨first, others, h_split⟩ := Text.exists_splitChars_eq_cons '.' s.toList
  refine noSuffixIn_of_pieces h_split (fun piece h_piece => ?_) (fun c hc => (h.of_mem hc).2.2) rest
  exact (h.of_mem_pieces (h_split ▸ List.mem_cons_of_mem _ h_piece)).1

theorem spaced_append (h : IsDotted s) {rest : List Char} (h_rest : Spaced rest) :
    Spaced (s.toList ++ rest) :=
  TypeName.spaced_append (fun _ hc => ⟨(h.of_mem hc).1, (h.of_mem hc).2.1⟩) h_rest

end IsDotted

/-! ## Names and suffixes that stay apart -/

/-- A name and a suffix in canonical spacing that are told apart when one is written after the other. -/
structure Parts (name suffix : String) : Prop where
  spaced : tidyFrom none false (name.toList ++ suffix.toList) = name.toList ++ suffix.toList
  noSuffixIn : NoSuffixIn name.toList suffix.toList
  starts : suffix.toList = [] ∨ startsSuffix suffix.toList = true
  trimmed : trim name.toList = name.toList

theorem Parts.tidy_append {name suffix : String} (h : Parts name suffix) :
    tidy (name ++ suffix) = name ++ suffix := by
  rw [tidy, String.toList_append, h.spaced, ← String.toList_append, String.ofList_toList]

theorem Parts.split_append {name suffix : String} (h : Parts name suffix) :
    split (name ++ suffix) = (name, suffix) := by
  have h_split : splitChars (name ++ suffix).toList = (name.toList, suffix.toList) :=
    splitChars_eq_iff.2 ⟨String.toList_append, h.noSuffixIn, h.starts⟩
  rw [split, h_split]
  simp [h.trimmed]

theorem IsDotted.parts {s : String} (h : IsDotted s) : Parts s "" where
  spaced := h.spaced_append spaced_nil none
  noSuffixIn := h.noSuffixIn _
  starts := .inl rfl
  trimmed := Text.trim_eq_self_iff.2 ⟨fun _ hc => (h.of_mem (List.mem_of_head? hc)).1,
    fun _ hc => (h.of_mem (List.mem_of_getLast? hc)).1⟩

/-- Spacing a text gives a name and a suffix, unless the name has commas. -/
theorem exists_parts_tidy {raw : String} (h : ',' ∉ (splitChars raw.toList).1) :
    ∃ name suffix, tidy raw = name ++ suffix ∧ Parts name suffix := by
  obtain ⟨h_parts, h_none, h_end⟩ := splitChars_spec (tidyFrom none false raw.toList)
  have h_comma := comma_notMem_name_tidyFrom h
  have h_head := head_tidyFrom_none false raw.toList
  revert h_parts h_none h_end h_comma
  generalize (splitChars (tidyFrom none false raw.toList)).1 = name
  generalize (splitChars (tidyFrom none false raw.toList)).2 = suffix
  intro h_parts h_none h_end h_comma
  refine ⟨String.ofList name, String.ofList suffix, ?_, ?_, ?_, ?_, ?_⟩
  · rw [tidy, h_parts, String.ofList_append]
  · rw [String.toList_ofList, String.toList_ofList, ← h_parts, tidyFrom_tidyFrom]
  · simpa using h_none
  · simpa using h_end
  · rw [String.toList_ofList, Text.trim_eq_self_iff]
    refine ⟨fun c hc => ?_, fun c hc => ?_⟩
    · cases name with
      | nil => cases hc
      | cons d name =>
        rw [h_parts] at h_head
        exact h_head c hc
    · -- a blank at the end of the name would stand before a suffix or at the end of the text
      obtain ⟨before, rfl⟩ := List.getLast?_eq_some_iff.1 hc
      cases h_blank : isBlank c with
      | false => rfl
      | true =>
        rw [List.append_assoc, List.singleton_append] at h_parts
        rcases blank_of_tidyFrom h_parts h_blank with h_mem | h_name
        · exact absurd (List.mem_append_left _ h_mem) h_comma
        · rw [not_isNameChar_suffix h_end] at h_name
          cases h_name

/-- What follows the name of a type starts with a dot or a suffix, so it is spaced after whatever
character. -/
theorem Parts.spaced_rest {outer more suffix : String} (h : Parts (outer ++ more) suffix)
    (h_more : more = "" ∨ ∃ rest, more = "." ++ rest) : Spaced (more.toList ++ suffix.toList) := by
  have h_spaced := h.spaced
  rw [String.toList_append, List.append_assoc] at h_spaced
  rcases h_more with rfl | ⟨rest, rfl⟩
  · rcases h.starts with h_nil | h_start
    · rw [h_nil]
      exact spaced_nil
    · obtain ⟨c, cs, h_suffix, h_c⟩ := startsSuffix_cases h_start
      have h_char : isBlank c = false ∧ c ≠ ',' := by
        rcases h_c with rfl | rfl | rfl <;> decide
      rw [h_suffix] at h_spaced ⊢
      exact spaced_tail h_spaced h_char.1 h_char.2
  · rw [String.toList_append, List.append_assoc] at h_spaced ⊢
    exact spaced_tail h_spaced (by decide) (by decide)

/-- The name of a type may be replaced in front of a dot or a suffix. -/
theorem Parts.replace {outer more suffix found : String} (h : Parts (outer ++ more) suffix)
    (h_more : more = "" ∨ ∃ rest, more = "." ++ rest) (h_found : IsDotted found) :
    Parts (found ++ more) suffix := by
  have h_none := h.noSuffixIn
  rw [String.toList_append, noSuffixIn_append] at h_none
  refine ⟨?_, ?_, h.starts, ?_⟩
  · rw [String.toList_append, List.append_assoc]
    exact h_found.spaced_append (h.spaced_rest h_more) none
  · rw [String.toList_append]
    exact noSuffixIn_append.2 ⟨h_found.noSuffixIn _, h_none.2⟩
  · have h_trimmed := h.trimmed
    rw [String.toList_append] at h_trimmed ⊢
    exact Text.trim_append_of_trim_append h_trimmed (fun c hc => (h_found.of_mem hc).1) h_found.ne_nil

theorem Parts.under {name suffix package : String} (h : Parts name suffix)
    (h_ne : name ≠ "") (h_head : name.toList.head? ≠ some '.') (h_package : IsDotted package) :
    Parts (package ++ "." ++ name) suffix := by
  have h_list : (package ++ "." ++ name).toList = package.toList ++ '.' :: name.toList := by simp
  have h_first : (name.toList ++ suffix.toList).head? ≠ some '.' := by
    rw [List.head?_append_of_ne_nil _ (by simpa using h_ne)]
    exact h_head
  have h_spaced : Spaced ('.' :: (name.toList ++ suffix.toList)) := by
    refine spaced_cons (by decide) (by decide) ?_
    rw [tidyFrom_eq_of_not_isNameChar (by decide) false false, h.spaced]
  refine ⟨?_, ?_, h.starts, ?_⟩
  · rw [h_list, List.append_assoc]
    exact h_package.spaced_append h_spaced none
  · rw [h_list]
    exact noSuffixIn_append.2 ⟨h_package.noSuffixIn _, startsSuffix_dot_of_ne h_first, h.noSuffixIn⟩
  · have h_chars : ∀ c ∈ package.toList ++ ['.'], isBlank c = false := by
      intro c hc
      rcases List.mem_append.1 hc with hc | hc
      · exact (h_package.of_mem hc).1
      · rw [List.mem_singleton.1 hc]
        decide
    rw [h_list, ← List.singleton_append, ← List.append_assoc]
    have h_trimmed : trim ([] ++ name.toList) = [] ++ name.toList := h.trimmed
    exact Text.trim_append_of_trim_append h_trimmed h_chars (by simp)

end JavaCallGraph.TypeName
