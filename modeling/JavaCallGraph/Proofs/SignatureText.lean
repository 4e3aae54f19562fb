import JavaCallGraph.Signature
import JavaCallGraph.Proofs.Text

/-!
# What the text of a signature tells

The text of a signature puts its parts one after the other. Names of types and methods have no
parentheses, so the first one ends the method's name; a method's name has no dots, so the last dot before
it ends the type. The types of parameters may themselves hold commas, but only inside angle brackets,
and a reader who counts brackets finds the commas between parameters.

* `Signature.encloses` — counting brackets.
* `Signature.IsParamText` — texts that can be told apart when they are listed.
* `Signature.intercalate_inj` — a list of such texts is determined by its text.
* `Signature.parts_of_text_eq` — so is a signature.
-/

namespace JavaCallGraph.Signature

/-! ## Lists of parameters -/

/-- Are angle brackets balanced, given the number of open ones, and does a comma with a space after it
stand only where one is open? -/
def encloses (depth : Nat) : List Char → Bool
  | [] => depth == 0
  | c :: cs =>
    if c == '<' then encloses (depth + 1) cs
    else if c == '>' then depth != 0 && encloses (depth - 1) cs
    else !(depth == 0 && c == ',' && cs.head? == some ' ') && encloses depth cs

/-- A text that can be told from those next to it in a list of parameters. -/
def IsParamText (s : String) : Prop := s ≠ "" ∧ encloses 0 s.toList = true

instance (s : String) : Decidable (IsParamText s) := inferInstanceAs (Decidable (_ ∧ _))

/-- What can follow a parameter: nothing, or a comma, a space and more. -/
def EndsParam (rest : List Char) : Prop := rest = [] ∨ ∃ more, rest = ',' :: ' ' :: more

theorem eq_nil_of_endsParam {q rest rest' : List Char} (h_q : encloses 0 q = true)
    (h_rest : EndsParam rest) (h_rest' : EndsParam rest') (h : rest = q ++ rest') : q = [] := by
  cases q with
  | nil => rfl
  | cons c cs =>
    rcases h_rest with rfl | ⟨more, rfl⟩
    · cases h
    · simp only [List.cons_append, List.cons.injEq] at h
      obtain ⟨rfl, h_tail⟩ := h
      cases cs with
      | nil =>
        rcases h_rest' with rfl | ⟨more', rfl⟩ <;> simp at h_tail
      | cons d ds =>
        simp only [List.cons_append, List.cons.injEq] at h_tail
        obtain ⟨rfl, -⟩ := h_tail
        simp [encloses] at h_q

/-- A parameter ends in one place only. -/
theorem eq_of_append_eq {p q rest rest' : List Char} {depth : Nat} (h_p : encloses depth p = true)
    (h_q : encloses depth q = true) (h_rest : EndsParam rest) (h_rest' : EndsParam rest')
    (h : p ++ rest = q ++ rest') : p = q ∧ rest = rest' := by
  induction p generalizing depth q with
  | nil =>
    obtain rfl : depth = 0 := by simpa [encloses] using h_p
    have h_nil := eq_nil_of_endsParam h_q h_rest h_rest' h
    subst h_nil
    exact ⟨rfl, h⟩
  | cons c cs ih =>
    cases q with
    | nil =>
      obtain rfl : depth = 0 := by simpa [encloses] using h_q
      cases eq_nil_of_endsParam h_p h_rest' h_rest h.symm
    | cons d ds =>
      simp only [List.cons_append, List.cons.injEq] at h
      obtain ⟨rfl, h_tail⟩ := h
      rw [encloses] at h_p h_q
      -- the same character changes the number of open brackets in the same way
      have h_same : ∃ depth', encloses depth' cs = true ∧ encloses depth' ds = true := by
        split at h_p
        · rename_i h_open
          rw [if_pos h_open] at h_q
          exact ⟨depth + 1, h_p, h_q⟩
        · rename_i h_open
          rw [if_neg h_open] at h_q
          split at h_p
          · rename_i h_close
            rw [if_pos h_close] at h_q
            exact ⟨depth - 1, (Bool.and_eq_true_iff.1 h_p).2, (Bool.and_eq_true_iff.1 h_q).2⟩
          · rename_i h_close
            rw [if_neg h_close] at h_q
            exact ⟨depth, (Bool.and_eq_true_iff.1 h_p).2, (Bool.and_eq_true_iff.1 h_q).2⟩
      obtain ⟨depth', h_cs, h_ds⟩ := h_same
      obtain ⟨rfl, h_eq⟩ := ih h_cs h_ds h_tail
      exact ⟨rfl, h_eq⟩

theorem toList_intercalate_cons (p : String) (ps : List String) :
    ∃ rest, (", ".intercalate (p :: ps)).toList = p.toList ++ rest ∧ EndsParam rest ∧
      (rest = [] ↔ ps = []) ∧ (ps ≠ [] → rest = ',' :: ' ' :: (", ".intercalate ps).toList) := by
  cases ps with
  | nil => exact ⟨[], by simp, .inl rfl, by simp, by simp⟩
  | cons q qs =>
    refine ⟨',' :: ' ' :: (", ".intercalate (q :: qs)).toList, ?_, .inr ⟨_, rfl⟩, by simp, by simp⟩
    rw [String.intercalate_cons_cons, String.toList_append, String.toList_append, List.append_assoc]
    rfl

theorem intercalate_cons_ne_empty {p : String} (h : IsParamText p) (ps : List String) :
    ", ".intercalate (p :: ps) ≠ "" := by
  obtain ⟨rest, h_text, -⟩ := toList_intercalate_cons p ps
  intro h_empty
  rw [h_empty] at h_text
  have h_nil : p.toList = [] := (List.append_eq_nil_iff.1 h_text.symm).1
  exact h.1 (String.toList_eq_nil_iff.1 h_nil)

/-- A list of parameters is determined by its text. -/
theorem intercalate_inj {ps qs : List String} (h_ps : ∀ p ∈ ps, IsParamText p)
    (h_qs : ∀ q ∈ qs, IsParamText q) (h : ", ".intercalate ps = ", ".intercalate qs) : ps = qs := by
  induction ps generalizing qs with
  | nil =>
    cases qs with
    | nil => rfl
    | cons q qs => exact absurd h.symm (intercalate_cons_ne_empty (h_qs q List.mem_cons_self) qs)
  | cons p ps ih =>
    cases qs with
    | nil => exact absurd h (intercalate_cons_ne_empty (h_ps p List.mem_cons_self) ps)
    | cons q qs =>
      obtain ⟨rest, h_p, h_rest, h_last, h_more⟩ := toList_intercalate_cons p ps
      obtain ⟨rest', h_q, h_rest', h_last', h_more'⟩ := toList_intercalate_cons q qs
      obtain ⟨h_first, rfl⟩ := eq_of_append_eq (h_ps p List.mem_cons_self).2
        (h_qs q List.mem_cons_self).2 h_rest h_rest' (h_p.symm.trans (h ▸ h_q))
      rw [String.toList_injective h_first]
      by_cases h_nil : ps = []
      · rw [h_nil, h_last'.1 (h_last.2 h_nil)]
      · have h_nil' : qs ≠ [] := fun h_eq => h_nil (h_last.1 (h_last'.2 h_eq))
        have h_tail := (h_more h_nil).symm.trans (h_more' h_nil')
        simp only [List.cons.injEq, true_and] at h_tail
        rw [ih (fun p hp => h_ps p (List.mem_cons_of_mem _ hp))
          (fun q hq => h_qs q (List.mem_cons_of_mem _ hq)) (String.toList_injective h_tail)]

/-! ## Types and methods -/

/-- The name of a method: it has neither a dot nor a parenthesis. -/
def IsMethodName (s : String) : Prop := '.' ∉ s.toList ∧ '(' ∉ s.toList

instance (s : String) : Decidable (IsMethodName s) := inferInstanceAs (Decidable (_ ∧ _))

theorem append_cons_inj_first {c : Char} {a a' b b' : List Char} (h_a : c ∉ a) (h_a' : c ∉ a')
    (h : a ++ c :: b = a' ++ c :: b') : a = a' ∧ b = b' := by
  have h_cut : Text.cutFirstChars c (a ++ c :: b) = some (a, b) :=
    Text.cutFirstChars_eq_some_iff.2 ⟨rfl, h_a⟩
  rw [h, Text.cutFirstChars_eq_some_iff.2 ⟨rfl, h_a'⟩] at h_cut
  simpa [eq_comm] using h_cut

theorem append_cons_inj_last {c : Char} {a a' b b' : List Char} (h_b : c ∉ b) (h_b' : c ∉ b')
    (h : a ++ c :: b = a' ++ c :: b') : a = a' ∧ b = b' := by
  have h_reverse : b.reverse ++ c :: a.reverse = b'.reverse ++ c :: a'.reverse := by
    simpa using congrArg List.reverse h
  have h_parts := append_cons_inj_first (by simpa using h_b) (by simpa using h_b') h_reverse
  exact ⟨List.reverse_injective h_parts.2, List.reverse_injective h_parts.1⟩

/-- The text of a type, a method's name and parameters determines all three. -/
theorem parts_of_text_eq {type type' method method' : String} {ps qs : List String}
    (h_type : '(' ∉ type.toList) (h_type' : '(' ∉ type'.toList) (h_method : IsMethodName method)
    (h_method' : IsMethodName method') (h_ps : ∀ p ∈ ps, IsParamText p)
    (h_qs : ∀ q ∈ qs, IsParamText q)
    (h : type ++ "." ++ method ++ "(" ++ ", ".intercalate ps ++ ")" =
      type' ++ "." ++ method' ++ "(" ++ ", ".intercalate qs ++ ")") :
    type = type' ∧ method = method' ∧ ps = qs := by
  have h_chars : (type.toList ++ '.' :: method.toList) ++ '(' :: (", ".intercalate ps).toList =
      (type'.toList ++ '.' :: method'.toList) ++ '(' :: (", ".intercalate qs).toList := by
    have h_closed := (String.append_left_inj _).1 h
    simpa using congrArg String.toList h_closed
  have h_name := append_cons_inj_first (by simp [h_type, h_method.2]) (by simp [h_type', h_method'.2])
    h_chars
  have h_parts := append_cons_inj_last h_method.1 h_method'.1 h_name.1
  exact ⟨String.toList_injective h_parts.1, String.toList_injective h_parts.2,
    intercalate_inj h_ps h_qs (String.toList_injective h_name.2)⟩

end JavaCallGraph.Signature
