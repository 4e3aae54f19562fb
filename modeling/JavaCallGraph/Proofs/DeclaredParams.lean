import JavaCallGraph.Proofs.NestedTypes

/-!
# Parameters of declared methods

Only the last parameter of a method may take many arguments, and its type is then kept with an ellipsis
behind it. Whatever a text is, no other parameter that is read from it has a type with an ellipsis at the
end: the grammar ends every type in a name or in a closing bracket, and that is what it ends in when it is
qualified.

* `TypeName.endsPlainly` — texts that end in a name or in a closing bracket.
* `ImportTable.endsPlainly_qualify`, `ImportTable.endsWith_qualify` — qualifying keeps such an end, and an
  ellipsis.
* `Pattern.endsPlainly`, `Pattern.allPlain`, `plain_grammar` — checks on patterns, and their answer for the
  types of parameters.
* `CompilationUnit.marksVarargs_of_parse` — in a unit that was read, the types of parameters tell which
  methods take many arguments.
-/

namespace JavaCallGraph

open Java

/-! ## Ends of texts -/

namespace TypeName

/-- Does the text end in a name or in a closing bracket? -/
def endsPlainly (s : String) : Bool := s.toList.getLast?.any fun c => isSegmentChar c && c != '.'

theorem endsPlainly_iff {s : String} :
    endsPlainly s = true ↔ ∃ front c, s.toList = front ++ [c] ∧ isSegmentChar c = true ∧ c ≠ '.' := by
  rw [endsPlainly, Option.any_eq_true]
  constructor
  · rintro ⟨c, h_last, h_c⟩
    obtain ⟨front, h_chars⟩ := List.getLast?_eq_some_iff.1 h_last
    exact ⟨front, c, h_chars, by simpa using h_c⟩
  · rintro ⟨front, c, h_chars, h_c⟩
    exact ⟨c, by simp [h_chars], by simpa using h_c⟩

theorem endsPlainly_append (front : String) {s : String} (h : endsPlainly s = true) :
    endsPlainly (front ++ s) = true := by
  obtain ⟨before, c, h_chars, h_c⟩ := endsPlainly_iff.1 h
  exact endsPlainly_iff.2 ⟨front.toList ++ before, c, by simp [h_chars], h_c⟩

theorem endsWith_append (front : String) {stop s : String} (h : Text.endsWith stop s = true) :
    Text.endsWith stop (front ++ s) = true := by
  rw [Text.endsWith_iff] at h ⊢
  rw [String.toList_append]
  exact h.trans (List.suffix_append _ _)

theorem endsWith_of_endsPlainly {s : String} (h : endsPlainly s = true) :
    Text.endsWith "..." s = false := by
  obtain ⟨front, c, h_chars, -, h_dot⟩ := endsPlainly_iff.1 h
  rw [Bool.eq_false_iff, Ne, Text.endsWith_iff]
  rintro ⟨before, h_before⟩
  have h_last := congrArg List.getLast? h_before
  rw [h_chars] at h_last
  simp [Ne.symm h_dot] at h_last

theorem endsPlainly_tidy {raw : String} (h : endsPlainly raw = true) : endsPlainly (tidy raw) = true := by
  obtain ⟨front, c, h_chars, h_c, h_dot⟩ := endsPlainly_iff.1 h
  obtain ⟨h_blank, h_comma, -⟩ : Text.isBlank c = false ∧ c ≠ ',' ∧ c ≠ '<' ∧ c ≠ '[' := by
    simpa [isSegmentChar, and_assoc] using h_c
  obtain ⟨last, gap, h_append⟩ := tidyFrom_append none false front [c]
  have h_end : ∃ more, tidyFrom last gap [c] = more ++ [c] :=
    ⟨if gap && last.any isNameChar && isNameChar c then [' '] else [],
      by simp [tidyFrom, tidyChar, h_blank, h_comma]⟩
  obtain ⟨more, h_more⟩ := h_end
  refine endsPlainly_iff.2 ⟨tidyFrom none false front ++ more, c, ?_, h_c, h_dot⟩
  rw [tidy, String.toList_ofList, h_chars, h_append, h_more, List.append_assoc]

/-- An ellipsis at the end of a text has no blanks in it when the text is tidy. -/
theorem endsWith_tidy {raw : String} (h : Text.endsWith "..." raw = true) :
    Text.endsWith "..." (tidy raw) = true := by
  obtain ⟨front, h_chars⟩ := Text.endsWith_iff.1 h
  have h_dots : ∀ last gap, tidyFrom last gap "...".toList = "...".toList := by
    have h_blank : Text.isBlank '.' = false := by decide
    have h_name : isNameChar '.' = false := by decide
    simp [tidyFrom, tidyChar, h_blank, h_name]
  obtain ⟨last, gap, h_append⟩ := tidyFrom_append none false front "...".toList
  refine Text.endsWith_iff.2 ⟨tidyFrom none false front, ?_⟩
  simp only [tidy, String.toList_ofList, ← h_chars, h_append, h_dots]

/-- An ellipsis at the end of a text belongs to its suffix. -/
theorem endsWith_split {s : String} (h : Text.endsWith "..." s = true) :
    Text.endsWith "..." (split s).2 = true := by
  obtain ⟨front, h_chars⟩ := Text.endsWith_iff.1 h
  obtain ⟨h_parts, -, -⟩ := splitChars_spec s.toList
  obtain ⟨rest, h_front⟩ : (splitChars s.toList).1 <+: front := by
    rw [← h_chars]
    exact splitChars_isPrefix rfl
  have h_suffix : rest ++ "...".toList = (splitChars s.toList).2 := by
    refine (List.append_right_inj (splitChars s.toList).1).1 ?_
    rw [← List.append_assoc, h_front, h_chars, ← h_parts]
  refine Text.endsWith_iff.2 ⟨rest, h_suffix.trans ?_⟩
  simp [split]

/-- Behind the name of a text comes its suffix, up to blanks at the end of the name. -/
theorem endsPlainly_split {s : String} (h_head : ∀ c ∈ s.toList.head?, Text.isBlank c = false)
    (h : endsPlainly s = true) : endsPlainly ((split s).1 ++ (split s).2) = true := by
  obtain ⟨front, c, h_chars, h_c⟩ := endsPlainly_iff.1 h
  obtain ⟨h_parts, -, -⟩ := splitChars_spec s.toList
  rcases List.eq_nil_or_concat (splitChars s.toList).2 with h_suffix | ⟨before, d, h_suffix⟩
  · -- without a suffix the name is all of the text
    rw [h_suffix, List.append_nil] at h_parts
    have h_blank : Text.isBlank c = false := by
      simp only [isSegmentChar, Bool.and_eq_true, Bool.not_eq_true'] at h_c
      exact h_c.1.1.1.1
    have h_trim : Text.trim s.toList = s.toList := by
      refine Text.trim_eq_self_iff.2 ⟨h_head, ?_⟩
      simpa [h_chars] using h_blank
    have h_whole : (split s).1 ++ (split s).2 = s := by
      rw [← String.toList_inj, String.toList_append, split]
      simp only [String.toList_ofList, h_suffix, ← h_parts, h_trim, List.append_nil]
    rwa [h_whole]
  · have h_last : d = c := by
      have h_ends := congrArg List.getLast? (h_parts.symm.trans h_chars)
      simpa [h_suffix] using h_ends
    refine endsPlainly_append _ (endsPlainly_iff.2 ⟨before, d, ?_, h_last ▸ h_c⟩)
    simp [split, h_suffix]

end TypeName

namespace ImportTable

variable {t : ImportTable} {raw : String}

/-- What the table has for a name ends in that name. -/
def EndsInKeys (t : ImportTable) : Prop :=
  ∀ simple found, t.lookup simple = some found → ∃ front, found = front ++ simple

/-- Qualifying puts something before the text, or before the rest of it that follows the first type. -/
theorem qualify_cases (t : ImportTable) (raw : String) :
    (∃ front, t.qualify raw = front ++ TypeName.tidy raw) ∨
      ∃ outer more found, (TypeName.split (TypeName.tidy raw)).1 = outer ++ more ∧
        t.lookup outer = some found ∧
        t.qualify raw = found ++ more ++ (TypeName.split (TypeName.tidy raw)).2 := by
  delta qualify
  dsimp only
  rcases t.qualifyParts_cases (TypeName.tidy raw) (TypeName.split (TypeName.tidy raw)).1
      (TypeName.split (TypeName.tidy raw)).2 with h_eq | ⟨-, -, package, -, h_eq⟩ |
        ⟨outer, more, found, h_name, -, h_found, h_eq⟩
  · exact .inl ⟨"", by rw [h_eq, String.empty_append]⟩
  · exact .inl ⟨package ++ ".", h_eq⟩
  · exact .inr ⟨outer, more, found, h_name, h_found, h_eq⟩

theorem endsPlainly_qualify (h_keys : t.EndsInKeys) (h : TypeName.endsPlainly raw = true) :
    TypeName.endsPlainly (t.qualify raw) = true := by
  have h_tidy := TypeName.endsPlainly_tidy h
  rcases t.qualify_cases raw with ⟨front, h_eq⟩ | ⟨outer, more, found, h_name, h_found, h_eq⟩
  · rw [h_eq]
    exact TypeName.endsPlainly_append front h_tidy
  · have h_head : ∀ c ∈ (TypeName.tidy raw).toList.head?, Text.isBlank c = false := by
      rw [TypeName.tidy, String.toList_ofList]
      exact TypeName.head_tidyFrom_none false raw.toList
    have h_split := TypeName.endsPlainly_split h_head h_tidy
    obtain ⟨front, rfl⟩ := h_keys outer found h_found
    rw [h_name] at h_split
    rw [h_eq, String.append_assoc, String.append_assoc, ← @String.append_assoc outer]
    exact TypeName.endsPlainly_append front h_split

theorem endsWith_qualify (t : ImportTable) (h : Text.endsWith "..." raw = true) :
    Text.endsWith "..." (t.qualify raw) = true := by
  have h_tidy := TypeName.endsWith_tidy h
  rcases t.qualify_cases raw with ⟨front, h_eq⟩ | ⟨outer, more, found, -, -, h_eq⟩
  · rw [h_eq]
    exact TypeName.endsWith_append front h_tidy
  · rw [h_eq]
    exact TypeName.endsWith_append _ (TypeName.endsWith_split h_tidy)

/-- An import brings in the last name of its path, and a nested type is stored by its own name. -/
theorem endsInKeys_of_parse {path source : String} {u : CompilationUnit}
    (h_parse : CompilationUnit.parse path source = .ok u) : (ofUnit u).EndsInKeys := by
  intro simple found h_found
  rw [lookup_ofUnit, Option.or_eq_some_iff] at h_found
  rcases h_found with h_import | ⟨-, h_nested⟩
  · obtain ⟨i, h_i, rfl⟩ := Option.map_eq_some_iff.1 h_import
    have h_brings := List.find?_some h_i
    simp only [Import.brings, Bool.and_eq_true, beq_iff_eq] at h_brings
    rw [← h_brings.2]
    exact Text.exists_append_afterLast '.' i.path
  · obtain ⟨d, h_d, rfl⟩ := Option.map_eq_some_iff.1 h_nested
    have h_name := List.find?_some h_d
    simp only [Bool.and_eq_true, beq_iff_eq] at h_name
    obtain ⟨_, _, -, _, outer, head, members, -, h_head, rfl, -⟩ :=
      CompilationUnit.exists_typeAt_of_parse h_parse (List.mem_of_find?_eq_some h_d)
    have h_path : (Tree.withMembers head members).qualifiedName = Tree.nestedName outer simple :=
      (Tree.qualifiedName_of_header? h_head).trans (congrArg _ h_name.2)
    obtain ⟨front, h_front⟩ : ∃ front, Tree.nestedName outer simple = front ++ simple := by
      cases outer with
      | none => exact ⟨"", String.empty_append.symm⟩
      | some outer => exact ⟨outer ++ ".", rfl⟩
    rw [h_path, h_front]
    rcases (ofUnit u).inPackage_cases (front ++ simple) with ⟨-, h_eq⟩ | ⟨package, -, h_eq⟩
    · exact ⟨front, h_eq⟩
    · exact ⟨package ++ "." ++ front, by rw [h_eq, @String.append_assoc (package ++ ".")]⟩

end ImportTable

namespace Java

theorem IsWord.endsPlainly {name : String} (h : IsWord name) : TypeName.endsPlainly name = true := by
  obtain ⟨front, c, h_last⟩ := (List.eq_nil_or_concat name.toList).resolve_left
    (mt String.toList_eq_nil_iff.1 h.ne_empty)
  have h_mem : c ∈ name.toList := by simp [h_last]
  have h_divider := h.notMem_dividers c h_mem
  refine TypeName.endsPlainly_iff.2 ⟨front, c, by simpa using h_last,
    isSegmentChar_of_notMem_dividers h_divider, ?_⟩
  rintro rfl
  exact h.notMem_dot h_mem

/-! ## Ends of trees -/

namespace Tree

/-- The last token of the tree ends in a name or in a closing bracket. -/
def EndsPlainly (t : Tree) : Prop :=
  ∃ token, t.tokens.getLast? = some token ∧ TypeName.endsPlainly token.text = true

theorem tokensList_append (as bs : List Tree) : tokensList (as ++ bs) = tokensList as ++ tokensList bs := by
  induction as with
  | nil => rfl
  | cons a as ih => rw [List.cons_append, tokensList, tokensList, ih, List.append_assoc]

theorem endsPlainly_node {r : Role} {kind : Kind} {cs : List Tree} {last : Tree}
    (h_last : cs.getLast? = some last) (h : last.EndsPlainly) : EndsPlainly (.node r kind cs) := by
  obtain ⟨front, rfl⟩ := List.getLast?_eq_some_iff.1 h_last
  obtain ⟨token, h_token, h_ends⟩ := h
  refine ⟨token, ?_, h_ends⟩
  rw [tokens, tokensList_append, tokensList, tokensList, List.append_nil, List.getLast?_append, h_token]
  rfl

theorem EndsPlainly.withRole {t : Tree} (h : t.EndsPlainly) (r : Role) : (t.withRole r).EndsPlainly := by
  cases t <;> exact h

/-- A text ends with its last token. -/
theorem EndsPlainly.endsPlainly_text {t : Tree} (h : t.EndsPlainly) : TypeName.endsPlainly t.text = true := by
  obtain ⟨token, h_token, h_ends⟩ := h
  obtain ⟨front, h_tokens⟩ := List.getLast?_eq_some_iff.1 h_token
  rw [text, h_tokens]
  cases front with
  | nil => exact h_ends
  | cons first rest =>
    simp only [List.cons_append, List.foldl_append, List.foldl_cons, List.foldl_nil]
    exact TypeName.endsPlainly_append _ h_ends

end Tree

/-! ## Ends in patterns -/

def Terminal.endsPlainly : Terminal → Bool
  | .spelled texts => texts.all TypeName.endsPlainly
  | .word _ => true
  | .form _ => false

namespace Pattern

variable {ρ : Type}

/-- Does the last tree that the pattern gives end in a name or a closing bracket, given the rules of which
this is known? With `orEmpty` it may also give none. -/
def endsPlainly (plain : ρ → Bool) (orEmpty : Bool) : Pattern ρ → Bool
  | .empty => orEmpty
  | .token terminal _ => terminal.endsPlainly
  | .glued _ => false
  | .seq p q => q.endsPlainly plain false || (q.endsPlainly plain true && p.endsPlainly plain orEmpty)
  | .alt p q => p.endsPlainly plain orEmpty && q.endsPlainly plain orEmpty
  | .many p => orEmpty && p.endsPlainly plain false
  | .node _ p => p.endsPlainly plain false
  | .role _ p => p.endsPlainly plain orEmpty
  | .rule name => plain name
  | .excluding _ p => p.endsPlainly plain orEmpty
  | .ahead _ => orEmpty
  | .only _ p => p.endsPlainly plain orEmpty
  | .grow base step => base.endsPlainly plain false && step.endsPlainly plain false
  | .after _ _ _ tail => tail.endsPlainly plain false

/-- Do all trees that the pattern gives, comments aside, end in a name or a closing bracket? -/
def allPlain (plain : ρ → Bool) : Pattern ρ → Bool
  | .empty => true
  | .token terminal _ => terminal.endsPlainly
  | .glued _ => false
  | .seq p q => p.allPlain plain && q.allPlain plain
  | .alt p q => p.allPlain plain && q.allPlain plain
  | .many p => p.allPlain plain
  | .node _ p => p.endsPlainly plain false
  | .role _ p => p.allPlain plain
  | .rule name => plain name
  | .excluding _ p => p.allPlain plain
  | .ahead _ => true
  | .only _ p => p.allPlain plain
  | .grow base step => base.allPlain plain && step.allPlain plain
  | .after _ _ _ tail => tail.endsPlainly plain false

/-- The last tree of a list ends plainly; only a list that may be empty can lack it. -/
inductive LastPlain : Bool → List Tree → Prop where
  | nil : LastPlain true []
  | concat {orEmpty front t} (h : t.EndsPlainly) : LastPlain orEmpty (front ++ [t])

theorem LastPlain.singleton {orEmpty : Bool} {t : Tree} (h : t.EndsPlainly) : LastPlain orEmpty [t] :=
  @LastPlain.concat orEmpty [] t h

theorem LastPlain.exists_concat {trees : List Tree} (h : LastPlain false trees) :
    ∃ front last, trees = front ++ [last] ∧ last.EndsPlainly := by
  cases h with
  | concat h => exact ⟨_, _, rfl, h⟩

theorem LastPlain.append_left {more : List Tree} (h : LastPlain false more) (orEmpty : Bool)
    (trees : List Tree) : LastPlain orEmpty (trees ++ more) := by
  obtain ⟨front, last, rfl, h_last⟩ := h.exists_concat
  rw [← List.append_assoc]
  exact .concat h_last

theorem LastPlain.append {orEmpty : Bool} {trees more : List Tree} (h : LastPlain orEmpty trees)
    (h_more : LastPlain true more) : LastPlain orEmpty (trees ++ more) := by
  cases h_more with
  | nil => rwa [List.append_nil]
  | concat h_last =>
    rw [← List.append_assoc]
    exact .concat h_last

theorem LastPlain.endsPlainly {orEmpty : Bool} {front : List Tree} {t : Tree}
    (h : LastPlain orEmpty (front ++ [t])) : t.EndsPlainly := by
  generalize h_trees : front ++ [t] = trees at h
  cases h with
  | nil => simp at h_trees
  | concat h_last =>
    obtain ⟨-, h_t⟩ := List.append_inj' h_trees rfl
    cases h_t
    exact h_last

theorem LastPlain.node {trees parts : List Tree} (h : LastPlain false (trees ++ parts))
    (h_parts : parts ≠ []) (r : Role) (kind : Kind) : (Tree.node r kind parts).EndsPlainly := by
  obtain ⟨front, last, rfl⟩ := (List.eq_nil_or_concat parts).resolve_left h_parts
  rw [List.concat_eq_append] at h ⊢
  rw [← List.append_assoc] at h
  exact Tree.endsPlainly_node List.getLast?_concat h.endsPlainly

variable {rules : ρ → Pattern ρ} {toks : Array Token} {plain : ρ → Bool}

theorem endsPlainly_of_accepts {terminal : Terminal} {token : Token} {kind : Kind}
    (h_word : token.form = .word → TypeName.endsPlainly token.text = true)
    (h_accepts : terminal.accepts token = true) (h : terminal.endsPlainly = true) :
    (Tree.leaf .none kind token).EndsPlainly := by
  refine ⟨token, rfl, ?_⟩
  cases terminal with
  | spelled texts =>
    simp only [Terminal.accepts, Bool.and_eq_true, List.contains_iff_mem] at h_accepts
    exact List.all_eq_true.1 h _ h_accepts.2
  | word keywords =>
    simp only [Terminal.accepts, Bool.and_eq_true, beq_iff_eq] at h_accepts
    exact h_word h_accepts.1
  | form f => cases h

/-- The last tree that a checked pattern gives ends plainly. -/
theorem Gives.lastPlain
    (h_toks : ∀ t ∈ toks, t.form = .word → TypeName.endsPlainly t.text = true)
    (h_rules : ∀ name, plain name = true → (rules name).endsPlainly plain false = true)
    {p : Pattern ρ} {left : Option Tree} {trees : List Tree} (h : Gives rules toks p left trees)
    {orEmpty : Bool} (h_ends : p.endsPlainly plain orEmpty = true)
    (h_left : ∀ t ∈ left, t.EndsPlainly) : LastPlain orEmpty trees := by
  induction h generalizing orEmpty with
  | empty =>
    rw [show orEmpty = true from h_ends]
    exact .nil
  | token h_lead h_mem h_accepts =>
    exact .concat (endsPlainly_of_accepts (h_toks _ h_mem) h_accepts h_ends)
  | glued => cases h_ends
  | seq h_first h_second ih_first ih_second =>
    rw [endsPlainly, Bool.or_eq_true, Bool.and_eq_true] at h_ends
    rcases h_ends with h_ends | ⟨h_second, h_first⟩
    · exact (ih_second h_ends (by simp)).append_left _ _
    · exact (ih_first h_first (by simp)).append (ih_second h_second (by simp))
  | altFirst h ih =>
    rw [endsPlainly, Bool.and_eq_true] at h_ends
    exact ih h_ends.1 h_left
  | altSecond h ih =>
    rw [endsPlainly, Bool.and_eq_true] at h_ends
    exact ih h_ends.2 h_left
  | manyStop =>
    rw [endsPlainly, Bool.and_eq_true] at h_ends
    rw [h_ends.1]
    exact .nil
  | manyLast h ih =>
    rw [endsPlainly, Bool.and_eq_true] at h_ends
    exact (ih h_ends.2 (by simp)).append_left _ []
  | manyMore h_first h_rest ih_first ih_rest =>
    -- the rest may be empty, but then the first one is the last
    have h_more := ih_rest h_ends (by simp)
    rw [endsPlainly, Bool.and_eq_true] at h_ends
    rw [h_ends.1] at h_more
    exact ((ih_first h_ends.2 (by simp)).append_left _ []).append h_more
  | node h h_lead h_parts ih => exact .concat ((ih h_ends (by simp)).node h_parts _ _)
  | nodeEmpty h h_lead ih => exact (ih h_ends (by simp)).append_left _ []
  | role h ih =>
    cases ih h_ends (by simp) with
    | nil => exact .nil
    | concat h_last =>
      rw [List.map_append, List.map_singleton]
      refine .concat ?_
      split
      · exact h_last
      · exact h_last.withRole _
  | rule h ih =>
    -- a rule never gives nothing, whatever is asked of the pattern
    exact (ih (h_rules _ h_ends) h_left).append_left _ []
  | excluding h ih => exact ih h_ends h_left
  | ahead =>
    rw [show orEmpty = true from h_ends]
    exact .nil
  | only h ih => exact ih h_ends (by simp)
  | growBase h ih =>
    rw [endsPlainly, Bool.and_eq_true] at h_ends
    exact (ih h_ends.1 (by simp)).append_left _ []
  | growFrom h_base h_rest ih_base ih_rest =>
    -- the comments before the tree that is built on come first, so the end is that of what is built
    have h_both := h_ends
    rw [endsPlainly, Bool.and_eq_true] at h_both
    have h_tree := (ih_base h_both.1 (by simp)).endsPlainly
    have h_grown : LastPlain false _ := ih_rest h_ends (by simpa using h_tree)
    exact h_grown.append_left _ _
  | growStop => exact .singleton (h_left _ rfl)
  | growStep h_step h_rest ih_step ih_rest =>
    have h_both := h_ends
    rw [endsPlainly, Bool.and_eq_true] at h_both
    have h_grown := @LastPlain.endsPlainly _ [] _ (ih_step h_both.2 h_left)
    exact ih_rest h_ends (by simpa using h_grown)
  | @after kinds r kind tail tree trees h ih =>
    obtain ⟨front, last, rfl, h_last⟩ := (ih h_ends (by simp)).exists_concat
    refine .singleton (Tree.endsPlainly_node ?_ h_last)
    rw [← List.cons_append, List.getLast?_concat]

/-- The tree ends plainly if it is no comment. -/
def Plain (t : Tree) : Prop := t.isComment = true ∨ t.EndsPlainly

/-- All trees that a checked pattern gives end plainly, comments aside. -/
theorem Gives.allPlain
    (h_toks : ∀ t ∈ toks, t.form = .word → TypeName.endsPlainly t.text = true)
    (h_rules : ∀ name, plain name = true → (rules name).endsPlainly plain false = true ∧
      (rules name).allPlain plain = true)
    {p : Pattern ρ} {left : Option Tree} {trees : List Tree} (h : Gives rules toks p left trees)
    (h_all : p.allPlain plain = true) (h_left : ∀ t ∈ left, Plain t) : ∀ t ∈ trees, Plain t := by
  have h_last {p : Pattern ρ} {trees : List Tree} (h : Gives rules toks p none trees)
      (h_ends : p.endsPlainly plain false = true) : LastPlain false trees :=
    h.lastPlain h_toks (fun name h_name => (h_rules name h_name).1) h_ends (by simp)
  induction h with
  | empty => simp
  | token h_lead h_mem h_accepts =>
    simp only [List.forall_mem_append, List.forall_mem_singleton]
    refine ⟨fun c h_c => ?_, .inr (endsPlainly_of_accepts (h_toks _ h_mem) h_accepts h_all)⟩
    obtain ⟨-, -, -, h_comment⟩ := h_lead c h_c
    exact .inl h_comment
  | glued => cases h_all
  | seq h_first h_second ih_first ih_second =>
    rw [Pattern.allPlain, Bool.and_eq_true] at h_all
    rw [List.forall_mem_append]
    exact ⟨ih_first h_all.1 (by simp), ih_second h_all.2 (by simp)⟩
  | altFirst h ih =>
    rw [Pattern.allPlain, Bool.and_eq_true] at h_all
    exact ih h_all.1 h_left
  | altSecond h ih =>
    rw [Pattern.allPlain, Bool.and_eq_true] at h_all
    exact ih h_all.2 h_left
  | manyStop => simp
  | manyLast h ih => exact ih h_all (by simp)
  | manyMore h_first h_rest ih_first ih_rest =>
    rw [List.forall_mem_append]
    exact ⟨ih_first h_all (by simp), ih_rest h_all (by simp)⟩
  | node h h_lead h_parts ih =>
    simp only [List.forall_mem_append, List.forall_mem_singleton]
    exact ⟨fun c h_c => .inl (h_lead c h_c), .inr ((h_last h h_all).node h_parts _ _)⟩
  | nodeEmpty h h_lead ih => exact fun c h_c => .inl (h_lead c h_c)
  | role h ih =>
    simp only [List.forall_mem_map]
    intro t h_t
    split
    · rename_i h_comment
      exact .inl h_comment
    · rename_i h_comment
      exact .inr (((ih h_all (by simp) t h_t).resolve_left h_comment).withRole _)
  | rule h ih => exact ih (h_rules _ h_all).2 h_left
  | excluding h ih => exact ih h_all h_left
  | ahead => simp
  | only h ih => exact ih h_all (by simp)
  | growBase h ih =>
    rw [Pattern.allPlain, Bool.and_eq_true] at h_all
    exact ih h_all.1 (by simp)
  | growFrom h_base h_rest ih_base ih_rest =>
    have h_both := h_all
    rw [Pattern.allPlain, Bool.and_eq_true] at h_both
    have h_trees := ih_base h_both.1 (by simp)
    simp only [List.forall_mem_append, List.forall_mem_singleton] at h_trees ⊢
    exact ⟨h_trees.1, ih_rest h_all (by simpa using h_trees.2)⟩
  | growStop => simpa using h_left
  | growStep h_step h_rest ih_step ih_rest =>
    have h_both := h_all
    rw [Pattern.allPlain, Bool.and_eq_true] at h_both
    exact ih_rest h_all (by simpa using ih_step h_both.2 h_left)
  | after h ih =>
    obtain ⟨front, last, rfl, h_ends⟩ := (h_last h h_all).exists_concat
    rw [List.forall_mem_singleton]
    refine .inr (Tree.endsPlainly_node ?_ h_ends)
    rw [← List.cons_append, List.getLast?_concat]

end Pattern

def Rule.isType : Rule → Bool
  | .unannotatedType | .simpleType | .typeArguments | .dimensions => true
  | _ => false

theorem plain_of_isType {r : Rule} (h : r.isType = true) :
    (grammar r).endsPlainly Rule.isType false = true ∧ (grammar r).allPlain Rule.isType = true := by
  cases r with
  | unannotatedType => exact ⟨rfl, rfl⟩
  | simpleType => exact ⟨rfl, rfl⟩
  | typeArguments => exact ⟨rfl, rfl⟩
  | dimensions => exact ⟨rfl, rfl⟩
  | _ => cases h

/-- The type of a parameter and the brackets behind its name end plainly. -/
def typesPlain (r : Role) (p : JavaPattern) : Bool :=
  !(r == .type || r == .dimensions) || p.allPlain Rule.isType

def takesOne (kind : Kind) : Bool := kind == .formalParameter

theorem plain_grammar (r : Rule) :
    (grammar r).nodesAll takesOne typesPlain = true ∧ (grammar r).rolesAll typesPlain = true := by
  cases r with
  | level lambdas depth =>
    simp only [grammar, Grammar.level]
    split
    · exact ⟨rfl, rfl⟩
    · split
      · split <;>
          simp [Pattern.nodesAll, Pattern.rolesAll, nodesAll_operators, Grammar.ref, Pattern.seqs,
            Grammar.tok, Pattern.opt, Grammar.ident, takesOne]
      · exact ⟨rfl, rfl⟩
  | statement inSwitch => cases inSwitch <;> exact ⟨rfl, rfl⟩
  | operand lambdas => cases lambdas <;> exact ⟨rfl, rfl⟩
  | _ => exact ⟨rfl, rfl⟩

/-! ## Parameters in units -/

namespace Tree

/-- If the tree plays the part of a type or of brackets, it ends plainly. -/
def TypeEnds (t : Tree) : Prop := t.role = .type ∨ t.role = .dimensions → t.EndsPlainly

theorem checks_typesPlain (source : String) :
    Pattern.Checks grammar (Token.tokens source).toArray typesPlain TypeEnds where
  plain h h_role := by simp [h] at h_role
  role := by
    intro r p trees t h h_check h_mem h_comment h_role
    have h_same : (t.withRole r).role = r := by cases t <;> rfl
    rw [h_same] at h_role
    have h_all : p.allPlain Rule.isType = true := by
      rcases h_role with rfl | rfl <;> simpa [typesPlain] using h_check
    have h_words : ∀ t ∈ (Token.tokens source).toArray, t.form = .word →
        TypeName.endsPlainly t.text = true :=
      fun t h_t h_form => (Token.isWord_of_mem_tokens (by simpa using h_t) h_form).endsPlainly
    have h_plain := h.allPlain h_words (fun _ => plain_of_isType) h_all (by simp) t h_mem
    exact (h_plain.resolve_left (by simp [h_comment])).withRole r

theorem typeEnds_of_ofSource {source : String} {t : Tree} (h : ofSource source = .ok t) :
    Formed takesOne TypeEnds t :=
  formed_of_ofSource rfl (checks_typesPlain source) plain_grammar h

/-- The text of a parameter's type shows whether it takes many arguments. -/
theorem type_of_param? {t : Tree} {p : Param} (h : Formed takesOne TypeEnds t) (h_param : t.param? = some p) :
    if p.varargs then Text.endsWith "..." p.type = true else TypeName.endsPlainly p.type = true := by
  unfold param? at h_param
  split at h_param
  · rename_i h_kind
    obtain ⟨type, h_type, h_param⟩ := Option.bind_eq_some_iff.1 h_param
    obtain ⟨name, -, h_param⟩ := Option.bind_eq_some_iff.1 h_param
    cases h_param
    have h_part {r : Role} {text : String} (h_text : t.partText? r = some text)
        (h_role : r = .type ∨ r = .dimensions) : TypeName.endsPlainly text = true := by
      obtain ⟨c, h_c, rfl⟩ := Option.map_eq_some_iff.1 h_text
      obtain ⟨h_ends, rfl⟩ := h.part? (by rw [h_kind]; rfl) h_c
      exact (h_ends h_role).endsPlainly_text
    change TypeName.endsPlainly (typeWithDimensions type t) = true
    unfold typeWithDimensions
    cases h_dims : t.partText? .dimensions with
    | none => exact (String.append_empty (s := type)).symm ▸ h_part h_type (.inl rfl)
    | some dims => exact TypeName.endsPlainly_append type (h_part h_dims (.inr rfl))
  · obtain ⟨type, -, h_param⟩ := Option.bind_eq_some_iff.1 h_param
    obtain ⟨declarator, -, h_param⟩ := Option.bind_eq_some_iff.1 h_param
    obtain ⟨name, -, h_param⟩ := Option.bind_eq_some_iff.1 h_param
    cases h_param
    exact TypeName.endsWith_append type.text (by decide)
  · cases h_param

theorem exists_param_node {t : Tree} {p : Param} (h : p ∈ t.params) :
    ∃ list ∈ t.children, ∃ c ∈ list.children, c.param? = some p := by
  unfold params at h
  split at h
  · rename_i list h_list
    obtain ⟨c, h_c, h_param⟩ := List.mem_filterMap.1 h
    exact ⟨list, List.mem_of_find?_eq_some h_list, c, (List.mem_filter.1 h_c).1, h_param⟩
  · cases h

end Tree

/-- A method takes many arguments exactly if the qualified type of its last parameter ends in an
ellipsis. -/
def CompilationUnit.MarksVarargs (u : CompilationUnit) : Prop :=
  ∀ d ∈ u.allTypes, ∀ m ∈ d.callables,
    (m.isVarargs = true ↔
      ((ImportTable.ofUnit u).paramTypes m).getLast?.any (Text.endsWith "...") = true)

instance (u : CompilationUnit) : Decidable u.MarksVarargs :=
  inferInstanceAs (Decidable (∀ d ∈ _, _))

/-- In a unit that is read from a text, the types of parameters tell which methods take many arguments. -/
theorem CompilationUnit.marksVarargs_of_parse {path source : String} {u : CompilationUnit}
    (h : parse path source = .ok u) : u.MarksVarargs := by
  intro d h_d m h_m
  obtain ⟨root, position, t, found, h_tree, h_node, rfl⟩ :=
    exists_method_node_of_parse h h_d (List.mem_filter.1 h_m).1
  have h_formed := (Tree.typeEnds_of_ofSource h_tree).nodeAt? h_node
  rw [Method.isVarargs, ImportTable.paramTypes, List.getLast?_map]
  change t.params.getLast?.any (·.varargs) = true ↔ _
  cases h_last : t.params.getLast? with
  | none => simp [Tree.methodWith, h_last]
  | some p =>
    obtain ⟨list, h_list, c, h_c, h_param⟩ := Tree.exists_param_node (List.mem_of_getLast? h_last)
    have h_type := Tree.type_of_param? ((h_formed.child h_list).child h_c) h_param
    simp only [Tree.methodWith, h_last, Option.map_some, Option.any_some]
    cases h_varargs : p.varargs with
    | true =>
      rw [h_varargs, if_pos rfl] at h_type
      simp [ImportTable.endsWith_qualify _ h_type]
    | false =>
      rw [h_varargs, if_neg Bool.false_ne_true] at h_type
      have h_plain := ImportTable.endsPlainly_qualify (ImportTable.endsInKeys_of_parse h) h_type
      simp [TypeName.endsWith_of_endsPlainly h_plain]

end Java

end JavaCallGraph
