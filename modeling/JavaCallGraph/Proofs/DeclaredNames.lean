import JavaCallGraph.Java.Parse
import JavaCallGraph.Proofs.ImportTable
import JavaCallGraph.Proofs.Reading
import JavaCallGraph.Proofs.Sites

/-!
# Names of declared types and methods

Whatever a text is, a type or a method that is read from it is named by one of its words. A check on
patterns finds that the grammar puts nothing but words in the place of such a name; the rest follows the
name from the tokens through the trees to the declarations of a unit.

* `Token.isWord_of_mem_tokens` — the characters of a word.
* `IsWord.isDotted`, `IsWord.isKept_eq` — words as texts of types.
* `words_grammar` — the grammar passes the check.
* `Tree.formed_of_ofSource` — what a check of the grammar says about the tree of a text.
* `CompilationUnit.isWord_of_parse`, `CompilationUnit.isWord_method_of_parse` — the types and methods of
  a unit are named by words.
-/

namespace JavaCallGraph.Java

/-! ## Words -/

/-- A text that starts and goes on like a name of the language. -/
def IsWord (s : String) : Prop :=
  ∃ c cs, s.toList = c :: cs ∧ Text.startsIdentifier c = true ∧
    ∀ d ∈ cs, Text.continuesIdentifier d = true

namespace Token

theorem isWord_of_word {cs : List Char} {n : Nat} (h : word cs = some n) :
    IsWord (String.ofList (cs.take n)) := by
  cases cs with
  | nil => cases h
  | cons c cs =>
    rw [word] at h
    split at h
    · rename_i h_start
      cases h
      refine ⟨c, cs.takeWhile Text.continuesIdentifier, ?_, h_start, ?_⟩
      · have h_take : cs.takeWhile Text.continuesIdentifier = cs.take _ :=
          List.prefix_iff_eq_take.1 (List.takeWhile_prefix _)
        rw [String.toList_ofList, List.take_succ_cons, ← h_take]
      · exact List.all_eq_true.1 List.all_takeWhile
    · cases h

theorem stringPart_ne_word (first block : Bool) (skip : Nat) (around : List Embedding) (cs : List Char) :
    (stringPart first block skip around cs).1 ≠ .word := by
  have h_form : ∀ stop, stringForm first stop ≠ .word := by
    intro stop
    cases first <;> cases stop <;> decide
  exact h_form _

theorem number_ne_word {cs : List Char} {found : Form × Nat} (h : number cs = some found) :
    found.1 ≠ .word := by
  unfold number at h
  split at h
  · split at h <;> cases h <;> simp
  · cases h
    simp
  · cases h
    simp
  · cases h

theorem word_of_next {around around' : List Embedding} {cs : List Char} {n : Nat}
    (h : next around cs = (.word, n, around')) : word cs = some n := by
  unfold next at h
  split at h
  · cases h
  · exact absurd (congrArg Prod.fst h) (stringPart_ne_word _ _ _ _ _)
  · exact absurd (congrArg Prod.fst h) (stringPart_ne_word _ _ _ _ _)
  · split at h
    · cases h
    · split at h
      · exact absurd (congrArg Prod.fst h) (stringPart_ne_word _ _ _ _ _)
      · simp only at h
        split at h
        · rename_i h_word
          cases h
          exact h_word
        · split at h
          · rename_i h_number
            cases h
            exact absurd rfl (number_ne_word h_number)
          · split at h
            · cases h
            · split at h <;> cases h
  · cases h

theorem isWord_of_mem_scan {fuel line : Nat} {around : List Embedding} {cs : List Char} {t : Token}
    (h_mem : t ∈ scan fuel around line cs) (h_form : t.form = .word) : IsWord t.text := by
  induction fuel generalizing around line cs with
  | zero => cases h_mem
  | succ fuel ih =>
    rw [scan] at h_mem
    split at h_mem
    · rw [List.mem_singleton] at h_mem
      subst h_mem
      cases h_form
    · rename_i c rest h_rest
      rcases List.mem_cons.1 h_mem with rfl | h_mem
      · exact isWord_of_word (word_of_next (Prod.ext h_form rfl))
      · exact ih h_mem

theorem isWord_of_mem_tokens {source : String} {t : Token} (h_mem : t ∈ tokens source)
    (h_form : t.form = .word) : IsWord t.text := isWord_of_mem_scan h_mem h_form

end Token

/-! ## Characters of words -/

/-- The code points that divide the names in the text of a type or a signature. -/
def dividers : List Nat :=
  List.range' 9 5 ++ [0x20, 0x85, 0xA0, 0x1680] ++ List.range' 0x2000 11 ++
    [0x2028, 0x2029, 0x202F, 0x205F, 0x3000] ++ ".,<[?(".toList.map Char.toNat

theorem toNat_notMem_dividers {c : Char}
    (h : Text.startsIdentifier c = true ∨ Text.continuesIdentifier c = true) : c.toNat ∉ dividers := by
  have h_none : ∀ n ∈ dividers, Text.startsIdentifier (Char.ofNat n) = false ∧
      Text.continuesIdentifier (Char.ofNat n) = false := by decide +kernel
  intro h_mem
  have h_char := h_none c.toNat h_mem
  rw [Char.ofNat_toNat] at h_char
  simp [h_char.1, h_char.2] at h

theorem mem_dividers_of_isBlank {c : Char} (h : Text.isBlank c = true) : c.toNat ∈ dividers := by
  simp only [Text.isBlank, Bool.or_eq_true, Bool.and_eq_true, decide_eq_true_eq, beq_iff_eq] at h
  simp only [dividers, List.mem_append, List.mem_cons, List.mem_range'_1]
  omega

theorem isSegmentChar_of_notMem_dividers {c : Char} (h : c.toNat ∉ dividers) :
    TypeName.isSegmentChar c = true := by
  have h_ne (mark : Char) (h_mark : mark.toNat ∈ dividers) : c ≠ mark := by
    rintro rfl
    exact h h_mark
  have h_blank : Text.isBlank c = false := by
    by_contra h_blank
    exact h (mem_dividers_of_isBlank (by simpa using h_blank))
  simp [TypeName.isSegmentChar, h_blank, h_ne ',' (by decide +kernel), h_ne '<' (by decide +kernel),
    h_ne '[' (by decide +kernel)]

namespace IsWord

variable {name : String}

theorem notMem_dividers (h : IsWord name) : ∀ c ∈ name.toList, c.toNat ∉ dividers := by
  obtain ⟨first, rest, h_chars, h_first, h_rest⟩ := h
  intro c h_mem
  rw [h_chars, List.mem_cons] at h_mem
  rcases h_mem with rfl | h_mem
  · exact toNat_notMem_dividers (.inl h_first)
  · exact toNat_notMem_dividers (.inr (h_rest c h_mem))

theorem ne_empty (h : IsWord name) : name ≠ "" := by
  rintro rfl
  obtain ⟨c, cs, h_chars, -⟩ := h
  cases h_chars

theorem notMem_dot (h : IsWord name) : '.' ∉ name.toList := fun h_mem =>
  h.notMem_dividers '.' h_mem (by decide +kernel)

theorem notMem_paren (h : IsWord name) : '(' ∉ name.toList := fun h_mem =>
  h.notMem_dividers '(' h_mem (by decide +kernel)

theorem isDotted (h : IsWord name) : TypeName.IsDotted name := by
  intro segment h_mem
  rw [Text.split, Text.splitChars_of_notMem h.notMem_dot, List.map_singleton, String.ofList_toList,
    List.mem_singleton] at h_mem
  subst h_mem
  refine ⟨h.ne_empty, ?_⟩
  rw [List.all_eq_true]
  intro c h_mem
  exact isSegmentChar_of_notMem_dividers (h.notMem_dividers c h_mem)

/-- Of the words only the names of primitive types are kept when types are qualified. -/
theorem isKept_eq (h : IsWord name) : ImportTable.isKept name = TypeName.isPrimitive name := by
  have h_wildcard : Text.startsWith "?" name = false := by
    by_contra h_wildcard
    obtain ⟨rest, h_rest⟩ := Text.startsWith_iff.1 (by simpa using h_wildcard)
    have h_mem : '?' ∈ name.toList := by simp [← h_rest]
    exact h.notMem_dividers '?' h_mem (by decide +kernel)
  have h_empty : name.isEmpty = false := by
    rw [Bool.eq_false_iff, Ne, String.isEmpty_iff]
    exact h.ne_empty
  simp [ImportTable.isKept, h_empty, h_wildcard]

end IsWord

/-! ## Names in patterns and trees -/

def declaresName (kind : Kind) : Bool := (Tree.typeKind? kind).isSome || kind == .methodDeclaration

namespace Pattern

variable {ρ : Type} {rules : ρ → Pattern ρ} {toks : Array Token}

def isWord : Pattern ρ → Bool
  | .token (.word _) _ => true
  | _ => false

/-- A name is read as a single word. -/
def namesWord (r : Role) (p : Pattern ρ) : Bool := r != .name || p.isWord

theorem Gives.word {p : Pattern ρ} {left : Option Tree} {trees : List Tree}
    (h : Gives rules toks p left trees) (h_word : p.isWord = true) :
    ∀ t ∈ trees, t.isComment = true ∨
      ∃ kind token, t = .leaf .none kind token ∧ token ∈ toks ∧ token.form = .word := by
  cases h with
  | @token terminal kind left lead token h_lead h_mem h_accepts =>
    cases terminal with
    | word keywords =>
      intro t h_t
      rcases List.mem_append.1 h_t with h_t | h_t
      · obtain ⟨-, -, -, h_comment⟩ := h_lead t h_t
        exact .inl h_comment
      · have h_form : token.form = .word := by
          simp only [Terminal.accepts, Bool.and_eq_true, beq_iff_eq] at h_accepts
          exact h_accepts.1
        exact .inr ⟨kind, token, List.mem_singleton.1 h_t, h_mem, h_form⟩
    | spelled texts => cases h_word
    | form f => cases h_word
  | _ => cases h_word

end Pattern

/-- If the tree plays the part of a name, it is a single word of the text. -/
def Tree.NamedByWord (toks : Array Token) (t : Tree) : Prop :=
  t.role = .name → ∃ kind token, t = .leaf .name kind token ∧ token ∈ toks ∧ token.form = .word

theorem Pattern.checks_namesWord {ρ : Type} (rules : ρ → Pattern ρ) (toks : Array Token) :
    Checks rules toks namesWord (Tree.NamedByWord toks) where
  plain h h_name := by
    rw [h] at h_name
    cases h_name
  role := by
    intro r p trees t h h_check h_mem h_comment h_name
    have h_role : r = .name := by
      rw [← h_name]
      cases t <;> rfl
    subst h_role
    rcases h.word (by simpa [namesWord] using h_check) t h_mem with h_t | ⟨kind, token, rfl, h_word⟩
    · rw [h_comment] at h_t
      cases h_t
    · exact ⟨kind, token, rfl, h_word⟩

/-- Operators are read as tokens. -/
theorem nodesAll_operators (marked : Kind → Bool) (check : Role → JavaPattern → Bool) (depth : Nat) :
    (Grammar.operators depth).nodesAll marked check = true := by
  unfold Grammar.operators
  split <;> rfl

/-- Whatever the grammar reads as a type or a method is named by a single word. -/
theorem words_grammar (r : Rule) : (grammar r).nodesAll declaresName Pattern.namesWord = true ∧
    (grammar r).rolesAll Pattern.namesWord = true := by
  cases r with
  | level lambdas depth =>
    simp only [grammar, Grammar.level]
    split
    · exact ⟨rfl, rfl⟩
    · split
      · split <;>
          simp [Pattern.nodesAll, Pattern.rolesAll, nodesAll_operators, Grammar.ref, Pattern.seqs,
            Grammar.tok, Pattern.opt, Grammar.ident, declaresName, Tree.typeKind?]
      · exact ⟨rfl, rfl⟩
  | statement inSwitch => cases inSwitch <;> exact ⟨rfl, rfl⟩
  | operand lambdas => cases lambdas <;> exact ⟨rfl, rfl⟩
  | _ => exact ⟨rfl, rfl⟩

/-! ## Names in units -/

namespace Tree

variable {marked : Kind → Bool} {Part : Tree → Prop} {source : String}

theorem Formed.nodeAt? {root t : Tree} {here : Position} (h : Formed marked Part root)
    (h_node : root.nodeAt? here = some t) : Formed marked Part t := by
  induction here generalizing root with
  | nil =>
    cases h_node
    exact h
  | cons i here ih =>
    obtain ⟨c, h_child, h_below⟩ := Option.bind_eq_some_iff.1 h_node
    exact ih (h.child (List.mem_of_getElem? h_child)) h_below

/-- The part of a node of a marked kind. -/
theorem Formed.part? {t c : Tree} {r : Role} (h : Formed marked Part t) (h_kind : marked t.kind = true)
    (h_part : t.part? r = some c) : Part c ∧ c.role = r :=
  ⟨h.part h_kind (List.mem_of_find?_eq_some h_part), by simpa using List.find?_some h_part⟩

theorem formed_of_ofSource {check : Role → JavaPattern → Bool} (h_unit : marked .unit = false)
    (h_checks : Pattern.Checks grammar (Token.tokens source).toArray check Part)
    (h_grammar : ∀ r, (grammar r).nodesAll marked check = true ∧ (grammar r).rolesAll check = true)
    {t : Tree} (h : ofSource source = .ok t) : Formed marked Part t := by
  unfold ofSource at h
  extract_lets toks at h
  generalize h_read : attempt toks = outcome at h
  obtain ⟨found, front⟩ := outcome
  cases found with
  | none => cases h
  | some found =>
    obtain ⟨trees, stop⟩ := found
    cases h
    rw [attempt] at h_read
    have h_given := (Pattern.gives_of_read h_read).formed h_checks h_grammar rfl (by simp)
    refine .node (fun c h_c => ?_) (by simp [h_unit])
    -- a unit in the unit is left out in favour of its parts
    obtain ⟨⟨start, whole⟩, h_whole, h_c⟩ := List.mem_flatMap.1 h_c
    have h_whole := (h_given.1 whole (List.mem_map_of_mem h_whole)).formed
    dsimp only at h_c
    split at h_c
    · exact h_whole.child h_c
    · rw [List.mem_singleton.1 h_c]
      exact h_whole

/-- Types and methods in the tree of a text are named by its words. -/
def DeclaresWords (source : String) : Tree → Prop :=
  Formed declaresName (NamedByWord (Token.tokens source).toArray)

theorem declaresWords_of_ofSource {t : Tree} (h : ofSource source = .ok t) : DeclaresWords source t :=
  formed_of_ofSource rfl (Pattern.checks_namesWord _ _) words_grammar h

theorem isWord_of_partText? {t : Tree} {name : String} (h : DeclaresWords source t)
    (h_kind : declaresName t.kind = true) (h_name : t.partText? .name = some name) : IsWord name := by
  obtain ⟨c, h_part, rfl⟩ := Option.map_eq_some_iff.1 h_name
  obtain ⟨h_word, h_role⟩ := h.part? h_kind h_part
  obtain ⟨leafKind, token, rfl, h_mem, h_form⟩ := h_word h_role
  exact Token.isWord_of_mem_tokens (by simpa using h_mem) h_form

theorem isWord_of_header? {outer : Option String} {t : Tree} {d : TypeDecl} (h : DeclaresWords source t)
    (h_head : header? outer t = some d) : IsWord d.name := by
  unfold header? at h_head
  split at h_head
  · rename_i sort name h_sort h_name
    cases h_head
    exact isWord_of_partText? h (by simp [declaresName, h_sort]) h_name
  · cases h_head

end Tree

namespace CompilationUnit

variable {path source : String} {u : CompilationUnit} {d : TypeDecl}

/-- A type of a unit stands at a node of the tree that its text is read as. -/
theorem exists_typeAt_of_parse (h : parse path source = .ok u) (h_mem : d ∈ u.allTypes) :
    ∃ root site, Tree.ofSource source = .ok root ∧ Tree.TypeAt root d site := by
  unfold parse at h
  split at h
  · rename_i root h_tree
    cases h
    have h_at := Tree.allTypes_toUnit_at path source root
    obtain ⟨i, h_i, rfl⟩ := List.mem_iff_getElem.1 h_mem
    exact ⟨root, _, h_tree, h_at.get h_i (h_at.length_eq ▸ h_i)⟩
  · cases h

/-- Every type of a unit is named by a word. -/
theorem isWord_of_parse (h : parse path source = .ok u) (h_mem : d ∈ u.allTypes) : IsWord d.name := by
  obtain ⟨root, site, h_tree, t, outer, head, members, h_node, h_head, rfl, -⟩ :=
    exists_typeAt_of_parse h h_mem
  change IsWord head.name
  exact Tree.isWord_of_header? ((Tree.declaresWords_of_ofSource h_tree).nodeAt? h_node) h_head

/-- A method of a unit stands at a node of the tree that its text is read as. -/
theorem exists_method_node_of_parse (h : parse path source = .ok u) (h_mem : d ∈ u.allTypes) {m : Method}
    (h_m : m ∈ d.methods) :
    ∃ root position t found, Tree.ofSource source = .ok root ∧ root.nodeAt? position = some t ∧
      m = t.methodWith found := by
  obtain ⟨root, site, h_tree, -, -, -, -, -, -, -, h_methods⟩ := exists_typeAt_of_parse h h_mem
  obtain ⟨i, h_i, rfl⟩ := List.mem_iff_getElem.1 h_m
  obtain ⟨t, found, h_node, h_method, -⟩ := h_methods.get h_i (h_methods.length_eq ▸ h_i)
  exact ⟨root, _, t, found, h_tree, h_node, h_method⟩

/-- Every method of a unit is named by a word, if it has a name. -/
theorem isWord_method_of_parse (h : parse path source = .ok u) (h_mem : d ∈ u.allTypes) {m : Method}
    (h_m : m ∈ d.callables) : m.name = "" ∨ IsWord m.name := by
  obtain ⟨h_m, h_method⟩ := List.mem_filter.1 h_m
  obtain ⟨root, position, t, found, h_tree, h_node, rfl⟩ := exists_method_node_of_parse h h_mem h_m
  change (t.partText? .name).getD "" = "" ∨ IsWord ((t.partText? .name).getD "")
  cases h_name : t.partText? .name with
  | none => exact .inl rfl
  | some name =>
    have h_kind : t.kind = .methodDeclaration := by simpa [Tree.methodWith] using h_method
    have h_words := (Tree.declaresWords_of_ofSource h_tree).nodeAt? h_node
    exact .inr (Tree.isWord_of_partText? h_words (by rw [h_kind]; rfl) h_name)

end CompilationUnit

end JavaCallGraph.Java
