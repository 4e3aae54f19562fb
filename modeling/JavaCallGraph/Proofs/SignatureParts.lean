import JavaCallGraph.Proofs.CallGraph
import JavaCallGraph.Proofs.SignatureText

/-!
# Methods told apart by the texts of their signatures

The text of a signature determines the method if its parts can be found in it again. For the types of
parameters this takes two things that are said here about the whole text, without a reader who goes
through it: angle brackets are balanced, and where a comma with a space comes, a bracket is open.

* `Signature.Balanced`, `Signature.Separable` — texts of parameters.
* `Signature.encloses_iff` — counting brackets decides it.
* `Signature.text_eq_iff` — signatures with one text.
* `text_determines_method` — methods, and overloads in a graph.
-/

namespace JavaCallGraph

open Java

namespace Signature

/-! ## Texts of parameters -/

/-- Every closing bracket closes one that is open, and in the end none is. -/
structure Balanced (cs : List Char) : Prop where
  opened : ∀ front, front <+: cs → front.count '>' ≤ front.count '<'
  closed : cs.count '>' = cs.count '<'

/-- The text of a parameter's type that can be told from those next to it. -/
structure Separable (p : String) : Prop where
  ne_empty : p ≠ ""
  balanced : Balanced p.toList
  /-- Where a comma with a space comes, more brackets were opened than closed. -/
  commas : ∀ before after, p.toList = before ++ ',' :: ' ' :: after →
    before.count '>' < before.count '<'

/-- The rest of such a text after `depth` open brackets. -/
structure Closes (depth : Nat) (cs : List Char) : Prop where
  opened : ∀ front, front <+: cs → front.count '>' ≤ depth + front.count '<'
  closed : cs.count '>' = depth + cs.count '<'
  commas : ∀ before after, cs = before ++ ',' :: ' ' :: after →
    before.count '>' < depth + before.count '<'

section

variable {depth : Nat} {c : Char} {cs : List Char}

theorem closes_nil : Closes depth [] ↔ depth = 0 := by
  constructor
  · intro h
    simpa [eq_comm] using h.closed
  · rintro rfl
    exact ⟨fun front h => by simp [List.prefix_nil.1 h], rfl, fun before after h => by simp at h⟩

/-- One character more: it is no comma outside of brackets, and `depth'` of them are open after it. -/
theorem closes_cons (depth' : Nat) (h_depth : [c].count '>' + depth' = depth + [c].count '<') :
    Closes depth (c :: cs) ↔ ¬ (depth = 0 ∧ c = ',' ∧ cs.head? = some ' ') ∧ Closes depth' cs := by
  -- in every text after `c`, the difference of the counts is the one without `c`
  have h_shift : ∀ front : List Char, (c :: front).count '>' + depth' + front.count '<' =
      front.count '>' + depth + (c :: front).count '<' := by
    intro front
    rw [← List.singleton_append, List.count_append, List.count_append]
    omega
  constructor
  · intro h
    refine ⟨?_, fun front h_front => ?_, ?_, fun before after h_text => ?_⟩
    · rintro ⟨rfl, rfl, h_space⟩
      obtain ⟨after, rfl⟩ := List.head?_eq_some_iff.1 h_space
      exact Nat.lt_irrefl 0 (h.commas [] after rfl)
    · have := h.opened (c :: front) (List.cons_prefix_cons.2 ⟨rfl, h_front⟩)
      have := h_shift front
      omega
    · have := h.closed
      have := h_shift cs
      omega
    · have := h.commas (c :: before) after (congrArg (c :: ·) h_text)
      have := h_shift before
      omega
  · rintro ⟨h_comma, h⟩
    refine ⟨fun front h_front => ?_, ?_, fun before after h_text => ?_⟩
    · cases front with
      | nil => simp
      | cons d front =>
        obtain ⟨rfl, h_rest⟩ := List.cons_prefix_cons.1 h_front
        have := h.opened front h_rest
        have := h_shift front
        omega
    · have := h.closed
      have := h_shift cs
      omega
    · cases before with
      | nil =>
        obtain ⟨rfl, rfl⟩ := List.cons.inj h_text
        simp only [List.head?_cons, and_self, and_true] at h_comma
        simpa using Nat.pos_of_ne_zero h_comma
      | cons d before =>
        obtain ⟨rfl, h_rest⟩ := List.cons.inj h_text
        have := h.commas before after h_rest
        have := h_shift before
        omega

theorem not_closes_zero : ¬ Closes 0 ('>' :: cs) := by
  intro h
  have h_one := h.opened ['>'] (by simp)
  simp at h_one

end

/-- Counting brackets decides where a text closes them. -/
theorem encloses_iff {depth : Nat} {cs : List Char} : encloses depth cs = true ↔ Closes depth cs := by
  induction cs generalizing depth with
  | nil => simp [encloses, closes_nil]
  | cons c cs ih =>
    rw [encloses]
    by_cases h_open : c = '<'
    · subst h_open
      rw [closes_cons (depth + 1) (by simp)]
      simp [ih]
    · by_cases h_close : c = '>'
      · subst h_close
        cases depth with
        | zero => simp [not_closes_zero]
        | succ depth =>
          rw [closes_cons depth (by simp; omega)]
          simp [ih]
      · have h_count : [c].count '>' = 0 ∧ [c].count '<' = 0 := by simp [h_open, h_close]
        rw [closes_cons depth (by omega)]
        simp [h_open, h_close, ih, imp_iff_not_or, or_assoc]

theorem isParamText_iff {p : String} : IsParamText p ↔ Separable p := by
  rw [IsParamText, encloses_iff]
  constructor
  · rintro ⟨h_ne, h⟩
    exact ⟨h_ne, ⟨by simpa using h.opened, by simpa using h.closed⟩, by simpa using h.commas⟩
  · rintro ⟨h_ne, ⟨h_opened, h_closed⟩, h_commas⟩
    exact ⟨h_ne, by simpa using h_opened, by simpa using h_closed, by simpa using h_commas⟩

instance (p : String) : Decidable (Separable p) := decidable_of_iff _ isParamText_iff

/-! ## Signatures with one text -/

/-- Parts that can be found in the text of the signature: no parenthesis opens before the parameters, and
the name of the method starts after the last dot before it. -/
structure Readable (s : Signature) : Prop where
  package : '(' ∉ s.package.toList
  type : '(' ∉ s.type.toList
  method : '(' ∉ s.method.toList ∧ '.' ∉ s.method.toList
  params : ∀ p ∈ s.params, Separable p

instance (s : Signature) : Decidable s.Readable :=
  decidable_of_iff (_ ∧ _ ∧ _ ∧ _)
    ⟨fun h => ⟨h.1, h.2.1, h.2.2.1, h.2.2.2⟩, fun h => ⟨h.package, h.type, h.method, h.params⟩⟩

theorem text_eq (s : Signature) :
    s.text = s.qualifiedType ++ "." ++ s.method ++ "(" ++ ", ".intercalate s.params ++ ")" := rfl

/-- Readable signatures have one text exactly if they agree in type, name and parameters. The text does not
show where the package ends. -/
theorem text_eq_iff {s s' : Signature} (h : s.Readable) (h' : s'.Readable) :
    s.text = s'.text ↔
      s.qualifiedType = s'.qualifiedType ∧ s.method = s'.method ∧ s.params = s'.params := by
  have h_type : ∀ {t : Signature}, t.Readable → '(' ∉ t.qualifiedType.toList := by
    intro t h_t
    simp [qualifiedType, h_t.package, h_t.type]
  rw [text_eq, text_eq]
  constructor
  · intro h_text
    exact parts_of_text_eq (h_type h) (h_type h') h.method.symm h'.method.symm
      (fun p h_p => isParamText_iff.2 (h.params p h_p)) (fun p h_p => isParamText_iff.2 (h'.params p h_p))
      h_text
  · rintro ⟨h_type, h_method, h_params⟩
    rw [h_type, h_method, h_params]

/-- Methods of one name in one type: their texts differ in the parameters only. -/
theorem params_eq_of_text_eq {s s' : Signature} (h_package : s.package = s'.package)
    (h_type : s.type = s'.type) (h_method : s.method = s'.method) (h : ∀ p ∈ s.params, Separable p)
    (h' : ∀ p ∈ s'.params, Separable p) (h_text : s.text = s'.text) : s.params = s'.params := by
  rw [text_eq, text_eq, qualifiedType, qualifiedType, h_package, h_type, h_method,
    String.append_left_inj, String.append_right_inj] at h_text
  exact intercalate_inj (fun p h_p => isParamText_iff.2 (h p h_p))
    (fun p h_p => isParamText_iff.2 (h' p h_p)) h_text

end Signature

/-- The text of a signature determines the method: readable signatures with the same text agree in the
qualified type, the name and the parameters. So overloads of a unit that differ in the qualified types of
their parameters have two entries in its graph. -/
theorem text_determines_method :
    (∀ s s' : Signature, s.Readable → s'.Readable → (s.text = s'.text ↔
      s.qualifiedType = s'.qualifiedType ∧ s.method = s'.method ∧ s.params = s'.params)) ∧
    ∀ (solver : Solver) (u : CompilationUnit), ∀ scope ∈ Scope.callables u,
      ∀ scope' ∈ Scope.callables u, scope.owner.qualifiedName = scope'.owner.qualifiedName →
      scope.method.name = scope'.method.name → (∀ p ∈ scope.caller.params, Signature.Separable p) →
      (∀ p ∈ scope'.caller.params, Signature.Separable p) →
      scope.caller.params ≠ scope'.caller.params →
      (solver.graphOf u).contains scope.caller.text = true ∧
      (solver.graphOf u).contains scope'.caller.text = true ∧
      scope.caller.text ≠ scope'.caller.text := by
  refine ⟨fun s s' h h' => Signature.text_eq_iff h h', ?_⟩
  intro solver u scope h_scope scope' h_scope' h_owner h_name h_params h_params' h_differ
  refine ⟨Solver.contains_graphOf.2 ⟨scope, h_scope, rfl⟩, Solver.contains_graphOf.2 ⟨scope', h_scope', rfl⟩,
    fun h_text => h_differ ?_⟩
  have h_imports : scope.imports = scope'.imports := by
    obtain ⟨-, -, rfl⟩ := List.mem_map.1 h_scope
    obtain ⟨-, -, rfl⟩ := List.mem_map.1 h_scope'
    rfl
  exact Signature.params_eq_of_text_eq (congrArg ImportTable.packageName h_imports) h_owner h_name h_params
    h_params' h_text

namespace Shelf

def put (types : List String) : Method :=
  ⟨"put", some "void", types.map (⟨"item", ·, false⟩), [], [], [], false, true, 1, 1⟩

/-- A class with two methods `put`, one of them with an array after the map. -/
def shelf : TypeDecl :=
  ⟨"Shelf", "Shelf", .classType, none, [], [], [],
    [put ["Map<K,List<? extends V>>"], put ["Map<K, List<? extends V>>", "V[]"]], [], 1, 1⟩

def unit : CompilationUnit := ⟨"Shelf.java", "", some "a.b", [], [shelf]⟩

def scope (types : List String) : Scope := ⟨.ofUnit unit, shelf, put types⟩

def signature (package type : String) : Signature :=
  ⟨package, type, "put", ["java.util.Map<K, java.util.List<V>>", "V[]"]⟩

end Shelf

/-- The commas of the map are told from the one before the array, so the two methods have two entries; and
the same text belongs to a nested type and to a type of a longer package. -/
theorem shelf_overloads_told_apart :
    (Shelf.signature "a.b" "Shelf").Readable ∧ (Shelf.signature "a" "b.Shelf").Readable ∧
    (Shelf.signature "a.b" "Shelf").text = (Shelf.signature "a" "b.Shelf").text ∧
    (Shelf.scope ["Map<K,List<? extends V>>"]).caller.text = "a.b.Shelf.put(a.b.Map<K, List<? extends V>>)" ∧
    (Solver.blind.graphOf Shelf.unit).contains
      (Shelf.scope ["Map<K,List<? extends V>>"]).caller.text = true ∧
    (Shelf.scope ["Map<K,List<? extends V>>"]).caller.text ≠
      (Shelf.scope ["Map<K, List<? extends V>>", "V[]"]).caller.text := by
  have h_short : (Shelf.signature "a.b" "Shelf").Readable := by decide +kernel
  have h_nested : (Shelf.signature "a" "b.Shelf").Readable := by decide +kernel
  obtain ⟨h_text, h_overloads⟩ := text_determines_method
  have h_entries := h_overloads Solver.blind Shelf.unit (Shelf.scope ["Map<K,List<? extends V>>"])
    List.mem_cons_self (Shelf.scope ["Map<K, List<? extends V>>", "V[]"])
    (List.mem_cons_of_mem _ List.mem_cons_self) rfl rfl (by decide +kernel) (by decide +kernel)
    (by decide +kernel)
  exact ⟨h_short, h_nested, (h_text _ _ h_short h_nested).2 ⟨by decide, rfl, rfl⟩, by decide +kernel,
    h_entries.1, h_entries.2.2⟩

end JavaCallGraph
