import JavaCallGraph.Proofs.DeclaredParams
import JavaCallGraph.Proofs.Overrides

/-!
# Overloaded methods

A call is resolved on a type by the name of the method and the number of its arguments, and by the types of
the arguments as far as they are known. The methods in question are those of the whole hierarchy; of those
with the same parameters the first one stands for all. An answer is given if one parameter list alone is in
question, or if all others are contradicted by an argument. No overload is guessed.

* `Applicable`, `Contradicted` — methods in question, and those that an argument rules out.
* `select_eq_some_iff` — the method that is left of several.
* `exists_mem_candidates`, `fits_congr` — the candidates stand for all methods in question.
* `MarksVarargs` — stores in which the text of a parameter tells whether it takes many arguments.
* `overloads_never_guessed` — when a call is resolved on a type, and to what.
* `spaced_ellipsis_is_passed_over` — blanks in an ellipsis hide that two methods have the same parameters.
-/

namespace JavaCallGraph

open Java

theorem MethodEntry.paramAt?_congr {m n : MethodEntry} {count index : Nat} (h_params : m.params = n.params)
    (h_m : m.acceptsArity count = true) (h_n : n.acceptsArity count = true) (h_index : index < count) :
    m.paramAt? index = n.paramAt? index := by
  rw [paramAt?, paramAt?, h_params]
  by_cases h_varargs : m.varargs = n.varargs
  · rw [h_varargs]
  · -- one of the two takes as many arguments as it has parameters
    have h_length : count = n.params.length := by
      rw [acceptsArity] at h_m h_n
      cases h_m_varargs : m.varargs with
      | false =>
        rw [h_m_varargs, if_neg Bool.false_ne_true] at h_m
        exact h_params ▸ beq_iff_eq.1 h_m
      | true =>
        cases h_n_varargs : n.varargs with
        | false =>
          rw [h_n_varargs, if_neg Bool.false_ne_true] at h_n
          exact beq_iff_eq.1 h_n
        | true => exact absurd (h_m_varargs.trans h_n_varargs.symm) h_varargs
    rw [List.getElem?_eq_getElem (h_length ▸ h_index)]
    rfl

namespace SymbolStore

section Resolving

variable {store : SymbolStore} {scope : Scope} {target : String} {c : Call}

/-! ## Methods in question -/

/-- The method is one of a type in the hierarchy of `target`, has the name of the call and takes as many
arguments. -/
def Applicable (store : SymbolStore) (target : String) (c : Call) (entry : TypeEntry) (m : MethodEntry) :
    Prop :=
  entry ∈ store.hierarchy target ∧ m ∈ entry.methods ∧ m.name = c.name ∧
    m.acceptsArity c.arguments.length = true

/-- The type of an argument is known, and the method takes an argument of another one there, which is not
`java.lang.Object`. -/
def Contradicted (store : SymbolStore) (scope : Scope) (c : Call) (m : MethodEntry) : Prop :=
  ∃ index arg type param, c.arguments[index]? = some arg ∧ store.typeOf scope arg = some type ∧
    m.paramAt? index = some param ∧ TypeName.base type ≠ TypeName.base param ∧
    TypeName.base param ≠ "java.lang.Object"

theorem typesOf_eq_map (store : SymbolStore) (scope : Scope) (es : List Expr) :
    store.typesOf scope es = es.map (store.typeOf scope) := by
  induction es with
  | nil => rfl
  | cons e es ih => rw [typesOf, ih, List.map_cons]

theorem length_typesOf (store : SymbolStore) (scope : Scope) (es : List Expr) :
    (store.typesOf scope es).length = es.length := by
  rw [typesOf_eq_map, List.length_map]

theorem fits_eq_false_iff {m : MethodEntry} {argTypes : List (Option String)} :
    fits m argTypes = false ↔ ∃ index type param, argTypes[index]? = some (some type) ∧
      m.paramAt? index = some param ∧ TypeName.base type ≠ TypeName.base param ∧
      TypeName.base param ≠ "java.lang.Object" := by
  rw [fits, List.all_eq_false]
  constructor
  · rintro ⟨⟨arg, index⟩, h_mem, h_not⟩
    have h_arg := List.mem_zipIdx_iff_getElem?.1 h_mem
    cases arg with
    | none => simp at h_not
    | some type =>
      cases h_param : m.paramAt? index with
      | none => simp [h_param] at h_not
      | some param =>
        simp only [h_param, Bool.or_eq_true, beq_iff_eq, not_or] at h_not
        exact ⟨index, type, param, h_arg, h_param, h_not.1, h_not.2⟩
  · rintro ⟨index, type, param, h_arg, h_param, h_base, h_object⟩
    refine ⟨(some type, index), List.mem_zipIdx_iff_getElem?.2 h_arg, ?_⟩
    simp [h_param, h_base, h_object]

theorem contradicted_iff {m : MethodEntry} :
    store.Contradicted scope c m ↔ fits m (store.typesOf scope c.arguments) = false := by
  rw [fits_eq_false_iff, typesOf_eq_map, Contradicted]
  constructor
  · rintro ⟨index, arg, type, param, h_arg, h_type, h_param⟩
    exact ⟨index, type, param, by rw [List.getElem?_map, h_arg, Option.map_some, h_type], h_param⟩
  · rintro ⟨index, type, param, h_type, h_param⟩
    rw [List.getElem?_map] at h_type
    obtain ⟨arg, h_arg, h_type⟩ := Option.map_eq_some_iff.1 h_type
    exact ⟨index, arg, type, param, h_arg, h_type, h_param⟩

/-- Whether an argument contradicts a method depends on its parameters alone. -/
theorem fits_congr {m n : MethodEntry} {argTypes : List (Option String)} (h_params : m.params = n.params)
    (h_m : m.acceptsArity argTypes.length = true) (h_n : n.acceptsArity argTypes.length = true) :
    fits m argTypes = fits n argTypes := by
  rw [Bool.eq_iff_iff, ← not_iff_not, Bool.not_eq_true, Bool.not_eq_true, fits_eq_false_iff,
    fits_eq_false_iff]
  refine exists_congr fun index => exists_congr fun type => exists_congr fun param => ?_
  refine and_congr_right fun h_arg => ?_
  obtain ⟨h_index, -⟩ := List.getElem?_eq_some_iff.1 h_arg
  rw [MethodEntry.paramAt?_congr h_params h_m h_n h_index]

/-! ## Candidates -/

theorem pairwise_candidates (store : SymbolStore) (owner name : String) (arity : Nat) :
    (store.candidates owner name arity).Pairwise fun a b => a.2.params ≠ b.2.params :=
  pairwise_eraseDupsBy _

theorem applicable_of_mem_candidates {entry : TypeEntry} {m : MethodEntry}
    (h : (entry, m) ∈ store.candidates target c.name c.arguments.length) :
    store.Applicable target c entry m :=
  mem_candidates h

/-- Every parameter list in question is that of a candidate. -/
theorem exists_mem_candidates {entry : TypeEntry} {m : MethodEntry}
    (h : store.Applicable target c entry m) :
    ∃ b ∈ store.candidates target c.name c.arguments.length, b.2.params = m.params := by
  obtain ⟨h_entry, h_method, h_name, h_arity⟩ := h
  refine exists_mem_eraseDupsBy (f := fun b : TypeEntry × MethodEntry => b.2.params) (a := (entry, m)) ?_
  refine List.mem_filter.2 ⟨?_, by simp [h_name, h_arity]⟩
  exact List.mem_flatMap.2 ⟨entry, h_entry, List.mem_map.2 ⟨m, h_method, rfl⟩⟩

/-! ## The method that is left -/

theorem eq_singleton_of_pairwise {α β : Type} {f : α → β} {a : α} {as : List α}
    (h : as.Pairwise fun a b => f a ≠ f b) (h_mem : a ∈ as) (h_same : ∀ b ∈ as, f b = f a) : as = [a] := by
  cases as with
  | nil => cases h_mem
  | cons b rest =>
    cases rest with
    | nil => rw [List.mem_singleton.1 h_mem]
    | cons b' rest =>
      have h_ne := (List.pairwise_cons.1 h).1 b' List.mem_cons_self
      refine absurd ?_ h_ne
      rw [h_same b List.mem_cons_self, h_same b' (List.mem_cons_of_mem _ List.mem_cons_self)]

/-- A method is selected if all with other parameters are contradicted and it is not, or is the only one. -/
theorem select_eq_some_iff {argTypes : List (Option String)} {methods : List (TypeEntry × MethodEntry)}
    {chosen : TypeEntry × MethodEntry} (h : methods.Pairwise fun a b => a.2.params ≠ b.2.params) :
    select argTypes methods = some chosen ↔ chosen ∈ methods ∧
      (∀ b ∈ methods, b.2.params ≠ chosen.2.params → fits b.2 argTypes = false) ∧
      (fits chosen.2 argTypes = true ∨ ∀ b ∈ methods, b.2.params = chosen.2.params) := by
  constructor
  · intro h_select
    refine ⟨mem_of_select h_select, ?_⟩
    unfold select at h_select
    split at h_select
    · cases h_select
    · cases h_select
      have h_only : ∀ b ∈ [chosen], b.2.params = chosen.2.params := fun b hb => by
        rw [List.mem_singleton.1 hb]
      exact ⟨fun b hb h_ne => absurd (h_only b hb) h_ne, .inr h_only⟩
    · split at h_select
      · rename_i only h_filter
        cases h_select
        have h_one : methods.filter (fun b => fits b.2 argTypes) = [chosen] := h_filter
        have h_left : ∀ b, b ∈ [chosen] ↔ b ∈ methods ∧ fits b.2 argTypes = true :=
          fun b => h_one ▸ List.mem_filter
        simp only [List.mem_singleton] at h_left
        refine ⟨fun b hb h_ne => ?_, .inl ((h_left chosen).1 rfl).2⟩
        rw [← Bool.not_eq_true]
        exact fun h_fits => h_ne (by rw [(h_left b).2 ⟨hb, h_fits⟩])
      · cases h_select
  · rintro ⟨h_mem, h_others, h_fits | h_only⟩
    · have h_left : methods.filter (fun b => fits b.2 argTypes) = [chosen] := by
        refine eq_singleton_of_pairwise (h.filter _) (List.mem_filter.2 ⟨h_mem, h_fits⟩) fun b hb => ?_
        obtain ⟨hb, h_b⟩ := List.mem_filter.1 hb
        by_contra h_ne
        rw [h_others b hb h_ne] at h_b
        cases h_b
      unfold select
      split
      · cases h_mem
      · rw [List.mem_singleton.1 h_mem]
      · rw [h_left]
    · rw [eq_singleton_of_pairwise h h_mem h_only]
      rfl

/-! ## Resolving a call on a type -/

/-- All methods in question with other parameters than `m` are contradicted, and `m` is not or has the only
parameter list in question. -/
structure Left (store : SymbolStore) (scope : Scope) (target : String) (c : Call) (m : MethodEntry) :
    Prop where
  others : ∀ E n, store.Applicable target c E n → n.params ≠ m.params → store.Contradicted scope c n
  fits_or_only : ¬ store.Contradicted scope c m ∨ ∀ E n, store.Applicable target c E n → n.params = m.params

/-- The method that is selected of the candidates is what is left of all methods in question. -/
theorem select_candidates_eq_some_iff {entry : TypeEntry} {m : MethodEntry} :
    select (store.typesOf scope c.arguments) (store.candidates target c.name c.arguments.length) =
        some (entry, m) ↔
      (entry, m) ∈ store.candidates target c.name c.arguments.length ∧ store.Left scope target c m := by
  rw [select_eq_some_iff (store.pairwise_candidates _ _ _)]
  refine and_congr_right fun h_mem => ?_
  -- a candidate is contradicted like the methods that it stands for
  have h_stands : ∀ {E n b}, store.Applicable target c E n →
      b ∈ store.candidates target c.name c.arguments.length → b.2.params = n.params →
      (store.Contradicted scope c n ↔ fits b.2 (store.typesOf scope c.arguments) = false) := by
    intro E n b h_n hb h_params
    rw [contradicted_iff, fits_congr h_params]
    · rw [length_typesOf]
      exact (applicable_of_mem_candidates hb).2.2.2
    · rw [length_typesOf]
      exact h_n.2.2.2
  have h_m := applicable_of_mem_candidates h_mem
  constructor
  · rintro ⟨h_others, h_left⟩
    constructor
    · intro E n h_n h_ne
      obtain ⟨b, hb, h_params⟩ := exists_mem_candidates h_n
      exact (h_stands h_n hb h_params).2 (h_others b hb (h_params ▸ h_ne))
    · rcases h_left with h_fits | h_only
      · exact .inl (by simp [contradicted_iff, h_fits])
      · refine .inr fun E n h_n => ?_
        obtain ⟨b, hb, h_params⟩ := exists_mem_candidates h_n
        rw [← h_params, h_only b hb]
  · rintro ⟨h_others, h_left⟩
    constructor
    · intro b hb h_ne
      have h_b : store.Applicable target c b.1 b.2 := applicable_of_mem_candidates hb
      exact contradicted_iff.1 (h_others b.1 b.2 h_b h_ne)
    · rcases h_left with h_fits | h_only
      · exact .inl (by rwa [contradicted_iff, Bool.not_eq_false] at h_fits)
      · exact .inr fun b hb => h_only b.1 b.2 (applicable_of_mem_candidates hb)

/-- In every stored type a method takes a variable number of arguments exactly if the text of its last
parameter ends in an ellipsis. -/
def MarksVarargs (store : SymbolStore) : Prop :=
  ∀ entry ∈ store.types.toList, ∀ m ∈ entry.2.methods,
    (m.varargs = true ↔ m.params.getLast?.any (Text.endsWith "...") = true)

instance (store : SymbolStore) : Decidable store.MarksVarargs :=
  inferInstanceAs (Decidable (∀ entry ∈ store.types.toList, _))

/-- What tells in the units tells in the store. -/
theorem marksVarargs_of_units {units : List CompilationUnit}
    (h_types : store.types = (ofUnits units).types) (h : ∀ u ∈ units, u.MarksVarargs) :
    store.MarksVarargs := by
  rintro ⟨key, entry⟩ h_entry m h_m
  rw [h_types, KeyMap.mem_toList_iff] at h_entry
  obtain ⟨u, h_u, d, h_d, -, rfl⟩ := declared_of_get? h_entry
  obtain ⟨method, h_method, rfl⟩ := List.mem_map.1 h_m
  exact h u h_u d h_d method h_method

/-- In such a store methods with the same parameters take the same numbers of arguments. -/
theorem MarksVarargs.acceptsArity_congr (h : store.MarksVarargs) {D E : TypeEntry} {m n : MethodEntry}
    (hD : D ∈ store.hierarchy target) (hm : m ∈ D.methods) (hE : E ∈ store.hierarchy target)
    (hn : n ∈ E.methods) (h_params : n.params = m.params) (count : Nat) :
    n.acceptsArity count = m.acceptsArity count := by
  obtain ⟨key, h_D⟩ := mem_hierarchy hD
  obtain ⟨key', h_E⟩ := mem_hierarchy hE
  have h_m := h (key, D) (KeyMap.mem_toList_iff.2 h_D) m hm
  have h_n := h (key', E) (KeyMap.mem_toList_iff.2 h_E) n hn
  rw [h_params, ← h_m] at h_n
  exact MethodEntry.acceptsArity_congr h_params (Bool.eq_iff_iff.2 h_n) count

/-- A call that is resolved on a type reaches a method in question that is left when the others are
contradicted, on the first type that declares one like it. -/
theorem exists_left_of_findMethod? {found : Target}
    (h : store.findMethod? target c.name (store.typesOf scope c.arguments) = some found) :
    ∃ before D after m, store.hierarchy target = before ++ D :: after ∧ store.Applicable target c D m ∧
      found = store.toTarget D m ∧ store.Left scope target c m ∧
      ∀ E ∈ before, ∀ n, store.Applicable target c E n → n.params ≠ m.params := by
  rw [findMethod?, length_typesOf] at h
  obtain ⟨⟨entry, m⟩, h_select, rfl⟩ := Option.map_eq_some_iff.1 h
  obtain ⟨h_mem, h_left⟩ := select_candidates_eq_some_iff.1 h_select
  obtain ⟨before, v, after, h_split, rfl, h_first⟩ := exists_split_of_mem_candidates h_mem
  refine ⟨before.map (·.entry), v.entry, after.map (·.entry), m, ?_, applicable_of_mem_candidates h_mem, rfl,
    h_left, ?_⟩
  · rw [hierarchy_eq_map_lineage, h_split, List.map_append, List.map_cons]
  · rintro E hE n ⟨-, h_method, h_name, h_arity⟩
    obtain ⟨w, hw, rfl⟩ := List.mem_map.1 hE
    exact h_first w hw n h_method h_name h_arity

/-- What is left is found. -/
theorem exists_findMethod?_of_left {E : TypeEntry} {m : MethodEntry} (h_m : store.Applicable target c E m)
    (h : store.Left scope target c m) :
    ∃ found, store.findMethod? target c.name (store.typesOf scope c.arguments) = some found ∧
      found.signature.params = m.params := by
  obtain ⟨⟨D, n⟩, h_mem, h_params⟩ := exists_mem_candidates h_m
  have h_n := applicable_of_mem_candidates h_mem
  have h_left : store.Left scope target c n := by
    constructor
    · exact fun F k h_k h_ne => h.others F k h_k (h_params ▸ h_ne)
    · refine h.fits_or_only.imp (mt fun h_contradicted => ?_) fun h_only F k h_k => ?_
      · -- the candidate has the parameters of `m`
        rw [contradicted_iff] at h_contradicted ⊢
        rw [← h_contradicted]
        refine fits_congr h_params.symm ?_ ?_
        · rw [length_typesOf]
          exact h_m.2.2.2
        · rw [length_typesOf]
          exact h_n.2.2.2
      · exact (h_only F k h_k).trans h_params.symm
  refine ⟨store.toTarget D n, ?_, h_params⟩
  rw [findMethod?, length_typesOf, select_candidates_eq_some_iff.2 ⟨h_mem, h_left⟩, Option.map_some]

/-- When a call is resolved on a type. An answer is a method of the hierarchy with the name and the number of
arguments of the call, on the first type that declares one with its parameters, and every method in question
with other parameters is contradicted by an argument. The types before it do not declare the name with its
parameters at all if the units tell by the qualified types which methods take many arguments, and units that
are read from text do. Where two parameter lists are not contradicted, or all of several are, there is no
answer; where one alone is in question or not contradicted, there is. -/
theorem overloads_never_guessed (store : SymbolStore) (scope : Scope) (target : String) (c : Call) :
    (∀ found, store.findMethod? target c.name (store.typesOf scope c.arguments) = some found →
      ∃ before D after m, store.hierarchy target = before ++ D :: after ∧ m ∈ D.methods ∧
        m.name = c.name ∧ m.acceptsArity c.arguments.length = true ∧
        found.signature = ⟨D.package, D.type, m.name, m.params⟩ ∧
        (∀ E ∈ before, ∀ n, store.Applicable target c E n → n.params ≠ m.params) ∧
        (∀ units, store.types = (ofUnits units).types → (∀ u ∈ units, u.MarksVarargs) →
          ∀ E ∈ before, ∀ n ∈ E.methods, n.name = c.name → n.params ≠ m.params) ∧
        ∀ E n, store.Applicable target c E n → n.params ≠ m.params → store.Contradicted scope c n) ∧
    (∀ D m E n, store.Applicable target c D m → store.Applicable target c E n → m.params ≠ n.params →
      (¬ store.Contradicted scope c m ∧ ¬ store.Contradicted scope c n ∨
        ∀ F k, store.Applicable target c F k → store.Contradicted scope c k) →
      store.findMethod? target c.name (store.typesOf scope c.arguments) = none) ∧
    (∀ D m, store.Applicable target c D m →
      (∀ E n, store.Applicable target c E n → n.params ≠ m.params → store.Contradicted scope c n) →
      (¬ store.Contradicted scope c m ∨ ∀ E n, store.Applicable target c E n → n.params = m.params) →
      ∃ found, store.findMethod? target c.name (store.typesOf scope c.arguments) = some found ∧
        found.signature.params = m.params) ∧
    ∀ path source u, CompilationUnit.parse path source = .ok u → u.MarksVarargs := by
  refine ⟨fun found h_found => ?_, fun D m E n h_m h_n h_ne h_left => ?_, fun D m h_m h_others h_left => ?_,
    fun path source u h_parse => CompilationUnit.marksVarargs_of_parse h_parse⟩
  · obtain ⟨before, D, after, m, h_split, h_m, rfl, h_left, h_first⟩ := exists_left_of_findMethod? h_found
    obtain ⟨hD, h_method, h_name, h_arity⟩ := h_m
    refine ⟨before, D, after, m, h_split, h_method, h_name, h_arity, rfl, h_first, ?_, h_left.others⟩
    intro units h_types h_units E hE n hn h_same h_params
    have h_marks := marksVarargs_of_units h_types h_units
    have hE' : E ∈ store.hierarchy target := by
      rw [h_split]
      exact List.mem_append_left _ hE
    refine h_first E hE n ⟨hE', hn, h_same, ?_⟩ h_params
    rw [h_marks.acceptsArity_congr hD h_method hE' hn h_params, h_arity]
  · by_contra h_some
    obtain ⟨found, h_found⟩ := Option.ne_none_iff_exists'.1 h_some
    obtain ⟨-, D', -, m', -, h_m', -, h_chosen, -⟩ := exists_left_of_findMethod? h_found
    rcases h_left with ⟨h_fits_m, h_fits_n⟩ | h_none
    · -- one of the two has other parameters than the method that was found
      by_cases h_params : m.params = m'.params
      · exact h_fits_n (h_chosen.others E n h_n (h_params ▸ h_ne.symm))
      · exact h_fits_m (h_chosen.others D m h_m h_params)
    · rcases h_chosen.fits_or_only with h_fits | h_only
      · exact h_fits (h_none D' m' h_m')
      · exact h_ne ((h_only D m h_m).trans (h_only E n h_n).symm)
  · exact exists_findMethod?_of_left h_m ⟨h_others, h_left⟩

end Resolving

namespace Desk

def put (type : String) : Method :=
  ⟨"put", some "void", [⟨"x", type, Text.endsWith "..." type⟩], [], [], [], false, true, 1, 1⟩

/-- A class with three methods of one name, one of which takes many arguments and is inherited. -/
def unit : CompilationUnit :=
  ⟨"Desk.java", "", some "a", [],
    [Ladder.type "Desk" .classType none [] [put "int", put "String..."],
      Ladder.type "Counter" .classType (some "Desk") [] [put "String", put "int"]]⟩

def store : SymbolStore := .ofUnits [unit]

def source : String := "class Desk{void put(int... xs){}void put(int[] xs){}}"

def scope : Scope := ⟨.ofPackage (some "a"), Ladder.type "User" .classType none [] [], Ladder.method⟩

def call (form : Literal) : Call := ⟨"put", none, [.literal form], 1⟩

theorem exists_applicable (form : Literal) (params : List String)
    (h : ∃ D ∈ store.hierarchy "a.Counter", ∃ m ∈ D.methods, m.name = "put" ∧ m.acceptsArity 1 = true ∧
      m.params = params) :
    ∃ D m, store.Applicable "a.Counter" (call form) D m ∧ m.params = params := by
  obtain ⟨D, hD, m, hm, h_name, h_arity, h_params⟩ := h
  exact ⟨D, m, ⟨hD, hm, h_name, h_arity⟩, h_params⟩

/-- Which methods a call contradicts can be told from their parameters. -/
theorem contradicted_call_iff (form : Literal) (keep : List String → Bool)
    (h : ∀ E ∈ store.hierarchy "a.Counter", ∀ n ∈ E.methods,
      fits n (store.typesOf scope (call form).arguments) = keep n.params)
    {D : TypeEntry} {m : MethodEntry} (h_m : store.Applicable "a.Counter" (call form) D m) :
    store.Contradicted scope (call form) m ↔ keep m.params = false := by
  rw [contradicted_iff, h D h_m.1 m h_m.2.1]

end Desk

/-- A number is put by the one method that takes numbers, which the subclass declares first. A text is not
put, since two methods could take it. Numbers and an array of them are told apart in a text. -/
theorem desk_overloads_never_guessed :
    Desk.unit.MarksVarargs ∧
    (∃ found, Desk.store.findMethod? "a.Counter" "put" (Desk.store.typesOf Desk.scope [.literal .int]) =
        some found ∧
      ∃ before D after m, Desk.store.hierarchy "a.Counter" = before ++ D :: after ∧ m ∈ D.methods ∧
        found.signature = ⟨D.package, D.type, "put", ["int"]⟩ ∧
        ∀ E ∈ before, ∀ n ∈ E.methods, n.name = "put" → n.params ≠ ["int"]) ∧
    Desk.store.findMethod? "a.Counter" "put" (Desk.store.typesOf Desk.scope [.literal .string]) = none ∧
    ∃ u, CompilationUnit.parse "Desk.java" Desk.source = .ok u ∧
      (u.callables.map fun d => d.2.isVarargs) = [true, false] ∧ u.MarksVarargs := by
  have h_marks : Desk.unit.MarksVarargs := by decide +kernel
  have h_test : (CompilationUnit.parse "Desk.java" Desk.source).toOption.any (fun u =>
      (u.callables.map fun d => d.2.isVarargs) == [true, false]) = true := by
    decide +kernel
  obtain ⟨u, h_parse, h_both⟩ := exists_unit_of_test h_test
  obtain ⟨h_some, -, h_left, h_units⟩ :=
    overloads_never_guessed Desk.store Desk.scope "a.Counter" (Desk.call .int)
  refine ⟨h_marks, ?_, ?_, u, h_parse, beq_iff_eq.1 h_both, h_units _ _ u h_parse⟩
  · have h_contradicted {D m} := Desk.contradicted_call_iff .int (· == ["int"]) (by decide +kernel)
      (D := D) (m := m)
    obtain ⟨D, m, h_m, h_params⟩ := Desk.exists_applicable .int ["int"] (by decide +kernel)
    obtain ⟨found, h_found, h_same⟩ := h_left D m h_m
      (fun E n h_n h_ne => (h_contradicted h_n).2 (by simpa [h_params] using h_ne))
      (.inl (by simp [h_contradicted h_m, h_params]))
    obtain ⟨before, D', after, m', h_split, h_method, h_name, -, h_signature, -, h_first, -⟩ :=
      h_some found h_found
    have h_int : m'.params = ["int"] := by
      rw [h_signature] at h_same
      exact h_same.trans h_params
    rw [h_int] at h_signature h_first
    rw [h_name] at h_signature
    exact ⟨found, h_found, before, D', after, m', h_split, h_method, h_signature,
      h_first [Desk.unit] rfl (by simpa using h_marks)⟩
  · obtain ⟨-, h_none, -⟩ :=
      overloads_never_guessed Desk.store Desk.scope "a.Counter" (Desk.call .string)
    have h_contradicted {D m} := Desk.contradicted_call_iff .string (· != ["int"]) (by decide +kernel)
      (D := D) (m := m)
    obtain ⟨D, m, h_m, h_params⟩ :=
      Desk.exists_applicable .string ["java.lang.String"] (by decide +kernel)
    obtain ⟨E, n, h_n, h_params'⟩ :=
      Desk.exists_applicable .string ["java.lang.String..."] (by decide +kernel)
    refine h_none D m E n h_m h_n (by simp [h_params, h_params']) (.inl ⟨?_, ?_⟩)
    · simp [h_contradicted h_m, h_params]
    · simp [h_contradicted h_n, h_params']

namespace Pile

def stack (type : String) (varargs : Bool) : Method :=
  ⟨"f", some "void", [⟨"xs", type, varargs⟩], [], [], [], false, true, 1, 1⟩

/-- A method that takes many arguments, and one in the subclass that takes one, with a blank in the ellipsis
of its type. -/
def unit : CompilationUnit :=
  ⟨"D.java", "", some "a", [],
    [Ladder.type "A" .classType none [] [],
      Ladder.type "D" .classType none [] [stack "A..." true],
      Ladder.type "E" .classType (some "D") [] [stack "A.. ." false]]⟩

def store : SymbolStore := .ofUnits [unit]

end Pile

/-- A type as it is written may lack the ellipsis that its qualified form has. Of two methods with the same
parameters, one then takes two arguments and the other does not, and the call is resolved to the one that
does, though the other is declared on the first type of the hierarchy. -/
theorem spaced_ellipsis_is_passed_over :
    (∀ d ∈ Pile.unit.allTypes, ∀ m ∈ d.callables,
      (m.isVarargs = true ↔ m.params.getLast?.any (fun p => Text.endsWith "..." p.type) = true)) ∧
    (Pile.store.findMethod? "a.E" "f" (Pile.store.typesOf Desk.scope [.literal .null, .literal .null])).map
      (·.signature) = some ⟨"a", "D", "f", ["a.A..."]⟩ ∧
    (Pile.store.hierarchy "a.E").map (fun E => (E.type, E.methods.map fun n => (n.name, n.params))) =
      [("E", [("f", ["a.A..."])]), ("D", [("f", ["a.A..."])])] := by
  decide +kernel

end SymbolStore

end JavaCallGraph
