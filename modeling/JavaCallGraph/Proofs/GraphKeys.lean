import JavaCallGraph.CallGraph.Build
import JavaCallGraph.Proofs.CallGraph
import JavaCallGraph.Proofs.DeclaredNames
import JavaCallGraph.Proofs.SignatureText
import JavaCallGraph.Proofs.TypePaths

/-!
# When declarations share an entry

The graph of a unit has an entry for every text that is the signature of a declaration, with the calls
of all declarations that have this text. Declarations of one type are kept apart by what the language
asks of them. Those of two types are kept apart by the paths of the types, and here a unit can fail: two
local classes of one name, in two methods of one class, have the same path.

* `Solver.callees?_graphOf` — the callees of an entry.
* `Solver.size_graphOf_eq_iff` — there are as many entries as declarations only if no two share one.
* `text_declared_eq_iff` — declarations whose signatures have one text.
* `graph_entries_apart_iff` — the entries of a unit are its declarations if types of one path have no
  method in common, and this is so if neighbouring types differ in name.
-/

namespace JavaCallGraph

open Java

/-! ## Entries and declarations -/

section Fold

variable {β : Type} {caller : β → String} {callees : β → List String}

/-- Growing a graph step by step adds, for each caller, the callees of all its steps in order. -/
theorem CallGraph.callees?_foldl_extend (xs : List β) (g : CallGraph) (k : String) :
    (xs.foldl (fun g x => g.extend (caller x) (callees x)) g).callees? k =
      if xs.filter (caller · = k) = [] then g.callees? k
      else some ((g.callees? k).getD [] ++ (xs.filter (caller · = k)).flatMap callees) := by
  induction xs generalizing g with
  | nil => rfl
  | cons x rest ih =>
    rw [List.foldl_cons, ih, callees?_extend]
    by_cases h : caller x = k
    · subst h
      simp only [decide_true, List.filter_cons_of_pos, reduceCtorEq, if_true, if_false]
      split
      · rename_i h_rest
        simp [h_rest]
      · simp
    · simp [h, Ne.symm h]

theorem filter_eq_singleton_of_nodup {f : β → String} {xs : List β} (h : (xs.map f).Nodup) {x : β}
    (h_mem : x ∈ xs) : xs.filter (f · = f x) = [x] := by
  induction xs with
  | nil => cases h_mem
  | cons y rest ih =>
    obtain ⟨h_new, h_rest⟩ := List.nodup_cons.1 h
    rcases List.mem_cons.1 h_mem with rfl | h_mem
    · rw [List.filter_cons_of_pos (by simp), List.filter_eq_nil_iff.2]
      intro z h_z
      have h_ne : f z ≠ f x := fun h_eq => h_new (List.mem_map.2 ⟨z, h_z, h_eq⟩)
      simpa using h_ne
    · have h_ne : f y ≠ f x := fun h_eq => h_new (List.mem_map.2 ⟨x, h_mem, h_eq.symm⟩)
      rw [List.filter_cons_of_neg (by simpa using h_ne), ih h_rest h_mem]

end Fold

namespace Solver

variable {solver : Solver} {u : CompilationUnit}

def calleesOf (solver : Solver) (scope : Scope) : List String :=
  (solver.callsOf scope).map (·.signature.text)

def declarationsOf (u : CompilationUnit) (k : String) : List Scope :=
  (Scope.callables u).filter (·.caller.text = k)

/-- An entry holds the calls of all declarations with its signature. -/
theorem callees?_graphOf (solver : Solver) (u : CompilationUnit) (k : String) :
    (solver.graphOf u).callees? k =
      if declarationsOf u k = [] then none
      else some ((declarationsOf u k).flatMap solver.calleesOf) := by
  rw [graphOf_eq]
  exact CallGraph.callees?_foldl_extend _ _ k

theorem size_graphOf (solver : Solver) (u : CompilationUnit) :
    (solver.graphOf u).size = ((Scope.callables u).map (·.caller.text)).dedup.length := by
  refine KeyMap.size_eq_length_dedup fun k => ?_
  rw [List.mem_map]
  exact contains_graphOf

theorem size_graphOf_eq_iff (solver : Solver) (u : CompilationUnit) :
    (solver.graphOf u).size = (Scope.callables u).length ↔
      ((Scope.callables u).map (·.caller.text)).Nodup := by
  rw [size_graphOf, ← List.dedup_eq_self]
  constructor
  · intro h
    exact (List.dedup_sublist _).eq_of_length (by rw [h, List.length_map])
  · intro h
    rw [h, List.length_map]

end Solver

/-! ## Counting methods -/

theorem Tally.methods_foldl_addCall (routes : List Route) (t : Tally) :
    (routes.foldl addCall t).methods = t.methods := by
  induction routes generalizing t with
  | nil => rfl
  | cons route rest ih =>
    rw [List.foldl_cons, ih]
    cases route <;> rfl

theorem Tally.methods_addMethod (t : Tally) (routes : List Route) :
    (t.addMethod routes).methods = t.methods + 1 :=
  congrArg (· + 1) (methods_foldl_addCall routes t)

theorem Solver.methods_tallyOf (solver : Solver) (u : CompilationUnit) :
    (solver.tallyOf u).methods = (Scope.callables u).length := by
  have h_fold : ∀ (callers : List (Signature × List Resolution)) (t : Tally),
      (callers.foldl (fun t c => t.addMethod (c.2.map (·.route))) t).methods =
        t.methods + callers.length := by
    intro callers
    induction callers with
    | nil => exact fun t => rfl
    | cons c rest ih =>
      intro t
      rw [List.foldl_cons, ih, Tally.methods_addMethod, List.length_cons]
      omega
  calc (solver.tallyOf u).methods
      = 0 + (solver.callersOf u).length := h_fold _ _
    _ = (Scope.callables u).length := by rw [Nat.zero_add, callersOf, List.length_map]

/-! ## Declarations with one text -/

def ImportTable.paramTypes (imports : ImportTable) (m : Method) : List String :=
  m.params.map fun p => imports.qualify p.type

def ImportTable.Differ (imports : ImportTable) (m m' : Method) : Prop :=
  m.name ≠ m'.name ∨ imports.paramTypes m ≠ imports.paramTypes m'

instance (imports : ImportTable) (m m' : Method) : Decidable (imports.Differ m m') :=
  inferInstanceAs (Decidable (_ ∨ _))

/-- The qualified types of parameters are such that a reader can tell where they end in the text of a
signature. -/
def ReadableParams (u : CompilationUnit) : Prop :=
  ∀ d ∈ u.allTypes, ∀ m ∈ d.callables, ∀ p ∈ (ImportTable.ofUnit u).paramTypes m, Signature.IsParamText p

instance (u : CompilationUnit) : Decidable (ReadableParams u) :=
  inferInstanceAs (Decidable (∀ d ∈ _, _))

/-- Inside each type, the methods differ in name or types of parameters. -/
def MethodsApart (u : CompilationUnit) : Prop :=
  ∀ d ∈ u.allTypes, d.callables.Pairwise (ImportTable.ofUnit u).Differ

instance (u : CompilationUnit) : Decidable (MethodsApart u) :=
  inferInstanceAs (Decidable (∀ d ∈ _, _))

/-- Types with the same path have no method in common. -/
def PathsApart (u : CompilationUnit) : Prop :=
  u.allTypes.Pairwise fun d e => d.qualifiedName = e.qualifiedName →
    ∀ m ∈ d.callables, ∀ m' ∈ e.callables, (ImportTable.ofUnit u).Differ m m'

instance (u : CompilationUnit) : Decidable (PathsApart u) :=
  inferInstanceAs (Decidable (List.Pairwise _ _))

/-- Declarations whose signatures have the same text are alike in all that the text shows. -/
theorem text_declared_eq_iff {imports : ImportTable} {owner owner' : String} {m m' : Method}
    (h_owner : '(' ∉ owner.toList) (h_owner' : '(' ∉ owner'.toList)
    (h_m : Signature.IsMethodName m.name ∧ ∀ p ∈ imports.paramTypes m, Signature.IsParamText p)
    (h_m' : Signature.IsMethodName m'.name ∧ ∀ p ∈ imports.paramTypes m', Signature.IsParamText p) :
    (Signature.declared imports owner m).text = (Signature.declared imports owner' m').text ↔
      owner = owner' ∧ ¬ imports.Differ m m' := by
  constructor
  · intro h
    -- the package is the same, so what follows it is
    have h_rest : owner ++ "." ++ m.name ++ "(" ++ ", ".intercalate (imports.paramTypes m) ++ ")" =
        owner' ++ "." ++ m'.name ++ "(" ++ ", ".intercalate (imports.paramTypes m') ++ ")" := by
      simp only [Signature.text, Signature.declared, String.append_assoc] at h
      simpa only [String.append_assoc, ImportTable.paramTypes] using
        (String.append_right_inj _).1 ((String.append_right_inj _).1 h)
    obtain ⟨h_type, h_name, h_params⟩ := Signature.parts_of_text_eq h_owner h_owner' h_m.1 h_m'.1
      h_m.2 h_m'.2 h_rest
    exact ⟨h_type, by simp [ImportTable.Differ, h_name, h_params]⟩
  · rintro ⟨rfl, h_same⟩
    obtain ⟨h_name, h_params⟩ : m.name = m'.name ∧ imports.paramTypes m = imports.paramTypes m' := by
      simpa [ImportTable.Differ] using h_same
    rw [ImportTable.paramTypes, ImportTable.paramTypes] at h_params
    simp only [Signature.declared, h_name, h_params]

/-- The texts of all declarations differ if no two types of one path share a method. -/
theorem nodup_callers_iff {u : CompilationUnit} (h_paths : ∀ d ∈ u.allTypes, '(' ∉ d.qualifiedName.toList)
    (h_names : ∀ d ∈ u.allTypes, ∀ m ∈ d.callables, Signature.IsMethodName m.name)
    (h_params : ReadableParams u) (h_methods : MethodsApart u) :
    ((Scope.callables u).map (·.caller.text)).Nodup ↔ PathsApart u := by
  have h_texts : (Scope.callables u).map (·.caller.text) = u.allTypes.flatMap fun d =>
      d.callables.map fun m => (Signature.declared (ImportTable.ofUnit u) d.qualifiedName m).text := by
    simp [Scope.callables, CompilationUnit.callables, List.map_flatMap, Scope.caller, Function.comp_def]
  rw [h_texts, List.Nodup, List.pairwise_flatMap]
  -- texts in two types, or in one type twice, are compared part by part
  have h_text : ∀ d ∈ u.allTypes, ∀ e ∈ u.allTypes, ∀ m ∈ d.callables, ∀ m' ∈ e.callables,
      ((Signature.declared (ImportTable.ofUnit u) d.qualifiedName m).text ≠
        (Signature.declared (ImportTable.ofUnit u) e.qualifiedName m').text ↔
        (d.qualifiedName = e.qualifiedName → (ImportTable.ofUnit u).Differ m m')) := by
    intro d h_d e h_e m h_m m' h_m'
    rw [Ne, text_declared_eq_iff (h_paths d h_d) (h_paths e h_e)
      ⟨h_names d h_d m h_m, h_params d h_d m h_m⟩ ⟨h_names e h_e m' h_m', h_params e h_e m' h_m'⟩,
      not_and, not_not]
  constructor
  · rintro ⟨-, h_across⟩
    refine List.Pairwise.imp_of_mem ?_ h_across
    intro d e h_d h_e h_ne h_path m h_m m' h_m'
    exact (h_text d h_d e h_e m h_m m' h_m').1
      (h_ne _ (List.mem_map.2 ⟨m, h_m, rfl⟩) _ (List.mem_map.2 ⟨m', h_m', rfl⟩)) h_path
  · intro h_apart
    constructor
    · intro d h_d
      rw [List.pairwise_map]
      refine List.Pairwise.imp_of_mem ?_ (h_methods d h_d)
      intro m m' h_m h_m' h_differ
      exact (h_text d h_d d h_d m h_m m' h_m').2 fun _ => h_differ
    · refine List.Pairwise.imp_of_mem ?_ h_apart
      intro d e h_d h_e h_differ x h_x y h_y
      obtain ⟨m, h_m, rfl⟩ := List.mem_map.1 h_x
      obtain ⟨m', h_m', rfl⟩ := List.mem_map.1 h_y
      exact (h_text d h_d e h_e m h_m m' h_m').2 fun h_path => h_differ h_path m h_m m' h_m'

/-! ## Units -/

theorem isMethodName_of_parse {path source : String} {u : CompilationUnit}
    (h : CompilationUnit.parse path source = .ok u) {d : TypeDecl} (h_d : d ∈ u.allTypes) {m : Method}
    (h_m : m ∈ d.callables) : Signature.IsMethodName m.name := by
  rcases CompilationUnit.isWord_method_of_parse h h_d h_m with h_name | h_name
  · rw [h_name]
    decide
  · exact ⟨h_name.notMem_dot, h_name.notMem_paren⟩

theorem exists_tree_of_parse {path source : String} {u : CompilationUnit}
    (h : CompilationUnit.parse path source = .ok u) : ∃ t : Tree, u = t.toUnit path source := by
  unfold CompilationUnit.parse at h
  split at h
  · rename_i t _
    exact ⟨t, (Except.ok.inj h).symm⟩
  · cases h

/-- There are as many entries as methods, and each holds the calls of the one declaration with its
signature. -/
def Solver.OneDeclarationEach (solver : Solver) (u : CompilationUnit) : Prop :=
  (solver.graphOf u).size = (solver.tallyOf u).methods ∧
  ∀ k callees, (solver.graphOf u).callees? k = some callees →
    ∃ scope, declarationsOf u k = [scope] ∧ callees = solver.calleesOf scope

theorem Solver.oneDeclarationEach_iff (solver : Solver) (u : CompilationUnit) :
    solver.OneDeclarationEach u ↔ ((Scope.callables u).map (·.caller.text)).Nodup := by
  rw [OneDeclarationEach, methods_tallyOf, size_graphOf_eq_iff]
  constructor
  · exact And.left
  · intro h_nodup
    refine ⟨h_nodup, fun k callees h_entry => ?_⟩
    obtain ⟨scope, h_scope, rfl⟩ := contains_graphOf.1 (CallGraph.contains_iff.2 ⟨callees, h_entry⟩)
    have h_one : declarationsOf u scope.caller.text = [scope] :=
      filter_eq_singleton_of_nodup h_nodup h_scope
    rw [callees?_graphOf, h_one] at h_entry
    exact ⟨scope, h_one, by simpa [eq_comm] using h_entry⟩

/-- What a text declares can be tested. -/
theorem exists_unit_of_test {path source : String} {test : CompilationUnit → Bool}
    (h : (CompilationUnit.parse path source).toOption.any test = true) :
    ∃ u, CompilationUnit.parse path source = .ok u ∧ test u = true := by
  cases h_parse : CompilationUnit.parse path source with
  | ok u => exact ⟨u, rfl, by simpa [h_parse, Except.toOption] using h⟩
  | error e => simp [h_parse, Except.toOption] at h

/-- The entries of a unit are its declarations, each with its own calls, exactly if types with one path
have no method in common; and it is enough that no type has two types of one name directly in it. -/
theorem graph_entries_apart_iff {path source : String} {u : CompilationUnit}
    (h_parse : CompilationUnit.parse path source = .ok u) (h_params : ReadableParams u)
    (h_methods : MethodsApart u) (solver : Solver) :
    (solver.OneDeclarationEach u ↔ PathsApart u) ∧ (Tree.NamesApart u.types → PathsApart u) := by
  obtain ⟨t, rfl⟩ := exists_tree_of_parse h_parse
  have h_from := Tree.pathsFrom_toUnit path source t
  have h_words := fun d => CompilationUnit.isWord_of_parse (d := d) h_parse
  refine ⟨?_, fun h_apart => ?_⟩
  · have h_paths := h_from.notMem_path (by decide) fun d h_d => (h_words d h_d).notMem_paren
    exact (solver.oneDeclarationEach_iff _).trans (nodup_callers_iff h_paths
      (fun d h_d m h_m => isMethodName_of_parse h_parse h_d h_m) h_params h_methods)
  · have h_nodup := Tree.nodup_paths_allOf none _ h_from (fun d h_d => (h_words d h_d).notMem_dot) h_apart
    exact (List.pairwise_map.1 h_nodup).imp fun h_ne h_path => absurd h_path h_ne

/-- Overloads, one with a generic parameter, and a local class with a method of the same name. -/
def overloads : String := "class A{void f(M<K,V> m){class L{void f(){g();}}}void f(int i,int j){}}"

/-- Neighbours differ in name, so each of the three methods has its entry. -/
theorem overloads_have_own_entries :
    ∃ u, CompilationUnit.parse "A.java" overloads = .ok u ∧ ReadableParams u ∧ MethodsApart u ∧
      Tree.NamesApart u.types ∧ Solver.blind.OneDeclarationEach u := by
  have h_test : (CompilationUnit.parse "A.java" overloads).toOption.any (fun u =>
      decide (ReadableParams u ∧ MethodsApart u ∧ Tree.NamesApart u.types)) = true := by
    decide +kernel
  obtain ⟨u, h_parse, h_all⟩ := exists_unit_of_test h_test
  obtain ⟨h_params, h_methods, h_apart⟩ := of_decide_eq_true h_all
  obtain ⟨h_iff, h_enough⟩ := graph_entries_apart_iff h_parse h_params h_methods Solver.blind
  exact ⟨u, h_parse, h_params, h_methods, h_apart, h_iff.2 (h_enough h_apart)⟩

/-- Two initializers of a class, each with a local class `L` of its own. -/
def localNamesakes : String := "class A{{class L{void r(){x();}}}{class L{void r(){y();}}}}"

/-- The methods of the two local classes share an entry, with the calls of both. -/
theorem local_namesakes_share_entry :
    ∃ u, CompilationUnit.parse "A.java" localNamesakes = .ok u ∧ ReadableParams u ∧ MethodsApart u ∧
      (Solver.blind.graphOf u).size = 1 ∧ (Solver.blind.tallyOf u).methods = 2 ∧
      (Solver.blind.graphOf u).callees? "default.A.L.r()" =
        some ["default.A.L.x()", "default.A.L.y()"] := by
  have h_test : (CompilationUnit.parse "A.java" localNamesakes).toOption.any (fun u =>
      decide (ReadableParams u ∧ MethodsApart u ∧ (Solver.blind.graphOf u).size = 1 ∧
        (Solver.blind.tallyOf u).methods = 2 ∧ (Solver.blind.graphOf u).callees? "default.A.L.r()" =
          some ["default.A.L.x()", "default.A.L.y()"])) = true := by
    decide +kernel
  obtain ⟨u, h_parse, h_all⟩ := exists_unit_of_test h_test
  exact ⟨u, h_parse, of_decide_eq_true h_all⟩

end JavaCallGraph
