import JavaCallGraph.MethodContext
import JavaCallGraph.Proofs.CallGraph
import JavaCallGraph.Proofs.SymbolStore

/-!
# Resolution stays inside the project

The store writes the signature of a method from its stored entry, the graph and the snippets write it
from the declaration. The two agree, so a call that the store resolves leads to a method that has an
entry in the merged graph of the project and, if its lines are in the source, a snippet. A context
therefore shows the source of everything that its method is known to call.

* `SymbolStore.ofProject` — the store of some units and the names of library types.
* `LinesInSource` — the methods of a unit have their lines in its source.
* `MethodContext.build_eq_ok` — what a context holds.
* `resolved_callees_have_source` — the result.
-/

namespace JavaCallGraph

open Java

/-! ## Lines and contexts -/

/-- The store of a project: the types of its units, and library types by name only. -/
def SymbolStore.ofProject (units : List CompilationUnit) (libraryTypes : List String) : SymbolStore :=
  (SymbolStore.ofUnits units).addLibraryTypes libraryTypes

/-- The lines of every method that can be called by name are lines of the source. -/
def LinesInSource (u : CompilationUnit) : Prop :=
  ∀ scope ∈ Scope.callables u, 1 ≤ scope.method.startLine ∧
    scope.method.startLine ≤ scope.method.endLine ∧
    scope.method.endLine ≤ (Text.lines u.source).length

instance (u : CompilationUnit) : Decidable (LinesInSource u) :=
  inferInstanceAs (Decidable (∀ scope ∈ Scope.callables u, _))

theorem isSome_linesBetween {u : CompilationUnit} {start stop : Nat} (h_start : 1 ≤ start)
    (h_le : start ≤ stop) (h_stop : stop ≤ (Text.lines u.source).length) :
    (u.linesBetween start stop).isSome := by
  have h_zero : (start == 0) = false := by simpa using Nat.one_le_iff_ne_zero.1 h_start
  simp [CompilationUnit.linesBetween, h_zero, Nat.not_lt.2 h_le, Nat.not_lt.2 h_stop]

theorem contains_mergedSnippets_caller {units : List CompilationUnit}
    (h_lines : ∀ u ∈ units, LinesInSource u) {u : CompilationUnit} (hu : u ∈ units) {scope : Scope}
    (h_scope : scope ∈ Scope.callables u) :
    (mergedSnippets units).contains scope.caller.text = true := by
  obtain ⟨h_start, h_le, h_stop⟩ := h_lines u hu scope h_scope
  refine contains_mergedSnippets.2 ⟨u, hu, contains_snippetsOf.2 ⟨scope, h_scope, rfl, ?_⟩⟩
  exact isSome_linesBetween h_start h_le h_stop

/-- The context of a method with an entry and a snippet holds every callee that has a snippet. -/
theorem MethodContext.build_eq_ok {graph : CallGraph} {snippets : SnippetMap} {signature : String}
    (h_entry : graph.contains signature = true) (h_code : snippets.contains signature = true) :
    ∃ context, MethodContext.build signature graph snippets = .ok context ∧
      ∀ callee source, graph.Calls signature callee → snippets.get? callee = some source →
        context.dependencies.get? callee = some source := by
  obtain ⟨callees, h_callees⟩ := CallGraph.contains_iff.1 h_entry
  obtain ⟨code, h_code⟩ := KeyMap.contains_iff.1 h_code
  refine ⟨⟨signature, code, .ofList (callees.filterMap fun callee =>
    (snippets.get? callee).map (callee, ·))⟩, ?_, ?_⟩
  · rw [MethodContext.build, h_callees, h_code]
    rfl
  · rintro callee source ⟨callees', h_callees', h_mem⟩ h_source
    obtain rfl : callees = callees' := Option.some.inj (h_callees.symm.trans h_callees')
    refine KeyMap.get?_ofList (List.mem_filterMap.2 ⟨callee, h_mem, by simp [h_source]⟩) ?_
    intro other h_other
    obtain ⟨callee', -, h_pair⟩ := List.mem_filterMap.1 h_other
    obtain ⟨source', h_source', heq⟩ := Option.map_eq_some_iff.1 h_pair
    cases heq
    exact Option.some.inj (h_source'.symm.trans h_source)

/-- A solved call is resolved to the method that the solver found. -/
theorem Solver.signature_resolve_of_target {solver : Solver} {scope : Scope} {c : Call}
    {found : Target} (h : solver.target scope c = some found) :
    (solver.resolve scope c).signature = found.signature := by
  rw [Solver.resolve, h]

/-! ## Resolved calls -/

section Project

variable {units : List CompilationUnit} {libraryTypes : List String} {scope : Scope} {c : Call}
  {found : Target}

/-- A resolved callee has an entry, whichever solver the graph was built with. -/
theorem contains_mergedGraph_of_target (solver : Solver)
    (h : (SymbolStore.ofProject units libraryTypes).target scope c = some found) :
    (solver.mergedGraph units).contains found.signature.text = true := by
  obtain ⟨u, hu, callee, h_callee, heq⟩ := SymbolStore.target_declared h
  exact Solver.contains_mergedGraph.2 ⟨u, hu, callee, h_callee, by rw [heq]⟩

theorem contains_mergedSnippets_of_target (h_lines : ∀ u ∈ units, LinesInSource u)
    (h : (SymbolStore.ofProject units libraryTypes).target scope c = some found) :
    (mergedSnippets units).contains found.signature.text = true := by
  obtain ⟨u, hu, callee, h_callee, heq⟩ := SymbolStore.target_declared h
  rw [heq]
  exact contains_mergedSnippets_caller h_lines hu h_callee

end Project

/-- In a project without library sources, every call that the store resolves, in whatever scope, leads
to a method with an entry in the merged graph and, as far as lines are in the source, with a snippet;
the context of every caller then holds the source of every such callee. -/
theorem resolved_callees_have_source (units : List CompilationUnit) (libraryTypes : List String) :
    (∀ (scope : Scope) (c : Call) (found : Target),
      (SymbolStore.ofProject units libraryTypes).target scope c = some found →
      ((SymbolStore.ofProject units libraryTypes).solver.mergedGraph units).contains
          found.signature.text = true ∧
        ((∀ u ∈ units, LinesInSource u) →
          (mergedSnippets units).contains found.signature.text = true)) ∧
    ((∀ u ∈ units, LinesInSource u) →
      ∀ u ∈ units, ∀ scope ∈ Scope.callables u, ∃ context,
        MethodContext.build scope.caller.text
            ((SymbolStore.ofProject units libraryTypes).solver.mergedGraph units)
            (mergedSnippets units) = .ok context ∧
          ∀ c ∈ scope.method.calls, ∀ found,
            (SymbolStore.ofProject units libraryTypes).target scope c = some found →
            ∃ source, (mergedSnippets units).get? found.signature.text = some source ∧
              context.dependencies.get? found.signature.text = some source) := by
  refine ⟨fun scope c found h_target => ⟨contains_mergedGraph_of_target _ h_target,
    fun h_lines => contains_mergedSnippets_of_target h_lines h_target⟩, ?_⟩
  intro h_lines u hu scope h_scope
  obtain ⟨context, h_context, h_holds⟩ := MethodContext.build_eq_ok
    (Solver.contains_mergedGraph.2 ⟨u, hu, scope, h_scope, rfl⟩)
    (contains_mergedSnippets_caller h_lines hu h_scope)
  refine ⟨context, h_context, fun c h_call found h_target => ?_⟩
  obtain ⟨source, h_source⟩ :=
    KeyMap.contains_iff.1 (contains_mergedSnippets_of_target h_lines h_target)
  refine ⟨source, h_source, h_holds _ _ ?_ h_source⟩
  exact Solver.calls_mergedGraph.2 ⟨u, hu, scope, h_scope, rfl, c, h_call,
    congrArg Signature.text (Solver.signature_resolve_of_target h_target)⟩

/-! ## A project in two packages -/

namespace Service

/-- `repo.find("x").name()`, where `name` is inherited by what `find` returns. -/
def call : Call :=
  ⟨"name", some (.call "find" (some (.name "repo")) [.literal .string] 2), [], 2⟩

def method (name returnType : String) (params : List Param) (calls : List Call) (line : Nat) :
    Method :=
  ⟨name, some returnType, params, [], calls, [], false, true, line, line⟩

def type (name : String) (superclass : Option String) (fields : List Variable)
    (methods : List Method) : TypeDecl :=
  ⟨name, name, .classType, superclass, [], [], fields, methods, [], 1, 4⟩

/-- A repository with its types, and a service in another package that imports it. -/
def units : List CompilationUnit :=
  [⟨"Repo.java", "types\nfind\nname\n", some "a.data", [],
      [type "Repo" none [] [method "find" "Owner" [⟨"key", "String", false⟩] [] 2],
        type "Named" none [] [method "name" "String" [] [] 3],
        type "Owner" (some "Named") [] []]⟩,
    ⟨"Service.java", "type\nrun\n", some "a.web", [⟨"a.data.Repo", false, false⟩],
      [type "Service" none [⟨"repo", "Repo", none⟩] [method "run" "void" [] [call] 2]]⟩]

def scope : Scope :=
  ⟨.ofUnit (units.getD 1 default), type "Service" none [⟨"repo", "Repo", none⟩]
    [method "run" "void" [] [call] 2], method "run" "void" [] [call] 2⟩

end Service

/-- The service's call goes to the inherited method, whose source is in the context of `run`. -/
theorem service_context_holds_inherited_callee :
    (∀ u ∈ Service.units, LinesInSource u) ∧
    (SymbolStore.ofProject Service.units ["org.lib.Client"]).target Service.scope Service.call =
      some ⟨⟨"a.data", "Named", "name", []⟩, some "java.lang.String"⟩ ∧
    ∃ context, MethodContext.build "a.web.Service.run()"
        ((SymbolStore.ofProject Service.units ["org.lib.Client"]).solver.mergedGraph Service.units)
        (mergedSnippets Service.units) = .ok context ∧
      context.dependencies.get? "a.data.Named.name()" = some "name" := by
  have h_lines : ∀ u ∈ Service.units, LinesInSource u := by decide +kernel
  have h_target : (SymbolStore.ofProject Service.units ["org.lib.Client"]).target Service.scope
      Service.call = some ⟨⟨"a.data", "Named", "name", []⟩, some "java.lang.String"⟩ := by
    decide +kernel
  refine ⟨h_lines, h_target, ?_⟩
  obtain ⟨context, h_context, h_holds⟩ :=
    (resolved_callees_have_source Service.units ["org.lib.Client"]).2 h_lines
      (Service.units.getD 1 default) (List.mem_cons_of_mem _ List.mem_cons_self) Service.scope
      List.mem_cons_self
  obtain ⟨source, h_source, h_found⟩ := h_holds Service.call List.mem_cons_self _ h_target
  have h_key : (Service.scope.caller.text) = "a.web.Service.run()" := by decide +kernel
  rw [← h_key]
  refine ⟨context, h_context, h_found.trans ?_⟩
  rw [← h_source]
  decide +kernel

end JavaCallGraph
