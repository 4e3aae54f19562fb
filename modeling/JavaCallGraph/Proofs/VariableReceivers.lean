import JavaCallGraph.Proofs.GraphShape
import JavaCallGraph.Proofs.KnownTypes
import JavaCallGraph.Proofs.Receivers

/-!
# Calls on variables

A bare name that a local variable, a parameter or a field has is that variable and nothing else, even if
an import, an inherited field or a type has the same name. A call on it is resolved through the type that
the declaration gives to the variable: by the method that is found on this type, or else by the type
itself; where the type is not known, by its qualified name. What else the name could stand for is looked
at in four places, and each of them asks for a variable first.

* `Resolution.throughType` — a call on a variable of a written type.
* `Binding.declaredType_eq_none_iff` — variables without a written type.
* `SymbolStore.spelledType?_of_binding`, `SymbolStore.typeOf_of_binding`, `Solver.infer_of_binding` — the
  places where a name is looked at.
* `variable_receiver_by_declaration` — the result.
-/

namespace JavaCallGraph

open Java

/-- What a call of `name` on a variable is resolved to, given what is written for its type. `known` tells
the known type that a text denotes, and `find` the method of this name on a type. -/
def Resolution.throughType (imports : ImportTable) (name : String) (known : String → Option String)
    (find : String → Option Target) (declared : Option String) : Resolution :=
  declared.elim ⟨.unresolved name, .unresolved⟩ fun raw =>
    (known raw).elim ⟨.onType (imports.qualify raw) name, .inferred .localVariable⟩ fun type =>
      (find type).elim ⟨.onType type name, .inferred .exact⟩ fun found => ⟨found.signature, .solved⟩

/-- Only a `var` that is not initialized with a new object has no type. -/
theorem Binding.declaredType_eq_none_iff {b : Binding} :
    b.declaredType = none ↔
      ∃ v : Variable, (b = .localVariable v ∨ b = .field v) ∧ v.type = "var" ∧ v.constructed = none := by
  have h_variable : ∀ v : Variable,
      v.declaredType = none ↔ v.type = "var" ∧ v.constructed = none := by
    intro v
    rw [Variable.declaredType]
    by_cases h_var : v.type = "var" <;> simp [h_var]
  cases b with
  | localVariable v => simp [Binding.declaredType, h_variable]
  | param p => simp [Binding.declaredType]
  | field v => simp [Binding.declaredType, h_variable]

section

variable {scope : Scope} {x : String} {b : Binding}

namespace SymbolStore

variable (store : SymbolStore)

/-- The name of a variable spells no type. -/
theorem spelledType?_of_binding (h : scope.binding x = some b) :
    store.spelledType? scope (.name x) = none := by
  delta spelledType?
  simp [h]

theorem typeOf_of_binding (h : scope.binding x = some b) :
    store.typeOf scope (.name x) = b.declaredType.bind (store.resolveName scope.imports) := by
  rw [typeOf, nameType?, h]

/-- A call on a variable is looked up on the type that is written for it. -/
theorem target_of_binding {c : Call} (h_receiver : c.receiver = some (.name x))
    (h : scope.binding x = some b) :
    store.target scope c = (b.declaredType.bind (store.resolveName scope.imports)).bind fun type =>
      store.findMethod? type c.name (store.typesOf scope c.arguments) := by
  rw [store.target_of_receiver scope h_receiver, store.spelledType?_of_binding h,
    store.typeOf_of_binding h]
  rfl

end SymbolStore

namespace Solver

variable (solver : Solver)

/-- No import is asked for the name of a variable. -/
theorem infer_of_binding (h : scope.binding x = some b) :
    solver.infer scope (some (.name x)) =
      ((solver.typeOf scope (.name x)).map (⟨·, .exact⟩)).or
        (b.declaredType.map fun raw => ⟨scope.imports.qualify raw, .localVariable⟩) := by
  rw [infer, inferExpr, exactHint, Scope.nameHint, h]
  simp

/-- A solver that knows types of variables through `known` and methods through `find` resolves calls on
variables through their types. -/
theorem resolve_of_binding {c : Call} (h_receiver : c.receiver = some (.name x))
    (h : scope.binding x = some b) {known : String → Option String} {find : String → Option Target}
    (h_type : solver.typeOf scope (.name x) = b.declaredType.bind known)
    (h_target : solver.target scope c = (b.declaredType.bind known).bind find) :
    solver.resolve scope c = .throughType scope.imports c.name known find b.declaredType := by
  have h_infer := solver.infer_of_binding h
  rw [h_type] at h_infer
  rw [resolve, h_receiver, h_target, h_infer]
  generalize b.declaredType = declared
  cases declared with
  | none => simp [Resolution.throughType]
  | some raw =>
    cases h_known : known raw with
    | none => simp [Resolution.throughType, h_known]
    | some type =>
      cases h_find : find type with
      | none => simp [Resolution.throughType, h_known, h_find]
      | some found => simp [Resolution.throughType, h_known, h_find]

theorem resolve_blind_of_binding {c : Call} (h_receiver : c.receiver = some (.name x))
    (h : scope.binding x = some b) :
    blind.resolve scope c =
      .throughType scope.imports c.name (fun _ => none) (fun _ => none) b.declaredType := by
  refine blind.resolve_of_binding h_receiver h ?_ ?_
  · simp [blind]
  · simp [blind]

end Solver

theorem SymbolStore.resolve_of_binding (store : SymbolStore) {c : Call}
    (h_receiver : c.receiver = some (.name x)) (h : scope.binding x = some b) :
    store.solver.resolve scope c =
      .throughType scope.imports c.name (store.resolveName scope.imports)
        (store.findMethod? · c.name (store.typesOf scope c.arguments)) b.declaredType :=
  store.solver.resolve_of_binding h_receiver h (store.typeOf_of_binding h)
    (store.target_of_binding h_receiver h)

end

/-- A call on the name of a variable is resolved through the declaration of the variable alone. Nothing is
known about it if no type is written, which is so only for a `var` without a new object. Otherwise it
reaches the method that is found on the known type that is written, or a method of this type; if the type
is not known, a method of the type by its qualified name. The solver that knows nothing knows no type. So
another variable with the same written type gets the same answer, whatever either name could stand for. -/
theorem variable_receiver_by_declaration {scope : Scope} {c : Call} {x : String} {b : Binding}
    (h_receiver : c.receiver = some (.name x)) (h_binding : scope.binding x = some b) :
    (b.declaredType = none ↔
      ∃ v : Variable, (b = .localVariable v ∨ b = .field v) ∧ v.type = "var" ∧ v.constructed = none) ∧
    Solver.blind.resolve scope c =
      .throughType scope.imports c.name (fun _ => none) (fun _ => none) b.declaredType ∧
    (∀ store : SymbolStore, store.solver.resolve scope c =
      .throughType scope.imports c.name (store.resolveName scope.imports)
        (store.findMethod? · c.name (store.typesOf scope c.arguments)) b.declaredType) ∧
    (∀ (store : SymbolStore) (raw type : String), b.declaredType = some raw → TypeName.HasName raw →
      store.resolveName scope.imports raw = some type → store.isKnown type = true) ∧
    ∀ solver : Solver, solver.Provided → ∀ y b', scope.binding y = some b' →
      b'.declaredType = b.declaredType →
      solver.resolve scope { c with receiver := some (.name y) } = solver.resolve scope c := by
  refine ⟨Binding.declaredType_eq_none_iff, Solver.resolve_blind_of_binding h_receiver h_binding,
    fun store => store.resolve_of_binding h_receiver h_binding, ?_, ?_⟩
  · intro store raw type _ h_name h_known
    exact SymbolStore.isKnown_of_resolveName h_name h_known
  · intro solver h_solver y b' h_other h_same
    cases h_solver with
    | blind =>
      rw [Solver.resolve_blind_of_binding h_receiver h_binding, ← h_same]
      exact Solver.resolve_blind_of_binding rfl h_other
    | stored store =>
      rw [store.resolve_of_binding h_receiver h_binding, ← h_same]
      exact store.resolve_of_binding rfl h_other

namespace Clash

def type (name : String) (superclass : Option String) (fields : List Variable) (methods : List Method) :
    TypeDecl :=
  ⟨name, name, .classType, superclass, [], [], fields, methods, [], 1, 1⟩

def method (name : String) (locals : List Variable) : Method :=
  ⟨name, some "void", [], locals, [], [], false, true, 1, 1⟩

/-- `Timer Clock; var later = clock();`. -/
def run : Method := method "run" [⟨"Clock", "Timer", none⟩, ⟨"later", "var", none⟩]

def desk : TypeDecl := type "Desk" (some "Base") [⟨"timer", "Timer", none⟩] [run]

/-- `Clock` is the name of an import, of a class, of an inherited field and of a local variable. -/
def unit : CompilationUnit :=
  ⟨"Desk.java", "", some "a", [⟨"lib.Clock", false, false⟩],
    [type "Clock" none [] [method "tick" []], type "Watch" none [] [method "tick" []],
      type "Timer" none [] [method "tick" []], type "Base" none [⟨"Clock", "Watch", none⟩] [], desk]⟩

def store : SymbolStore := .ofUnits [unit]

def scope : Scope := ⟨.ofUnit unit, desk, run⟩

def call (name receiver : String) : Call := ⟨name, some (.name receiver), [], 1⟩

end Clash

/-- Calls on the local variable `Clock` are calls on its type `Timer`, as those on the field `timer` are;
one on `later` is not resolved. -/
theorem clock_is_local_variable :
    Clash.store.solver.resolve Clash.scope (Clash.call "tick" "Clock") =
      ⟨⟨"a", "Timer", "tick", []⟩, .solved⟩ ∧
    Clash.store.solver.resolve Clash.scope (Clash.call "stop" "Clock") =
      ⟨⟨"a", "Timer", "stop", []⟩, .inferred .exact⟩ ∧
    Solver.blind.resolve Clash.scope (Clash.call "tick" "Clock") =
      ⟨⟨"a", "Timer", "tick", []⟩, .inferred .localVariable⟩ ∧
    Clash.store.solver.resolve Clash.scope (Clash.call "tick" "later") =
      ⟨.unresolved "tick", .unresolved⟩ ∧
    Clash.store.solver.resolve Clash.scope (Clash.call "tick" "timer") =
      Clash.store.solver.resolve Clash.scope (Clash.call "tick" "Clock") := by
  have h_clock : Clash.scope.binding "Clock" = some (.localVariable ⟨"Clock", "Timer", none⟩) := by decide
  have h_later : Clash.scope.binding "later" = some (.localVariable ⟨"later", "var", none⟩) := by decide
  have h_timer : Clash.scope.binding "timer" = some (.field ⟨"timer", "Timer", none⟩) := by decide
  obtain ⟨-, h_blind, h_tick, -, h_same⟩ :=
    variable_receiver_by_declaration (c := Clash.call "tick" "Clock") rfl h_clock
  obtain ⟨-, -, h_stop, -⟩ :=
    variable_receiver_by_declaration (c := Clash.call "stop" "Clock") rfl h_clock
  obtain ⟨-, -, h_none, -⟩ :=
    variable_receiver_by_declaration (c := Clash.call "tick" "later") rfl h_later
  refine ⟨(h_tick Clash.store).trans ?_, (h_stop Clash.store).trans ?_, h_blind.trans ?_,
    h_none Clash.store, h_same _ (.stored Clash.store) "timer" _ h_timer rfl⟩
  · decide +kernel
  · decide +kernel
  · decide +kernel

end JavaCallGraph
