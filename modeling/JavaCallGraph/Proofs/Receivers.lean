import JavaCallGraph.SymbolStore.Solve

/-!
# Types that calls are looked up on

A call is looked up on the type that its receiver spells, if it spells a stored one, and otherwise on
the type that its receiver has. A name that spells a type has this very type, because names of variables
and fields are left out. A dotted receiver such as `Outer.Inner` is not treated so: it may spell a type
and read a field at once. Then the receiver has the type of the field, and the call is looked up on the
other one.

* `fieldRead?` — the type of the field that an expression reads.
* `typeOf_of_spelledType?` — the type of an expression that spells a stored type.
* `calls_follow_receiver_type_iff` — when calls are looked up on the type that their receiver has.
* `spelled_type_goes_before_field` — a receiver that has another type.
-/

namespace JavaCallGraph

open Java

namespace SymbolStore

/-- The type of the field that an expression reads from an object of known type. -/
def fieldRead? (store : SymbolStore) (scope : Scope) : Expr → Option String
  | .field object name => (store.typeOf scope object).bind (store.fieldType? · name)
  | _ => none

section

variable (store : SymbolStore) (scope : Scope)

/-- An expression that spells a stored type has that type, unless it reads a field. -/
theorem typeOf_of_spelledType? {e : Expr} {type : String} (h : store.spelledType? scope e = some type) :
    store.typeOf scope e = some ((store.fieldRead? scope e).getD type) := by
  cases e with
  | name text =>
    obtain ⟨h_type, -⟩ := Option.filter_eq_some_iff.1 h
    by_cases h_used : (scope.binding text).isSome || (store.fieldType? scope.ownerName text).isSome
    · simp [h_used] at h_type
    · -- neither a variable nor a field, so the name is looked up as a type here too
      simp only [h_used, Bool.false_eq_true, if_false, Option.bind_some] at h_type
      simp only [Bool.or_eq_true, not_or, Bool.not_eq_true, Option.isSome_eq_false_iff,
        Option.isNone_iff_eq_none] at h_used
      rw [typeOf, nameType?, h_used.1]
      simp [h_used.2, h_type, fieldRead?]
  | field object name =>
    obtain ⟨h_type, -⟩ := Option.filter_eq_some_iff.1 h
    rw [typeOf]
    simp only at h_type
    rw [h_type, fieldRead?]
    cases (store.typeOf scope object).bind (store.fieldType? · name) <;> rfl
  | _ => cases h

/-- A call is looked up on one type at most. -/
theorem target_of_receiver {c : Call} {r : Expr} (h : c.receiver = some r) :
    store.target scope c = (store.spelledType? scope r <|> store.typeOf scope r).bind fun type =>
      store.findMethod? type c.name (store.typesOf scope c.arguments) := by
  rw [target, h, owners]
  cases store.spelledType? scope r <|> store.typeOf scope r <;> simp

/-- Calls on a receiver are all looked up on the type that it has exactly if the receiver does not spell
one type and read a field of another, or if these two types answer every call alike. A receiver that
spells a stored type is looked up on that type, whatever it reads. -/
theorem calls_follow_receiver_type_iff (r : Expr) :
    ((∀ c : Call, c.receiver = some r → store.target scope c =
        (store.typeOf scope r).bind fun type =>
          store.findMethod? type c.name (store.typesOf scope c.arguments)) ↔
      ∀ spelled read, store.spelledType? scope r = some spelled → store.fieldRead? scope r = some read →
        ∀ (name : String) (arguments : List Expr),
          store.findMethod? spelled name (store.typesOf scope arguments) =
            store.findMethod? read name (store.typesOf scope arguments)) ∧
    (∀ spelled, store.spelledType? scope r = some spelled → ∀ c : Call, c.receiver = some r →
      store.target scope c = store.findMethod? spelled c.name (store.typesOf scope c.arguments)) := by
  have h_spelled : ∀ spelled, store.spelledType? scope r = some spelled → ∀ c : Call,
      c.receiver = some r → store.target scope c =
        store.findMethod? spelled c.name (store.typesOf scope c.arguments) := by
    intro spelled h_type c h_receiver
    rw [store.target_of_receiver scope h_receiver, h_type]
    rfl
  refine ⟨⟨?_, ?_⟩, h_spelled⟩
  · intro h_calls spelled read h_type h_read name arguments
    have h_call := h_calls ⟨name, some r, arguments, 0⟩ rfl
    rw [h_spelled spelled h_type _ rfl, store.typeOf_of_spelledType? scope h_type, h_read] at h_call
    exact h_call
  · intro h_same c h_receiver
    cases h_type : store.spelledType? scope r with
    | none =>
      rw [store.target_of_receiver scope h_receiver, h_type]
      rfl
    | some spelled =>
      rw [h_spelled spelled h_type c h_receiver, store.typeOf_of_spelledType? scope h_type]
      cases h_read : store.fieldRead? scope r with
      | none => rfl
      | some read => exact h_same spelled read h_type h_read c.name c.arguments

end

namespace Obscured

def type (name path : String) (fields : List Variable) (methods : List Method) (types : List TypeDecl) :
    TypeDecl :=
  ⟨name, path, .classType, none, [], [], fields, methods, types, 1, 1⟩

def method (name : String) : Method := ⟨name, some "void", [], [], [], [], false, true, 1, 1⟩

/-- The class `Outer` with a class `Inner` in it and some fields, a class `Other` and one that calls. -/
def unit (fields : List Variable) : CompilationUnit :=
  ⟨"Outer.java", "", some "a", [],
    [type "Other" "Other" [] [method "go"] [],
      type "Outer" "Outer" fields [] [type "Inner" "Outer.Inner" [] [method "go"] []],
      type "User" "User" [] [method "run"] []]⟩

def store (fields : List Variable) : SymbolStore := .ofUnits [unit fields]

def scope (fields : List Variable) : Scope :=
  ⟨.ofUnit (unit fields), type "User" "User" [] [method "run"] [], method "run"⟩

def receiver : Expr := .field (.name "Outer") "Inner"

/-- The call `Outer.Inner.go()`. -/
def call : Call := ⟨"go", some receiver, [], 1⟩

def target (path : String) : Target := ⟨⟨"a", path, "go", []⟩, none⟩

end Obscured

/-- Without fields `Outer.Inner` has the type that it spells, and calls on it are looked up there. -/
theorem static_call_follows_receiver_type :
    (Obscured.store []).typeOf (Obscured.scope []) Obscured.receiver = some "a.Outer.Inner" ∧
    (Obscured.store []).target (Obscured.scope []) Obscured.call =
      (Obscured.store []).findMethod? "a.Outer.Inner" "go" [] := by
  have h_type : (Obscured.store []).typeOf (Obscured.scope []) Obscured.receiver =
      some "a.Outer.Inner" := by decide +kernel
  have h_read : (Obscured.store []).fieldRead? (Obscured.scope []) Obscured.receiver = none := by
    decide +kernel
  have h_call := (calls_follow_receiver_type_iff (Obscured.store []) (Obscured.scope [])
    Obscured.receiver).1.2 (fun _ _ _ h => by simp [h_read] at h) Obscured.call rfl
  rw [h_type] at h_call
  exact ⟨h_type, h_call⟩

/-- If `Outer` has a field `Inner` too, `Outer.Inner` has the type of the field, and yet the call finds
the method of the class `Inner`. -/
theorem spelled_type_goes_before_field :
    ¬ ∀ (store : SymbolStore) (scope : Scope) (c : Call) (r : Expr), c.receiver = some r → r ≠ .super →
      store.target scope c = (store.typeOf scope r).bind fun type =>
        store.findMethod? type c.name (store.typesOf scope c.arguments) := by
  intro h
  have h_call := h (Obscured.store [⟨"Inner", "Other", none⟩])
    (Obscured.scope [⟨"Inner", "Other", none⟩]) Obscured.call Obscured.receiver rfl
    (by intro h_super; cases h_super)
  have h_type : (Obscured.store [⟨"Inner", "Other", none⟩]).typeOf
      (Obscured.scope [⟨"Inner", "Other", none⟩]) Obscured.receiver = some "a.Other" := by
    decide +kernel
  have h_target : (Obscured.store [⟨"Inner", "Other", none⟩]).target
      (Obscured.scope [⟨"Inner", "Other", none⟩]) Obscured.call =
        some (Obscured.target "Outer.Inner") := by
    decide +kernel
  have h_other : (Obscured.store [⟨"Inner", "Other", none⟩]).findMethod? "a.Other" "go" [] =
      some (Obscured.target "Other") := by
    decide +kernel
  rw [h_target, h_type] at h_call
  exact absurd (h_call.trans h_other) (by decide)

end SymbolStore

end JavaCallGraph
