import JavaCallGraph.Java.Outline
import Mathlib.Data.List.Forall2

/-!
# Where types, methods and calls stand

The lowering of a tree keeps no positions. This module walks a tree once more, along the same branches,
and notes at which nodes the types, methods and calls stand; a position is a path of child indices from
the root.

* `Tree.visit`, `Tree.sites` — the traversal and the types of a unit with their methods and calls.
* `Tree.action` — what is done at a node, by the surroundings in which it is met.
* `Tree.walk_step`, `Tree.member_step` — the lowering does the same at every node.
* `Tree.walk_at`, `Tree.bodyMembers_at` — it gives what stands at the noted positions.
* `Tree.allTypes_toUnit_at` — so does the lowering of a unit.
-/

namespace JavaCallGraph.Java

/-- A path of child indices from the root of a tree. -/
abbrev Position := List Nat

/-- The places of a method and of the calls that are recorded for it. -/
structure MethodSite where
  position : Position
  calls : List Position
  deriving DecidableEq

/-- The places of a type and of its methods. -/
structure TypeSite where
  position : Position
  methods : List MethodSite
  deriving DecidableEq

def TypeSite.calls (s : TypeSite) : List Position := s.methods.flatMap (·.calls)

/-- The places that were found in a part of a tree: calls and methods that belong to what is around it,
and types, outer types first. -/
structure Sites where
  calls : List Position := []
  methods : List MethodSite := []
  types : List TypeSite := []

namespace Sites

def append (s s' : Sites) : Sites := ⟨s.calls ++ s'.calls, s.methods ++ s'.methods, s.types ++ s'.types⟩

instance : Append Sites := ⟨append⟩

@[simp] theorem calls_append (s s' : Sites) : (s ++ s').calls = s.calls ++ s'.calls := rfl

@[simp] theorem methods_append (s s' : Sites) : (s ++ s').methods = s.methods ++ s'.methods := rfl

@[simp] theorem types_append (s s' : Sites) : (s ++ s').types = s.types ++ s'.types := rfl

/-- The method at `here` with the calls in its body. -/
def asMethod (here : Position) (s : Sites) : Sites where
  methods := [⟨here, s.calls⟩]
  types := s.types

/-- The type at `here` with the methods in its body. -/
def asType (here : Position) (s : Sites) : Sites where
  types := ⟨here, s.methods⟩ :: s.types

/-- An initializer: its calls belong to no method. -/
def asInitializer (s : Sites) : Sites where
  types := s.types

end Sites

namespace Tree

/-! ## Positions -/

def nodeAt? (t : Tree) : Position → Option Tree
  | [] => some t
  | i :: p => t.children[i]?.bind (·.nodeAt? p)

theorem nodeAt?_append (t : Tree) (p q : Position) :
    t.nodeAt? (p ++ q) = (t.nodeAt? p).bind (·.nodeAt? q) := by
  induction p generalizing t with
  | nil => rfl
  | cons i p ih =>
    rw [List.cons_append, nodeAt?, nodeAt?]
    cases t.children[i]? with
    | none => rfl
    | some c => exact ih c

theorem nodeAt?_child {root t c : Tree} {here : Position} {i : Nat} (h : root.nodeAt? here = some t)
    (h_child : t.children[i]? = some c) : root.nodeAt? (here ++ [i]) = some c := by
  simp [nodeAt?_append, h, nodeAt?, h_child]

/-! ## Traversal -/

/-- Does the tree declare a type that has a name? -/
def declaresType (t : Tree) : Bool := (typeKind? t.kind).isSome && (t.partText? .name).isSome

/-- The surroundings in which a node is met. -/
inductive Mode where
  /-- At the top of a unit. -/
  | top
  /-- As the body of a type. -/
  | body
  /-- In the body of a type. -/
  | member
  /-- In code, with or without a type in which named types are nested. -/
  | code (owned : Bool)
  deriving DecidableEq

/-- What is done at a node. -/
inductive Action where
  /-- Nothing below the node counts. -/
  | skip
  /-- The node declares a type: its body counts. -/
  | type
  /-- The node declares a method: the code of its body counts. -/
  | method
  /-- The node is an initializer: only the types in it count. -/
  | initializer
  /-- The node is a call or not, and all its children count. -/
  | enter (mode : Mode) (isCall : Bool)
  deriving DecidableEq

/-- What is done at a node by the surroundings in which it is met. -/
def action (mode : Mode) (t : Tree) : Action :=
  match mode with
  | .top => if t.declaresType then .type else .skip
  | .body => .enter .member false
  | .member =>
    match t.kind with
    | .fieldDeclaration | .constantDeclaration | .block | .staticInitializer => .initializer
    | .methodDeclaration | .constructorDeclaration | .compactConstructorDeclaration => .method
    | .enumBodyDeclarations => .enter .member false
    | _ => if t.declaresType then .type else .skip
  | .code owned =>
    match t.kind with
    | .token => .skip
    | .methodInvocation => .enter (.code owned) true
    | .classBody => .enter (.code false) false
    | .classDeclaration | .interfaceDeclaration | .enumDeclaration | .recordDeclaration =>
      if owned && t.declaresType then .type else .enter (.code false) false
    | _ => .enter (.code owned) false

mutual

/-- What stands in the tree at `here`. -/
def visit (mode : Mode) (here : Position) : Tree → Sites
  | leaf _ _ _ => {}
  | node r kind cs =>
    match action mode (node r kind cs) with
    | .skip => {}
    | .type => (visitBody .body here 0 cs).asType here
    | .method => (visitBody (.code true) here 0 cs).asMethod here
    | .initializer => (visitAll (.code true) here 0 cs).asInitializer
    | .enter mode isCall =>
      { calls := if isCall then [here] else [] } ++ visitAll mode here 0 cs

/-- What stands in the children of the node at `here` from the index `i` on. -/
def visitAll (mode : Mode) (here : Position) (i : Nat) : List Tree → Sites
  | [] => {}
  | c :: cs => visit mode (here ++ [i]) c ++ visitAll mode here (i + 1) cs

/-- What stands in the body among the children of the node at `here` from the index `i` on. -/
def visitBody (mode : Mode) (here : Position) (i : Nat) : List Tree → Sites
  | [] => {}
  | c :: cs =>
    if c.role == .body then visit mode (here ++ [i]) c else visitBody mode here (i + 1) cs

end

/-- The types of a unit, in the order in which the unit lists them. -/
def sites (t : Tree) : List TypeSite := (visitAll .top [] 0 t.children).types

/-! ## What the lowering does at a node -/

theorem isSome_header? (outer : Option String) (t : Tree) :
    (header? outer t).isSome = t.declaresType := by
  unfold header? declaresType
  cases typeKind? t.kind <;> cases t.partText? .name <;> rfl

/-- A node with a type declaration has a header whatever is around it. -/
theorem exists_header? {t : Tree} (h : t.declaresType = true) (outer : Option String) :
    ∃ head, header? outer t = some head :=
  Option.isSome_iff_exists.1 ((isSome_header? outer t).trans h)

theorem header?_eq_none {t : Tree} (h : t.declaresType = false) (outer : Option String) :
    header? outer t = none :=
  Option.isSome_eq_false_iff.1 ((isSome_header? outer t).trans h) |> Option.isNone_iff_eq_none.1

/-- What walking through code can do at a node. -/
inductive WalkStep (owner : Option String) (t : Tree) : Action → Found → Prop
  | skip : WalkStep owner t .skip {}
  | type {head : TypeDecl} (h_owner : owner.isSome) (h : header? owner t = some head) :
    WalkStep owner t .type
      { types := [withMembers head (bodyMembers head.qualifiedName t.children)] }
  | enter (locals : List Variable) (inner : Option String) (h_inner : inner = owner ∨ inner = none)
    {isCall : Bool} (h : isCall = true → t.kind = .methodInvocation) :
    WalkStep owner t (.enter (.code inner.isSome) isCall)
      ({ locals, calls := if isCall then [t.call] else [] } ++ walkAll inner t.children)

/-- What can be done at a member of a type. -/
inductive MemberStep (owner : String) (t : Tree) : Action → Members → Prop
  | skip : MemberStep owner t .skip {}
  | type {head : TypeDecl} (h : header? (some owner) t = some head) :
    MemberStep owner t .type
      { types := [withMembers head (bodyMembers head.qualifiedName t.children)] }
  | method : MemberStep owner t .method
      { methods := [t.methodWith (bodyFound owner t.children)],
        types := (bodyFound owner t.children).types }
  | initializer (fields : List Variable) : MemberStep owner t .initializer
      { fields, types := (walkAll (some owner) t.children).types }
  | enter : MemberStep owner t (.enter .member false) (members owner t.children)

theorem walk_step (owner : Option String) (r : Role) (kind : Kind) (cs : List Tree) :
    WalkStep owner (node r kind cs) (action (.code owner.isSome) (node r kind cs))
      (walk owner (node r kind cs)) := by
  unfold walk
  dsimp only
  split
  · exact .skip
  · exact .enter [] owner (.inl rfl) fun _ => rfl
  · exact .enter _ owner (.inl rfl) nofun
  · exact .enter _ owner (.inl rfl) nofun
  · exact .enter _ owner (.inl rfl) nofun
  · exact .enter _ owner (.inl rfl) nofun
  · exact .enter _ owner (.inl rfl) nofun
  · exact .enter _ owner (.inl rfl) nofun
  · exact .enter [] none (.inr rfl) nofun
  case h_14 =>
    have h_action : action (.code owner.isSome) (node r kind cs) =
        .enter (.code owner.isSome) false := by
      unfold action
      dsimp only [Tree.kind]
      split <;> simp_all
    rw [h_action]
    exact .enter [] owner (.inl rfl) nofun
  -- the four kinds of types: with an owner and a header the type counts, else its parts do
  all_goals
    cases h_head : owner.bind fun outer => header? (some outer) _ with
    | some head =>
      obtain ⟨outer, rfl, h_head⟩ := Option.bind_eq_some_iff.1 h_head
      have h_type := (isSome_header? _ _).symm.trans (Option.isSome_iff_exists.2 ⟨_, h_head⟩)
      simp only [action, Tree.kind, h_type, Option.isSome_some, Bool.and_self, if_true]
      exact .type rfl h_head
    | none =>
      cases owner with
      | none => exact .enter [] none (.inr rfl) nofun
      | some outer =>
        rw [Option.bind_some] at h_head
        have h_type := (isSome_header? _ _).symm.trans (Option.isSome_eq_false_iff.2
          (Option.isNone_iff_eq_none.2 h_head))
        simp only [action, Tree.kind, h_type, Bool.and_false]
        exact .enter [] none (.inr rfl) nofun

theorem member_step (owner : String) (r : Role) (kind : Kind) (cs : List Tree) :
    MemberStep owner (node r kind cs) (action .member (node r kind cs))
      (member owner (node r kind cs)) := by
  unfold member
  dsimp only
  split
  · exact .initializer _
  · exact .initializer _
  · exact .method
  · exact .method
  · exact .method
  · exact .enter
  · exact .initializer []
  · exact .initializer []
  · have h_action : action .member (node r kind cs) =
        if (node r kind cs).declaresType then .type else .skip := by
      unfold action
      dsimp only [Tree.kind]
      split <;> simp_all
    rw [h_action]
    cases h_type : (node r kind cs).declaresType with
    | true =>
      obtain ⟨head, h_head⟩ := exists_header? h_type (some owner)
      rw [h_head]
      exact .type h_head
    | false =>
      rw [header?_eq_none h_type]
      exact .skip

/-! ## What stands at the noted positions -/

/-- The call is that of the method invocation at a position. -/
def CallAt (root : Tree) (c : Call) (p : Position) : Prop :=
  ∃ t, root.nodeAt? p = some t ∧ t.kind = .methodInvocation ∧ c = t.call

/-- The method stands at a site, and its calls are those at the noted positions. -/
def MethodAt (root : Tree) (m : Method) (s : MethodSite) : Prop :=
  ∃ t found, root.nodeAt? s.position = some t ∧ m = t.methodWith found ∧
    List.Forall₂ (CallAt root) m.calls s.calls

/-- The type stands at a site, with its methods in their order. -/
def TypeAt (root : Tree) (d : TypeDecl) (s : TypeSite) : Prop :=
  ∃ t outer head members, root.nodeAt? s.position = some t ∧ header? outer t = some head ∧
    d = withMembers head members ∧ List.Forall₂ (MethodAt root) d.methods s.methods

/-- Calls and types that were found in code stand at the noted positions. -/
def FoundAt (root : Tree) (found : Found) (s : Sites) : Prop :=
  List.Forall₂ (CallAt root) found.calls s.calls ∧
    List.Forall₂ (TypeAt root) (TypeDecl.allOf found.types) s.types

/-- Methods and types that were found in a type stand at the noted positions. -/
def MembersAt (root : Tree) (members : Members) (s : Sites) : Prop :=
  List.Forall₂ (MethodAt root) members.methods s.methods ∧
    List.Forall₂ (TypeAt root) (TypeDecl.allOf members.types) s.types

/-- Trees that are the children at `here` from the index `i` on. -/
def ChildrenAt (root : Tree) (here : Position) (i : Nat) (cs : List Tree) : Prop :=
  ∀ k c, cs[k]? = some c → root.nodeAt? (here ++ [i + k]) = some c

variable {root : Tree}

theorem childrenAt_node {here : Position} {r : Role} {kind : Kind} {cs : List Tree}
    (h : root.nodeAt? here = some (node r kind cs)) : ChildrenAt root here 0 cs := by
  intro k c h_child
  rw [Nat.zero_add]
  exact nodeAt?_child h h_child

theorem ChildrenAt.head {here : Position} {i : Nat} {c : Tree} {cs : List Tree}
    (h : ChildrenAt root here i (c :: cs)) : root.nodeAt? (here ++ [i]) = some c :=
  h 0 c rfl

theorem ChildrenAt.tail {here : Position} {i : Nat} {c : Tree} {cs : List Tree}
    (h : ChildrenAt root here i (c :: cs)) : ChildrenAt root here (i + 1) cs := by
  intro k d h_child
  rw [Nat.add_assoc, Nat.add_comm 1 k]
  exact h (k + 1) d h_child

theorem allOf_append (ds es : List TypeDecl) :
    TypeDecl.allOf (ds ++ es) = TypeDecl.allOf ds ++ TypeDecl.allOf es := by
  induction ds with
  | nil => rfl
  | cons d ds ih => simp [TypeDecl.allOf, ih]

theorem all_withMembers (d : TypeDecl) (members : Members) :
    TypeDecl.all (withMembers d members) = withMembers d members :: TypeDecl.allOf members.types := by
  rw [withMembers, TypeDecl.all]

theorem FoundAt.append {found found' : Found} {s s' : Sites} (h : FoundAt root found s)
    (h' : FoundAt root found' s') : FoundAt root (found ++ found') (s ++ s') := by
  refine ⟨List.rel_append h.1 h'.1, ?_⟩
  have h_types : (found ++ found').types = found.types ++ found'.types := rfl
  rw [h_types, allOf_append]
  exact List.rel_append h.2 h'.2

theorem MembersAt.append {members members' : Members} {s s' : Sites} (h : MembersAt root members s)
    (h' : MembersAt root members' s') : MembersAt root (members ++ members') (s ++ s') := by
  refine ⟨List.rel_append h.1 h'.1, ?_⟩
  have h_types : (members ++ members').types = members.types ++ members'.types := rfl
  rw [h_types, allOf_append]
  exact List.rel_append h.2 h'.2

/-- A type with what its body holds stands at its site. -/
theorem MembersAt.type {here : Position} {t : Tree} {outer : Option String} {head : TypeDecl}
    {members : Members} {s : Sites} (h_node : root.nodeAt? here = some t)
    (h_head : header? outer t = some head) (h : MembersAt root members s) :
    List.Forall₂ (TypeAt root) (TypeDecl.allOf [withMembers head members]) (s.asType here).types := by
  rw [TypeDecl.allOf, TypeDecl.allOf, List.append_nil, all_withMembers]
  exact .cons ⟨t, outer, head, members, h_node, h_head, rfl, h.1⟩ h.2

mutual

/-- Walking through code finds what stands at the positions that the traversal notes. -/
theorem walk_at (owner : Option String) (here : Position) (t : Tree)
    (h : root.nodeAt? here = some t) :
    FoundAt root (walk owner t) (visit (.code owner.isSome) here t) := by
  cases t with
  | leaf r kind token => exact ⟨.nil, .nil⟩
  | node r kind cs =>
    rw [visit]
    -- the lowering and the traversal take the same branch, which the step names
    have h_step := walk_step owner r kind cs
    generalize action (.code owner.isSome) (node r kind cs) = a at h_step
    generalize walk owner (node r kind cs) = found at h_step
    cases h_step with
    | skip => exact ⟨.nil, .nil⟩
    | type _ h_head => exact ⟨.nil, (bodyMembers_at _ here 0 cs (childrenAt_node h)).type h h_head⟩
    | @enter locals inner _ isCall h_call =>
      refine FoundAt.append ⟨?_, .nil⟩ (walkAll_at inner here 0 cs (childrenAt_node h))
      cases isCall with
      | true => exact .cons ⟨_, h, h_call rfl, rfl⟩ .nil
      | false => exact .nil

theorem walkAll_at (owner : Option String) (here : Position) (i : Nat) (cs : List Tree)
    (h : ChildrenAt root here i cs) :
    FoundAt root (walkAll owner cs) (visitAll (.code owner.isSome) here i cs) := by
  cases cs with
  | nil => exact ⟨.nil, .nil⟩
  | cons c cs =>
    rw [walkAll, visitAll]
    exact (walk_at owner _ c h.head).append (walkAll_at owner here (i + 1) cs h.tail)

theorem bodyFound_at (owner : String) (here : Position) (i : Nat) (cs : List Tree)
    (h : ChildrenAt root here i cs) :
    FoundAt root (bodyFound owner cs) (visitBody (.code true) here i cs) := by
  cases cs with
  | nil => exact ⟨.nil, .nil⟩
  | cons c cs =>
    rw [bodyFound, visitBody]
    split
    · exact walk_at (some owner) _ c h.head
    · exact bodyFound_at owner here (i + 1) cs h.tail

theorem bodyMembers_at (owner : String) (here : Position) (i : Nat) (cs : List Tree)
    (h : ChildrenAt root here i cs) :
    MembersAt root (bodyMembers owner cs) (visitBody .body here i cs) := by
  cases cs with
  | nil => exact ⟨.nil, .nil⟩
  | cons c cs =>
    rw [bodyMembers, visitBody]
    split
    · exact membersOf_at owner _ c h.head
    · exact bodyMembers_at owner here (i + 1) cs h.tail

theorem membersOf_at (owner : String) (here : Position) (t : Tree)
    (h : root.nodeAt? here = some t) : MembersAt root (membersOf owner t) (visit .body here t) := by
  cases t with
  | leaf r kind token => exact ⟨.nil, .nil⟩
  | node r kind cs =>
    rw [membersOf, visit]
    exact members_at owner here 0 cs (childrenAt_node h)

theorem members_at (owner : String) (here : Position) (i : Nat) (cs : List Tree)
    (h : ChildrenAt root here i cs) :
    MembersAt root (members owner cs) (visitAll .member here i cs) := by
  cases cs with
  | nil => exact ⟨.nil, .nil⟩
  | cons c cs =>
    rw [members, visitAll]
    exact (member_at owner _ c h.head).append (members_at owner here (i + 1) cs h.tail)

theorem member_at (owner : String) (here : Position) (t : Tree)
    (h : root.nodeAt? here = some t) : MembersAt root (member owner t) (visit .member here t) := by
  cases t with
  | leaf r kind token => exact ⟨.nil, .nil⟩
  | node r kind cs =>
    rw [visit]
    have h_step := member_step owner r kind cs
    generalize action .member (node r kind cs) = a at h_step
    generalize member owner (node r kind cs) = found at h_step
    cases h_step with
    | skip => exact ⟨.nil, .nil⟩
    | type h_head => exact ⟨.nil, (bodyMembers_at _ here 0 cs (childrenAt_node h)).type h h_head⟩
    | method =>
      have h_found := bodyFound_at owner here 0 cs (childrenAt_node h)
      exact ⟨.cons ⟨_, _, h, rfl, h_found.1⟩ .nil, h_found.2⟩
    | initializer fields =>
      exact ⟨.nil, (walkAll_at (some owner) here 0 cs (childrenAt_node h)).2⟩
    | enter => exact members_at owner here 0 cs (childrenAt_node h)

end

theorem topType_at {here : Position} {t : Tree} (h : root.nodeAt? here = some t) :
    List.Forall₂ (TypeAt root) (TypeDecl.allOf t.topType?.toList) (visit .top here t).types := by
  cases t with
  | leaf r kind token =>
    have h_none : (leaf r kind token).declaresType = false := by
      simp [declaresType, partText?, part?, children]
    rw [topType?, header?_eq_none h_none]
    exact .nil
  | node r kind cs =>
    rw [visit, action, topType?]
    cases h_type : (node r kind cs).declaresType with
    | true =>
      obtain ⟨head, h_head⟩ := exists_header? h_type none
      rw [h_head]
      exact (bodyMembers_at _ here 0 cs (childrenAt_node h)).type h h_head
    | false =>
      rw [header?_eq_none h_type]
      exact .nil

theorem topTypes_cons (c : Tree) (cs : List Tree) :
    ((c :: cs).filter isNamed).filterMap topType? =
      c.topType?.toList ++ (cs.filter isNamed).filterMap topType? := by
  cases h_named : c.isNamed with
  | true =>
    rw [List.filter_cons_of_pos h_named, List.filterMap_cons]
    cases c.topType? <;> rfl
  | false =>
    have h_kind : c.kind = .token := by simpa [isNamed] using h_named
    have h_type : c.declaresType = false := by simp [declaresType, h_kind, typeKind?]
    rw [List.filter_cons_of_neg (by simp [h_named]), topType?, header?_eq_none h_type]
    rfl

theorem topTypes_at {here : Position} {i : Nat} {cs : List Tree} (h : ChildrenAt root here i cs) :
    List.Forall₂ (TypeAt root) (TypeDecl.allOf ((cs.filter isNamed).filterMap topType?))
      (visitAll .top here i cs).types := by
  induction cs generalizing i with
  | nil => exact .nil
  | cons c cs ih =>
    rw [topTypes_cons, allOf_append, visitAll]
    exact List.rel_append (topType_at h.head) (ih h.tail)

/-- The types of a unit stand at its sites, each with its methods and their calls. -/
theorem allTypes_toUnit_at (path source : String) (t : Tree) :
    List.Forall₂ (TypeAt t) (t.toUnit path source).allTypes t.sites := by
  refine topTypes_at fun k c h_child => ?_
  simp [nodeAt?, h_child]

end Tree

end JavaCallGraph.Java
