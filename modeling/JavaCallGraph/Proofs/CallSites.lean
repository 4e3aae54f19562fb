import JavaCallGraph.Proofs.Sites.Apart

/-!
# Where calls are recorded

Calls are recorded for the method in whose body they stand, as far as no type that is declared in that
body is around them.

* `Tree.covered_visit` — a call in code is recorded, or a type around it is.
* `Tree.isMember_of_mem_calls`, `Tree.IsInnermost.exists_method` — calls are recorded for the members of
  the innermost type around them.
* `Tree.calls_recorded_once` — where each call of a unit is recorded.
-/

namespace JavaCallGraph.Java.Tree

/-! ## Calls in code -/

/-- A method invocation stands at the position, and what is above it is more than punctuation. -/
def IsInvocation (t : Tree) : Position → Prop
  | [] => ∃ r cs, t = node r .methodInvocation cs
  | i :: p => t.isNamed = true ∧ ∃ c, t.children[i]? = some c ∧ c.IsInvocation p

instance decidableIsInvocation : (t : Tree) → (p : Position) → Decidable (t.IsInvocation p)
  | leaf _ _ _, [] => isFalse fun ⟨_, _, h⟩ => nomatch h
  | node r kind cs, [] =>
    if h : kind = .methodInvocation then isTrue ⟨r, cs, h ▸ rfl⟩
    else isFalse fun ⟨_, _, h_eq⟩ => h (Tree.node.inj h_eq).2.1
  | t, i :: p =>
    match h : t.children[i]? with
    | none => isFalse fun ⟨_, _, h_child, _⟩ => nomatch h.symm.trans h_child
    | some c =>
      have := decidableIsInvocation c p
      decidable_of_iff (t.isNamed = true ∧ c.IsInvocation p)
        ⟨fun ⟨h_named, h_call⟩ => ⟨h_named, c, h, h_call⟩,
          fun ⟨h_named, _, h_child, h_call⟩ => ⟨h_named, Option.some.inj (h.symm.trans h_child) ▸ h_call⟩⟩

theorem visit_subset_visitAll (mode : Mode) (here : Position) (i : Nat) {k : Nat} {cs : List Tree}
    {c : Tree} (h : cs[k]? = some c) :
    (visit mode (here ++ [i + k]) c).calls ⊆ (visitAll mode here i cs).calls ∧
      (visit mode (here ++ [i + k]) c).methods ⊆ (visitAll mode here i cs).methods ∧
      (visit mode (here ++ [i + k]) c).types ⊆ (visitAll mode here i cs).types := by
  induction cs generalizing i k with
  | nil => simp at h
  | cons d cs ih =>
    rw [visitAll]
    cases k with
    | zero =>
      rw [List.getElem?_cons_zero, Option.some.injEq] at h
      subst h
      exact ⟨List.subset_append_left _ _, List.subset_append_left _ _, List.subset_append_left _ _⟩
    | succ k =>
      rw [List.getElem?_cons_succ] at h
      have h_tail := ih (i + 1) h
      rw [Nat.add_assoc, Nat.add_comm 1 k] at h_tail
      exact ⟨List.Subset.trans h_tail.1 (List.subset_append_right _ _),
        List.Subset.trans h_tail.2.1 (List.subset_append_right _ _),
        List.Subset.trans h_tail.2.2 (List.subset_append_right _ _)⟩

/-- In code, whatever is more than punctuation is a type or is entered. -/
theorem action_code (owned : Bool) {t : Tree} (h : t.isNamed = true) :
    action (.code owned) t = .type ∨
      ∃ owned' isCall, action (.code owned) t = .enter (.code owned') isCall := by
  unfold action
  dsimp only
  split
  · simp_all [isNamed]
  · exact .inr ⟨_, _, rfl⟩
  · exact .inr ⟨_, _, rfl⟩
  case h_8 => exact .inr ⟨_, _, rfl⟩
  all_goals
    split
    · exact .inl rfl
    · exact .inr ⟨_, _, rfl⟩

/-- A call in code is noted, unless a type that is declared in the code is around it. -/
theorem covered_visit (owned : Bool) (here : Position) {t : Tree} {q : Position}
    (h : t.IsInvocation q) :
    here ++ q ∈ (visit (.code owned) here t).calls ∨
      ∃ T ∈ (visit (.code owned) here t).types, T.position <+: here ++ q := by
  induction q generalizing t owned here with
  | nil =>
    obtain ⟨r, cs, rfl⟩ := h
    rw [visit]
    exact .inl (by simp [action, kind])
  | cons k q ih =>
    obtain ⟨h_named, c, h_child, h_call⟩ := h
    cases t with
    | leaf r kind token => simp [children] at h_child
    | node r kind cs =>
      rw [visit]
      -- the node is a type, which is then around the call, or the child is visited as code
      rcases action_code owned h_named with h_action | ⟨owned', isCall, h_action⟩
      · rw [h_action]
        exact .inr ⟨_, List.mem_cons_self, List.prefix_append _ _⟩
      · rw [h_action]
        obtain ⟨h_calls, -, h_types⟩ :=
          visit_subset_visitAll (.code owned') here 0 h_child
        have h_step : here ++ k :: q = here ++ [0 + k] ++ q := by simp
        rw [h_step]
        rcases ih owned' (here ++ [0 + k]) h_call with h_mem | ⟨T, hT, h_around⟩
        · exact .inl (List.mem_append_right _ (h_calls h_mem))
        · exact .inr ⟨T, h_types hT, h_around⟩

/-! ## Members of types -/

def bodyIndex? (t : Tree) : Option Nat := t.children.findIdx? (·.role == .body)

def declaresMethod (t : Tree) : Bool :=
  [Kind.methodDeclaration, .constructorDeclaration, .compactConstructorDeclaration].contains t.kind

/-- The node at a position holds members of the type at `type`: it is the body of the type, or the part
of such a node that follows the constants of an enumeration. -/
inductive HoldsMembers (root : Tree) (type : Position) : Position → Prop
  | body {t : Tree} {i : Nat} (h : root.nodeAt? type = some t) (h_body : t.bodyIndex? = some i) :
    HoldsMembers root type (type ++ [i])
  | enumPart {holder : Position} {t : Tree} {i : Nat} (h : HoldsMembers root type holder)
    (h_part : root.nodeAt? (holder ++ [i]) = some t) (h_kind : t.kind = .enumBodyDeclarations) :
    HoldsMembers root type (holder ++ [i])

theorem HoldsMembers.isPrefix {root : Tree} {type holder : Position}
    (h : HoldsMembers root type holder) : type <+: holder := by
  induction h with
  | body => exact List.prefix_append _ _
  | enumPart _ _ _ ih => exact ih.trans (List.prefix_append _ _)

/-- The method or constructor at `method` is a direct member of the type at `type`. -/
def IsMember (root : Tree) (type method : Position) : Prop :=
  ∃ holder i t, HoldsMembers root type holder ∧ method = holder ++ [i] ∧
    root.nodeAt? method = some t ∧ t.declaresMethod = true

/-- The position is in the body of the method at `method`. -/
def InBodyOf (root : Tree) (method p : Position) : Prop :=
  ∃ t i, root.nodeAt? method = some t ∧ t.bodyIndex? = some i ∧ method ++ [i] <+: p

theorem visitBody_eq_visit (mode : Mode) (here : Position) (i : Nat) {k : Nat} {cs : List Tree}
    (h : cs.findIdx? (·.role == .body) = some k) :
    ∃ c, cs[k]? = some c ∧ visitBody mode here i cs = visit mode (here ++ [i + k]) c := by
  induction cs generalizing i k with
  | nil => simp at h
  | cons c cs ih =>
    rw [List.findIdx?_cons] at h
    rw [visitBody]
    cases h_role : c.role == Role.body with
    | true =>
      rw [h_role, if_pos rfl, Option.some.injEq] at h
      subst h
      exact ⟨c, rfl, by simp⟩
    | false =>
      rw [h_role, if_neg Bool.false_ne_true, Option.map_eq_some_iff] at h
      obtain ⟨k, h_tail, rfl⟩ := h
      obtain ⟨d, h_d, h_eq⟩ := ih (i + 1) h_tail
      refine ⟨d, h_d, ?_⟩
      rw [if_neg Bool.false_ne_true, h_eq, Nat.add_assoc, Nat.add_comm 1 k]

theorem visitBody_eq_empty {mode : Mode} {here : Position} {i : Nat} {cs : List Tree}
    (h : cs.findIdx? (·.role == .body) = none) : visitBody mode here i cs = {} := by
  induction cs generalizing i with
  | nil => rfl
  | cons c cs ih =>
    rw [List.findIdx?_cons] at h
    rw [visitBody]
    cases h_role : c.role == Role.body with
    | true => simp [h_role] at h
    | false =>
      rw [h_role, if_neg Bool.false_ne_true, Option.map_eq_none_iff] at h
      exact ih h

theorem action_member_eq_method_iff {t : Tree} :
    action .member t = .method ↔ t.declaresMethod = true := by
  unfold action declaresMethod
  dsimp only
  split
  case h_9 => split <;> simp_all
  all_goals simp_all

theorem kind_of_action_member {t : Tree} {mode : Mode} {isCall : Bool}
    (h : action .member t = .enter mode isCall) : t.kind = .enumBodyDeclarations ∧ mode = .member := by
  unfold action at h
  dsimp only at h
  split at h
  case h_8 h_kind =>
    cases h
    exact ⟨h_kind, rfl⟩
  case h_9 => split at h <;> cases h
  all_goals cases h

variable {root : Tree} {type : Position}

theorem inBodyOf_of_mem_visitBody {here p : Position} {r : Role} {kind : Kind} {cs : List Tree}
    (h : root.nodeAt? here = some (node r kind cs))
    (hp : p ∈ (visitBody (.code true) here 0 cs).calls) : InBodyOf root here p := by
  cases h_body : cs.findIdx? (·.role == .body) with
  | none =>
    rw [visitBody_eq_empty h_body] at hp
    cases hp
  | some k =>
    obtain ⟨c, -, h_visit⟩ := visitBody_eq_visit (.code true) here 0 h_body
    rw [h_visit, Nat.zero_add] at hp
    exact ⟨_, k, h, h_body, (apart_visit (.code true) (here ++ [k]) c).records_region p
      (Sites.mem_records_of_mem_calls hp)⟩

mutual

/-- The methods that are noted in the body of a type are its members, and their calls stand in their
bodies. -/
theorem isMember_of_mem_visit {holder : Position} {i : Nat} {m : MethodSite}
    (h_holder : HoldsMembers root type holder) (t : Tree)
    (h : root.nodeAt? (holder ++ [i]) = some t)
    (hm : m ∈ (visit .member (holder ++ [i]) t).methods) :
    IsMember root type m.position ∧ ∀ p ∈ m.calls, InBodyOf root m.position p := by
  cases t with
  | leaf r kind token => cases hm
  | node r kind cs =>
    rw [visit] at hm
    split at hm
    · cases hm
    · cases hm
    · rename_i h_action
      obtain rfl := List.mem_singleton.1 hm
      exact ⟨⟨holder, i, _, h_holder, rfl, h, action_member_eq_method_iff.1 h_action⟩,
        fun p hp => inBodyOf_of_mem_visitBody h hp⟩
    · cases hm
    · rename_i h_action
      obtain ⟨h_kind, rfl⟩ := kind_of_action_member h_action
      exact isMember_of_mem_visitAll (h_holder.enumPart h h_kind) cs (childrenAt_node h) hm

theorem isMember_of_mem_visitAll {holder : Position} {i : Nat} {m : MethodSite}
    (h_holder : HoldsMembers root type holder) (cs : List Tree) (h : ChildrenAt root holder i cs)
    (hm : m ∈ (visitAll .member holder i cs).methods) :
    IsMember root type m.position ∧ ∀ p ∈ m.calls, InBodyOf root m.position p := by
  cases cs with
  | nil => cases hm
  | cons c cs =>
    rw [visitAll, Sites.methods_append, List.mem_append] at hm
    rcases hm with hm | hm
    · exact isMember_of_mem_visit h_holder c h.head hm
    · exact isMember_of_mem_visitAll h_holder cs h.tail hm

end

theorem visit_body_node (here : Position) (r : Role) (kind : Kind) (cs : List Tree) :
    visit .body here (node r kind cs) = visitAll .member here 0 cs := by
  rw [visit]
  rfl

theorem visit_body_eq_visit_member (here : Position) {t : Tree} (h : t.kind = .enumBodyDeclarations) :
    visit .body here t = visit .member here t := by
  cases t with
  | leaf r kind token => rfl
  | node r kind cs =>
    have h_action : action .member (node r kind cs) = .enter .member false := by simp [action, h]
    rw [visit_body_node, visit, h_action]
    rfl

/-- What is noted where members of a type are held is noted for the type. -/
theorem HoldsMembers.subset {holder : Position} {d : Tree} (h : HoldsMembers root type holder)
    (h_type : root.nodeAt? type = some d) :
    ∃ c, root.nodeAt? holder = some c ∧
      (visit .body holder c).methods ⊆ (visitBody .body type 0 d.children).methods ∧
      (visit .body holder c).types ⊆ (visitBody .body type 0 d.children).types := by
  induction h with
  | body h h_body =>
    obtain rfl := Option.some.inj (h.symm.trans h_type)
    obtain ⟨c, h_child, h_visit⟩ := visitBody_eq_visit .body type 0 h_body
    rw [Nat.zero_add] at h_visit
    refine ⟨c, nodeAt?_child h h_child, ?_, ?_⟩ <;> rw [h_visit] <;> exact List.Subset.refl _
  | @enumPart holder t i h h_part h_kind ih =>
    obtain ⟨c, h_c, h_methods, h_types⟩ := ih
    have h_child : c.children[i]? = some t := by
      simpa [nodeAt?_append, h_c, nodeAt?] using h_part
    refine ⟨t, h_part, ?_⟩
    rw [visit_body_eq_visit_member _ h_kind]
    cases c with
    | leaf r kind token => simp [children] at h_child
    | node r kind cs =>
      obtain ⟨-, h_methods', h_types'⟩ := visit_subset_visitAll .member holder 0 h_child
      rw [Nat.zero_add] at h_methods' h_types'
      rw [visit_body_node] at h_methods h_types
      exact ⟨List.Subset.trans h_methods' h_methods, List.Subset.trans h_types' h_types⟩

/-- A member of a type is noted for it, with the calls and types in its body. -/
theorem exists_method_of_isMember {method p : Position} {d : Tree} (h : IsMember root type method)
    (h_type : root.nodeAt? type = some d) (h_body : InBodyOf root method p) :
    ∃ m ∈ (visitBody .body type 0 d.children).methods, m.position = method ∧
      ∃ i body, root.nodeAt? (method ++ [i]) = some body ∧ method ++ [i] <+: p ∧
        m.calls = (visit (.code true) (method ++ [i]) body).calls ∧
        (visit (.code true) (method ++ [i]) body).types ⊆
          (visitBody .body type 0 d.children).types := by
  obtain ⟨holder, k, t, h_holder, rfl, h_node, h_method⟩ := h
  obtain ⟨c, h_c, h_methods, h_types⟩ := h_holder.subset h_type
  obtain ⟨t', i, h_node', h_index, h_in⟩ := h_body
  obtain rfl := Option.some.inj (h_node.symm.trans h_node')
  have h_child : c.children[k]? = some t := by
    simpa [nodeAt?_append, h_c, nodeAt?] using h_node
  cases c with
  | leaf r kind token => simp [children] at h_child
  | node r kind cs =>
    obtain ⟨-, h_methods', h_types'⟩ := visit_subset_visitAll .member holder 0 h_child
    rw [visit_body_node] at h_methods h_types
    rw [Nat.zero_add] at h_methods' h_types'
    cases t with
    | leaf r' kind' token => simp [bodyIndex?, children] at h_index
    | node r' kind' cs' =>
      obtain ⟨body, h_body, h_visit⟩ := visitBody_eq_visit (.code true) (holder ++ [k]) 0 h_index
      rw [Nat.zero_add] at h_visit
      rw [visit, action_member_eq_method_iff.2 h_method] at h_methods' h_types'
      refine ⟨_, h_methods (h_methods' List.mem_cons_self), rfl, i, body, nodeAt?_child h_node h_body,
        h_in, ?_, ?_⟩
      · exact congrArg Sites.calls h_visit
      · rw [← h_visit]
        exact List.Subset.trans h_types' h_types

/-! ## Types of a unit -/

/-- Every type that was noted stands at its position, with the methods in its body, and the types in its
body were noted as well. -/
def Noted (root : Tree) (s : Sites) : Prop :=
  ∀ T ∈ s.types, ∃ t, root.nodeAt? T.position = some t ∧
    T.methods = (visitBody .body T.position 0 t.children).methods ∧
    (visitBody .body T.position 0 t.children).types ⊆ s.types

theorem noted_empty : Noted root {} := fun _ hT => nomatch hT

theorem Noted.append {s s' : Sites} (h : Noted root s) (h' : Noted root s') :
    Noted root (s ++ s') := by
  intro T hT
  rcases List.mem_append.1 hT with hT | hT
  · obtain ⟨t, h_node, h_methods, h_types⟩ := h T hT
    exact ⟨t, h_node, h_methods, List.Subset.trans h_types (List.subset_append_left _ _)⟩
  · obtain ⟨t, h_node, h_methods, h_types⟩ := h' T hT
    exact ⟨t, h_node, h_methods, List.Subset.trans h_types (List.subset_append_right _ _)⟩

mutual

theorem noted_visit (mode : Mode) (here : Position) (t : Tree) (h : root.nodeAt? here = some t) :
    Noted root (visit mode here t) := by
  cases t with
  | leaf r kind token => exact noted_empty
  | node r kind cs =>
    rw [visit]
    split
    · exact noted_empty
    · intro T hT
      rcases List.mem_cons.1 hT with rfl | hT
      · exact ⟨_, h, rfl, List.subset_cons_self _ _⟩
      · obtain ⟨t, h_node, h_methods, h_types⟩ := noted_visitBody .body here 0 cs (childrenAt_node h) T hT
        exact ⟨t, h_node, h_methods, List.Subset.trans h_types (List.subset_cons_self _ _)⟩
    · exact noted_visitBody (.code true) here 0 cs (childrenAt_node h)
    · exact noted_visitAll (.code true) here 0 cs (childrenAt_node h)
    · exact noted_visitAll _ here 0 cs (childrenAt_node h)

theorem noted_visitAll (mode : Mode) (here : Position) (i : Nat) (cs : List Tree)
    (h : ChildrenAt root here i cs) : Noted root (visitAll mode here i cs) := by
  cases cs with
  | nil => exact noted_empty
  | cons c cs =>
    rw [visitAll]
    exact (noted_visit mode _ c h.head).append (noted_visitAll mode here (i + 1) cs h.tail)

theorem noted_visitBody (mode : Mode) (here : Position) (i : Nat) (cs : List Tree)
    (h : ChildrenAt root here i cs) : Noted root (visitBody mode here i cs) := by
  cases cs with
  | nil => exact noted_empty
  | cons c cs =>
    rw [visitBody]
    split
    · exact noted_visit mode _ c h.head
    · exact noted_visitBody mode here (i + 1) cs h.tail

end

theorem noted_sites (t : Tree) : Noted t (visitAll .top [] 0 t.children) :=
  noted_visitAll .top [] 0 t.children fun k c h_child => by simp [nodeAt?, h_child]

theorem apart_sites (t : Tree) : (visitAll .top [] 0 t.children).Apart (Beyond [] 0) :=
  apart_visitAll .top [] 0 t.children

/-- The calls that are recorded for the methods of all types of a unit. -/
def recorded (t : Tree) : List Position := t.sites.flatMap (·.calls)

/-- The type is the innermost one around a position. -/
def IsInnermost (t : Tree) (p : Position) (T : TypeSite) : Prop :=
  T ∈ t.sites ∧ T.position <+: p ∧ ∀ S ∈ t.sites, S.position <+: p → S.position <+: T.position

instance (t : Tree) (p : Position) (T : TypeSite) : Decidable (t.IsInnermost p T) :=
  inferInstanceAs (Decidable (_ ∧ _ ∧ _))

/-- Among the types around a position one is the innermost. -/
theorem exists_innermost (p : Position) (types : List TypeSite) :
    (∃ T ∈ types, T.position <+: p ∧ ∀ S ∈ types, S.position <+: p → S.position <+: T.position) ∨
      ∀ T ∈ types, ¬ T.position <+: p := by
  induction types with
  | nil => exact .inr fun _ hT => nomatch hT
  | cons T types ih =>
    by_cases h_around : T.position <+: p
    · left
      rcases ih with ⟨S, hS, h_S, h_inner⟩ | h_none
      · -- of two positions above a third one is above the other
        rcases List.prefix_or_prefix_of_prefix h_around h_S with h_le | h_le
        · exact ⟨S, List.mem_cons_of_mem _ hS, h_S, List.forall_mem_cons.2 ⟨fun _ => h_le, h_inner⟩⟩
        · exact ⟨T, List.mem_cons_self, h_around, List.forall_mem_cons.2
            ⟨fun _ => List.prefix_refl _, fun R hR h_R => (h_inner R hR h_R).trans h_le⟩⟩
      · exact ⟨T, List.mem_cons_self, h_around, List.forall_mem_cons.2
          ⟨fun _ => List.prefix_refl _, fun R hR h_R => absurd h_R (h_none R hR)⟩⟩
    · rcases ih with ⟨S, hS, h_S, h_inner⟩ | h_none
      · exact .inl ⟨S, List.mem_cons_of_mem _ hS, h_S, List.forall_mem_cons.2
          ⟨fun h => absurd h h_around, h_inner⟩⟩
      · exact .inr (List.forall_mem_cons.2 ⟨h_around, h_none⟩)

theorem mem_recorded {t : Tree} {p : Position} :
    p ∈ t.recorded ↔ ∃ T ∈ t.sites, ∃ m ∈ T.methods, p ∈ m.calls := by
  simp [recorded, TypeSite.calls]

theorem count_recorded_le (t : Tree) (p : Position) : t.recorded.count p ≤ 1 :=
  ((List.sublist_append_right _ _).count_le p).trans ((apart_sites t).count_le p)

theorem count_recorded_eq_one_iff {t : Tree} {p : Position} :
    t.recorded.count p = 1 ↔ p ∈ t.recorded := by
  rw [← List.count_pos_iff]
  have h_le := count_recorded_le t p
  omega

theorem IsInvocation.of_append {t c : Tree} {here q : Position} (h : t.IsInvocation (here ++ q))
    (h_node : t.nodeAt? here = some c) : c.IsInvocation q := by
  induction here generalizing t with
  | nil =>
    cases h_node
    exact h
  | cons i here ih =>
    obtain ⟨-, d, h_child, h_call⟩ := h
    rw [nodeAt?, h_child] at h_node
    exact ih h_call h_node

/-- A call is recorded for a member of the type for which it is recorded, and stands in its body. -/
theorem isMember_of_mem_calls {t : Tree} {T : TypeSite} {m : MethodSite} {p : Position}
    (hT : T ∈ t.sites) (hm : m ∈ T.methods) (hp : p ∈ m.calls) :
    IsMember t T.position m.position ∧ InBodyOf t m.position p := by
  obtain ⟨d, h_node, h_methods, -⟩ := noted_sites t T hT
  rw [h_methods] at hm
  cases h_body : d.bodyIndex? with
  | none =>
    rw [visitBody_eq_empty h_body] at hm
    cases hm
  | some k =>
    obtain ⟨c, h_child, h_visit⟩ := visitBody_eq_visit .body T.position 0 h_body
    rw [h_visit, Nat.zero_add] at hm
    cases c with
    | leaf r kind token => cases hm
    | node r kind cs =>
      rw [visit_body_node] at hm
      have h_member := isMember_of_mem_visitAll (.body h_node h_body) cs
        (childrenAt_node (nodeAt?_child h_node h_child)) hm
      exact ⟨h_member.1, h_member.2 p hp⟩

/-- A call in the body of a member of the innermost type around it is recorded for that member. -/
theorem IsInnermost.exists_method {t : Tree} {T : TypeSite} {method p : Position}
    (h : t.IsInnermost p T) (h_call : t.IsInvocation p) (h_member : IsMember t T.position method)
    (h_body : InBodyOf t method p) : ∃ m ∈ T.methods, m.position = method ∧ p ∈ m.calls := by
  obtain ⟨hT, -, h_inner⟩ := h
  obtain ⟨d, h_node, h_methods, h_types⟩ := noted_sites t T hT
  obtain ⟨m, hm, h_position, i, body, h_at, ⟨q, rfl⟩, h_calls, h_found⟩ :=
    exists_method_of_isMember h_member h_node h_body
  refine ⟨m, h_methods ▸ hm, h_position, ?_⟩
  rcases covered_visit true (method ++ [i]) (h_call.of_append h_at) with h_mem | ⟨S, hS, h_around⟩
  · rw [h_calls]
    exact h_mem
  · -- a type around the call that is declared in the body would be further inside than `T`
    have h_outer := (h_inner S (h_types (h_found hS)) h_around).length_le
    have h_below := ((apart_visit (.code true) (method ++ [i]) body).types_region S hS).length_le
    obtain ⟨holder, k, -, h_holder, rfl, -⟩ := h_member
    have h_type := h_holder.isPrefix.length_le
    simp only [List.length_append, List.length_singleton] at h_below
    omega

/-- Where the calls of a unit are recorded. The types of the unit, their methods and their calls are
those at the noted positions. Every method invocation is recorded at most once; it is recorded exactly
if it stands in the body of a method or constructor that is a direct member of the innermost type around
it, and then for that member; without a type around it it is not recorded. The calls of a method are in
the order in which they are read. -/
theorem calls_recorded_once (path source : String) (t : Tree) :
    List.Forall₂ (TypeAt t) (t.toUnit path source).allTypes t.sites ∧
    (∀ p, t.IsInvocation p →
      t.recorded.count p ≤ 1 ∧
      (∀ T, t.IsInnermost p T →
        (t.recorded.count p = 1 ↔ ∃ method, IsMember t T.position method ∧ InBodyOf t method p) ∧
        ∀ method, IsMember t T.position method → InBodyOf t method p →
          ∃ m ∈ T.methods, m.position = method ∧ p ∈ m.calls) ∧
      ((∃ T, t.IsInnermost p T) ∨
        (∀ T ∈ t.sites, ¬ T.position <+: p) ∧ t.recorded.count p = 0)) ∧
    ∀ T ∈ t.sites, ∀ m ∈ T.methods, m.calls.Pairwise Precedes := by
  refine ⟨allTypes_toUnit_at path source t, fun p h_call => ⟨count_recorded_le t p, ?_, ?_⟩,
    (apart_sites t).types_ordered⟩
  · intro T h_inner
    refine ⟨?_, fun method h_member h_body => h_inner.exists_method h_call h_member h_body⟩
    rw [count_recorded_eq_one_iff, mem_recorded]
    constructor
    · rintro ⟨S, hS, m, hm, hp⟩
      -- the call is recorded for the innermost type around it, so `S` stands where `T` does
      have h_mem : p ∈ S.calls := List.mem_flatMap.2 ⟨m, hm, hp⟩
      have h_outer := h_inner.2.2 S hS ((apart_sites t).below S hS p h_mem)
      have h_inside := (apart_sites t).innermost S hS p h_mem T h_inner.1 h_inner.2.1
      have h_same : S.position = T.position := h_outer.eq_of_length_le h_inside.length_le
      rw [← h_same]
      exact ⟨m.position, isMember_of_mem_calls hS hm hp⟩
    · rintro ⟨method, h_member, h_body⟩
      obtain ⟨m, hm, -, hp⟩ := h_inner.exists_method h_call h_member h_body
      exact ⟨T, h_inner.1, m, hm, hp⟩
  · refine (exists_innermost p t.sites).imp id fun h_outside => ⟨h_outside, ?_⟩
    refine List.count_eq_zero.2 fun h_mem => ?_
    obtain ⟨S, hS, hp⟩ := List.mem_flatMap.1 h_mem
    exact h_outside S hS ((apart_sites t).below S hS p hp)

namespace Shop

def word (text : String) : Tree := leaf .name .identifier ⟨.word, "", text, 1⟩

def invocation (name : String) (arguments : List Tree) : Tree :=
  node .none .methodInvocation (word name :: arguments)

def method (name : String) (statements : List Tree) : Tree :=
  node .none .methodDeclaration [word name, node .body .block statements]

def typeNode (name : String) (members : List Tree) : Tree :=
  node .none .classDeclaration [word name, node .body .classBody members]

/-- A shop with a call in a field, and a method `open` in which a call stands in an anonymous class and
another one in the method `ring` of a local class `Till`. -/
def tree : Tree :=
  node .none .unit [typeNode "Shop" [
    node .none .fieldDeclaration [invocation "price" []],
    method "open" [
      invocation "start" [node .none .objectCreation [node .none .classBody [
        method "go" [invocation "sell" []]]]],
      typeNode "Till" [method "ring" [invocation "bell" []]]]]]

end Shop

/-- The call in the anonymous class is recorded once, for `open`; the call in the field is not. -/
theorem shop_calls_recorded :
    Shop.tree.IsInnermost [0, 1, 1, 1, 0, 1, 0, 0, 1, 0]
      ⟨[0], [⟨[0, 1, 1], [[0, 1, 1, 1, 0], [0, 1, 1, 1, 0, 1, 0, 0, 1, 0]]⟩]⟩ ∧
    Shop.tree.recorded.count [0, 1, 1, 1, 0, 1, 0, 0, 1, 0] = 1 ∧
    Shop.tree.IsInvocation [0, 1, 0, 0] ∧ [0, 1, 0, 0] ∉ Shop.tree.recorded := by
  have h_call : Shop.tree.IsInvocation [0, 1, 1, 1, 0, 1, 0, 0, 1, 0] := by decide +kernel
  have h_inner : Shop.tree.IsInnermost [0, 1, 1, 1, 0, 1, 0, 0, 1, 0]
      ⟨[0], [⟨[0, 1, 1], [[0, 1, 1, 1, 0], [0, 1, 1, 1, 0, 1, 0, 0, 1, 0]]⟩]⟩ := by decide +kernel
  have h_member : IsMember Shop.tree [0] [0, 1, 1] :=
    ⟨[0, 1], 1, _, .body rfl rfl, rfl, rfl, rfl⟩
  have h_body : InBodyOf Shop.tree [0, 1, 1] [0, 1, 1, 1, 0, 1, 0, 0, 1, 0] :=
    ⟨_, 1, rfl, rfl, by decide⟩
  obtain ⟨-, h_unit, -⟩ := calls_recorded_once "Shop.java" "" Shop.tree
  obtain ⟨-, h_recorded, -⟩ := h_unit _ h_call
  exact ⟨h_inner, (h_recorded _ h_inner).1.2 ⟨_, h_member, h_body⟩, by decide +kernel,
    by decide +kernel⟩

end JavaCallGraph.Java.Tree
