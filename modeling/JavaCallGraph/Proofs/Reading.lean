import JavaCallGraph.Java.Pattern
import Mathlib.Data.List.TakeDrop

/-!
# What patterns give

Reading a pattern goes through places, fuel and frontiers that the trees it gives do not show. This module
says what each pattern gives in terms of what its parts give, so that a property of all trees of a grammar
is an induction over patterns. Many such properties are about the parts of some nodes and can be seen from
the patterns that are read in roles; for those the induction is done here.

* `Gives` — the trees that a pattern may give.
* `gives_of_read` — what is read is what the pattern gives.
* `rolesAll`, `nodesAll` — checking the patterns in roles, and those of marked nodes.
* `Gives.formed` — what a check says of the parts of marked nodes.
-/

namespace JavaCallGraph.Java

variable {ρ : Type}

namespace Pattern

/-- A comment between tokens. -/
def IsCommentLeaf (t : Tree) : Prop := ∃ kind token, t = .leaf .none kind token ∧ t.isComment = true

/-- The trees that a pattern may give. `left` is the tree that a `grow` is building on. -/
inductive Gives (rules : ρ → Pattern ρ) (toks : Array Token) :
    Pattern ρ → Option Tree → List Tree → Prop where
  | empty {left} : Gives rules toks .empty left []
  | token {terminal kind left lead t} (h_lead : ∀ c ∈ lead, IsCommentLeaf c) (h_mem : t ∈ toks)
      (h_accepts : terminal.accepts t = true) :
      Gives rules toks (.token terminal kind) left (lead ++ [.leaf .none kind t])
  | glued {texts left lead leaves} (h_lead : ∀ c ∈ lead, IsCommentLeaf c)
      (h_leaves : ∀ c ∈ leaves, ∃ t, c = .leaf .none .token t) :
      Gives rules toks (.glued texts) left (lead ++ leaves)
  | seq {p q left trees more} (h_first : Gives rules toks p none trees)
      (h_second : Gives rules toks q none more) : Gives rules toks (.seq p q) left (trees ++ more)
  | altFirst {p q left trees} (h : Gives rules toks p left trees) : Gives rules toks (.alt p q) left trees
  | altSecond {p q left trees} (h : Gives rules toks q left trees) : Gives rules toks (.alt p q) left trees
  | manyStop {p left} : Gives rules toks (.many p) left []
  | manyLast {p left trees} (h : Gives rules toks p none trees) : Gives rules toks (.many p) left trees
  | manyMore {p left trees more} (h_first : Gives rules toks p none trees)
      (h_rest : Gives rules toks (.many p) none more) : Gives rules toks (.many p) left (trees ++ more)
  | node {kind p left lead parts} (h : Gives rules toks p none (lead ++ parts))
      (h_lead : ∀ c ∈ lead, c.isComment = true) (h_parts : parts ≠ []) :
      Gives rules toks (.node kind p) left (lead ++ [.node .none kind parts])
  | nodeEmpty {kind p left lead} (h : Gives rules toks p none lead)
      (h_lead : ∀ c ∈ lead, c.isComment = true) :
      Gives rules toks (.node kind p) left lead
  | role {r p left trees} (h : Gives rules toks p none trees) :
      Gives rules toks (.role r p) left (trees.map fun t => if t.isComment then t else t.withRole r)
  | rule {name left trees} (h : Gives rules toks (rules name) left trees) :
      Gives rules toks (.rule name) left trees
  | excluding {refused p left trees} (h : Gives rules toks p left trees) :
      Gives rules toks (.excluding refused p) left trees
  | ahead {p left} : Gives rules toks (.ahead p) left []
  | only {kind p left trees} (h : Gives rules toks p none trees) : Gives rules toks (.only kind p) left trees
  | growBase {base step trees} (h : Gives rules toks base none trees) :
      Gives rules toks (.grow base step) none trees
  | growFrom {base step lead tree trees} (h_base : Gives rules toks base none (lead ++ [tree]))
      (h_rest : Gives rules toks (.grow base step) (some tree) trees) :
      Gives rules toks (.grow base step) none (lead ++ trees)
  | growStop {base step tree} : Gives rules toks (.grow base step) (some tree) [tree]
  | growStep {base step tree grown trees} (h_step : Gives rules toks step (some tree) [grown])
      (h_rest : Gives rules toks (.grow base step) (some grown) trees) :
      Gives rules toks (.grow base step) (some tree) trees
  | after {kinds r kind tail tree trees} (h : Gives rules toks tail none trees) :
      Gives rules toks (.after kinds r kind tail) (some tree)
        [.node .none kind (tree.withRole r :: trees)]

variable {rules : ρ → Pattern ρ} {toks : Array Token}

theorem isCommentLeaf_of_mem_comments {fuel pos : Nat} :
    ∀ c ∈ (comments toks fuel pos).1.map Prod.snd, IsCommentLeaf c := by
  induction fuel generalizing pos with
  | zero => simp [comments]
  | succ fuel ih =>
    rw [comments]
    split
    · split
      · rename_i t _ h_comment
        intro c h_mem
        simp only [List.map_cons, List.mem_cons] at h_mem
        rcases h_mem with rfl | h_mem
        · refine ⟨_, t, rfl, ?_⟩
          split <;> rfl
        · exact ih c h_mem
      · simp
    · simp

theorem leaf_of_mem_gluedAt {first : Bool} {texts : List String} {pos : Nat} {leaves : List Placed}
    (h : gluedAt toks first texts pos = some leaves) :
    ∀ c ∈ leaves.map Prod.snd, ∃ t, c = .leaf .none .token t := by
  induction texts generalizing first pos leaves with
  | nil =>
    rw [gluedAt, Option.some.injEq] at h
    subst h
    simp
  | cons s rest ih =>
    rw [gluedAt] at h
    split at h
    · split at h
      · rename_i t _ _
        obtain ⟨others, h_others, rfl⟩ := Option.map_eq_some_iff.1 h
        intro c h_mem
        simp only [List.map_cons, List.mem_cons] at h_mem
        rcases h_mem with rfl | h_mem
        · exact ⟨t, rfl⟩
        · exact ih h_others c h_mem
      · cases h
    · cases h

/-- The comments in front of some trees, and what follows them. -/
theorem exists_span_comments (trees : List Placed) :
    ∃ lead parts, trees.span (fun p => p.2.isComment) = (lead, parts) ∧ trees = lead ++ parts ∧
      ∀ c ∈ lead.map Prod.snd, c.isComment = true := by
  refine ⟨_, _, List.span_eq_takeWhile_dropWhile _ trees, List.takeWhile_append_dropWhile.symm, ?_⟩
  intro c h_mem
  obtain ⟨placed, h_placed, rfl⟩ := List.mem_map.1 h_mem
  exact List.all_eq_true.1 List.all_takeWhile placed h_placed

theorem gives_wrap {kind : Kind} {p : Pattern ρ} {left : Option Tree} {trees : List Placed}
    (h : Gives rules toks p none (trees.map Prod.snd)) :
    Gives rules toks (.node kind p) left ((wrap kind trees).map Prod.snd) := by
  obtain ⟨lead, parts, h_span, rfl, h_lead⟩ := exists_span_comments trees
  rw [List.map_append] at h
  rw [wrap, h_span]
  cases parts with
  | nil => exact .nodeEmpty (by simpa using h) h_lead
  | cons first others => simpa using Gives.node h h_lead (by simp)

/-- What is read is what the pattern gives, whatever the fuel and wherever it is read. -/
theorem gives_of_read {fuel : Nat} {p : Pattern ρ} {left : Option Placed} {pending : List Nat} {pos : Nat}
    {front front' : Frontier} {trees : List Placed} {stop : Nat}
    (h : read rules toks fuel p left pending pos front = (some (trees, stop), front')) :
    Gives rules toks p (left.map Prod.snd) (trees.map Prod.snd) := by
  induction fuel generalizing p left pending pos front trees stop front' with
  | zero => simp [read] at h
  | succ fuel ih =>
    cases p with
    | empty =>
      simp only [read] at h
      cases h
      exact .empty
    | token terminal kind =>
      simp only [read] at h
      split at h
      · rename_i t h_token
        split at h
        · rename_i h_accepts
          cases h
          rw [List.map_append]
          exact .token isCommentLeaf_of_mem_comments (Array.mem_of_getElem? h_token) h_accepts
        · cases h
      · cases h
    | glued texts =>
      simp only [read] at h
      split at h
      · rename_i leaves h_leaves
        cases h
        rw [List.map_append]
        exact .glued isCommentLeaf_of_mem_comments (leaf_of_mem_gluedAt h_leaves)
      · cases h
    | seq first second =>
      simp only [read] at h
      split at h
      · rename_i h_first
        split at h
        · rename_i h_second
          cases h
          rw [List.map_append]
          exact .seq (ih h_first) (ih h_second)
        · cases h
      · cases h
    | alt first second =>
      simp only [read] at h
      split at h
      · exact .altSecond (ih h)
      · exact .altFirst (ih h)
    | many body =>
      simp only [read] at h
      split at h
      · rename_i h_body
        split at h
        · cases h
          exact .manyStop
        · split at h
          · rename_i h_rest
            cases h
            rw [List.map_append]
            exact .manyMore (ih h_body) (ih h_rest)
          · cases h
            exact .manyLast (ih h_body)
      · cases h
        exact .manyStop
    | node kind body =>
      simp only [read] at h
      split at h
      · rename_i h_body
        cases h
        exact gives_wrap (ih h_body)
      · cases h
    | role r body =>
      simp only [read] at h
      split at h
      · rename_i h_body
        cases h
        have h_role : Gives rules toks (.role r body) (left.map Prod.snd) _ := .role (ih h_body)
        rw [List.map_map] at h_role ⊢
        exact h_role
      · cases h
    | rule name =>
      simp only [read] at h
      exact .rule (ih h)
    | excluding refused body =>
      simp only [read] at h
      split at h
      · cases h
      · exact .excluding (ih h)
    | ahead body =>
      simp only [read] at h
      split at h
      · cases h
        exact .ahead
      · cases h
    | only kind body =>
      simp only [read] at h
      split at h
      · rename_i h_body
        split at h
        · split at h
          · cases h
            exact .only (ih h_body)
          · cases h
        · cases h
      · cases h
    | grow base step =>
      cases left with
      | none =>
        simp only [read] at h
        split at h
        · rename_i base _ _ h_base
          obtain ⟨lead, parts, h_span, rfl, -⟩ := exists_span_comments base
          rw [h_span] at h
          split at h
          · rename_i h_single
            cases h_single
            split at h
            · rename_i h_rest
              cases h
              have h_from := ih h_base
              rw [List.map_append] at h_from ⊢
              exact .growFrom h_from (ih h_rest)
            · cases h
          · cases h
            exact .growBase (ih h_base)
        · cases h
      | some tree =>
        simp only [read] at h
        split at h
        · rename_i h_step
          split at h
          · cases h
            exact .growStop
          · exact .growStep (ih h_step) (ih h)
        · cases h
          exact .growStop
    | after kinds r kind tail =>
      simp only [read] at h
      split at h
      · cases h
      · split at h
        · split at h
          · rename_i h_tail
            cases h
            exact .after (ih h_tail)
          · cases h
        · cases h

/-! ## Checked patterns -/

/-- Do the patterns in roles pass a check, outside the nodes that the pattern makes? The rules that it
refers to are checked on their own. -/
def rolesAll (check : Role → Pattern ρ → Bool) : Pattern ρ → Bool
  | .seq p q => p.rolesAll check && q.rolesAll check
  | .alt p q => p.rolesAll check && q.rolesAll check
  | .many p => p.rolesAll check
  | .role r p => check r p
  | .excluding _ p => p.rolesAll check
  | .only _ p => p.rolesAll check
  | .grow base step => base.rolesAll check && step.rolesAll check
  | _ => true

/-- Do the patterns in roles pass a check inside every node of a marked kind? -/
def nodesAll (marked : Kind → Bool) (check : Role → Pattern ρ → Bool) : Pattern ρ → Bool
  | .seq p q => p.nodesAll marked check && q.nodesAll marked check
  | .alt p q => p.nodesAll marked check && q.nodesAll marked check
  | .many p => p.nodesAll marked check
  | .node kind p => p.nodesAll marked check && (!marked kind || p.rolesAll check)
  | .role _ p => p.nodesAll marked check
  | .excluding _ p => p.nodesAll marked check
  | .only _ p => p.nodesAll marked check
  | .grow base step => base.nodesAll marked check && step.nodesAll marked check
  | .after _ _ kind tail => tail.nodesAll marked check && !marked kind
  | _ => true

end Pattern

namespace Tree

variable {marked : Kind → Bool} {Part : Tree → Prop}

/-- The children of every node of a marked kind are as they should be. -/
inductive Formed (marked : Kind → Bool) (Part : Tree → Prop) : Tree → Prop where
  | leaf {r kind token} : Formed marked Part (.leaf r kind token)
  | node {r kind cs} (h_children : ∀ c ∈ cs, Formed marked Part c)
      (h_parts : marked kind = true → ∀ c ∈ cs, Part c) : Formed marked Part (.node r kind cs)

/-- What holds of the trees that are read: comments among them play no part. -/
structure Sound (marked : Kind → Bool) (Part : Tree → Prop) (t : Tree) : Prop where
  formed : Formed marked Part t
  comment : t.isComment = true → t.role = .none

theorem Formed.child {t c : Tree} (h : Formed marked Part t) (h_child : c ∈ t.children) :
    Formed marked Part c := by
  cases h with
  | leaf => cases h_child
  | node h_children h_parts => exact h_children c h_child

theorem Formed.part {t c : Tree} (h : Formed marked Part t) (h_kind : marked t.kind = true)
    (h_child : c ∈ t.children) : Part c := by
  cases h with
  | leaf => cases h_child
  | node h_children h_parts => exact h_parts h_kind c h_child

theorem Formed.withRole {t : Tree} (h : Formed marked Part t) (r : Role) :
    Formed marked Part (t.withRole r) := by
  cases h with
  | leaf => exact .leaf
  | node h_children h_parts => exact .node h_children h_parts

theorem Sound.withRole {t : Tree} (h : Sound marked Part t) (r : Role) :
    Sound marked Part (if t.isComment then t else t.withRole r) := by
  split
  · exact h
  · rename_i h_comment
    refine ⟨h.formed.withRole r, fun h_again => absurd ?_ h_comment⟩
    cases t <;> exact h_again

end Tree

namespace Pattern

open JavaCallGraph.Java.Tree

/-- Trees in no role are as they should be, and so are those of a pattern that passes the check for its
role. -/
structure Checks (rules : ρ → Pattern ρ) (toks : Array Token) (check : Role → Pattern ρ → Bool)
    (Part : Tree → Prop) : Prop where
  plain : ∀ {t}, t.role = .none → Part t
  role : ∀ {r p trees t}, Gives rules toks p none trees → check r p = true → t ∈ trees →
    t.isComment = false → Part (t.withRole r)

variable {marked : Kind → Bool} {check : Role → Pattern ρ → Bool} {Part : Tree → Prop}

/-- Leaves that play no part are as they should be. -/
theorem Checks.leaves (h : Checks rules toks check Part) (marked : Kind → Bool) {lead leaves : List Tree}
    (h_lead : ∀ t ∈ lead, IsCommentLeaf t)
    (h_leaves : ∀ t ∈ leaves, ∃ kind token, t = .leaf .none kind token) :
    (∀ t ∈ lead ++ leaves, Sound marked Part t) ∧ ∀ t ∈ lead ++ leaves, Part t := by
  have h_all : ∀ t ∈ lead ++ leaves, ∃ kind token, t = .leaf .none kind token := by
    rw [List.forall_mem_append]
    refine ⟨fun t h_t => ?_, h_leaves⟩
    obtain ⟨kind, token, h_leaf, -⟩ := h_lead t h_t
    exact ⟨kind, token, h_leaf⟩
  refine ⟨fun t h_t => ?_, fun t h_t => ?_⟩ <;> obtain ⟨kind, token, rfl⟩ := h_all t h_t
  · exact ⟨.leaf, fun _ => rfl⟩
  · exact h.plain rfl

/-- In a role stand the trees of a pattern, comments aside. -/
theorem Checks.inRole (h : Checks rules toks check Part) {r : Role} {p : Pattern ρ} {trees : List Tree}
    (h_gives : Gives rules toks p none trees) (h_check : check r p = true)
    (h_sound : ∀ t ∈ trees, Sound marked Part t) :
    ∀ t ∈ trees, Part (if t.isComment then t else t.withRole r) := by
  intro t h_t
  split
  · rename_i h_comment
    exact h.plain ((h_sound t h_t).comment h_comment)
  · rename_i h_comment
    exact h.role h_gives h_check h_t (by simpa using h_comment)

/-- The trees that a checked pattern gives. What stands in roles outside of nodes is carried along because
a marked node is checked by its parts. -/
theorem Gives.formed (h_checks : Checks rules toks check Part)
    (h_rules : ∀ name, (rules name).nodesAll marked check = true ∧ (rules name).rolesAll check = true)
    {p : Pattern ρ} {left : Option Tree} {trees : List Tree} (h : Gives rules toks p left trees)
    (h_nodes : p.nodesAll marked check = true) (h_left : ∀ t ∈ left, Sound marked Part t) :
    (∀ t ∈ trees, Sound marked Part t) ∧
      (p.rolesAll check = true → (∀ t ∈ left, Part t) → ∀ t ∈ trees, Part t) := by
  induction h with
  | empty => simp
  | @token terminal kind left lead token h_lead h_mem h_accepts =>
    have h_leaf : ∀ t ∈ [Tree.leaf .none kind token], ∃ kind token, t = .leaf .none kind token := by simp
    have h_leaves := h_checks.leaves marked h_lead h_leaf
    exact ⟨h_leaves.1, fun _ _ => h_leaves.2⟩
  | glued h_lead h_leaves =>
    have h_leaves := h_checks.leaves marked h_lead fun t h_t => ⟨.token, h_leaves t h_t⟩
    exact ⟨h_leaves.1, fun _ _ => h_leaves.2⟩
  | seq h_first h_second ih_first ih_second =>
    simp only [nodesAll, rolesAll, Bool.and_eq_true, List.forall_mem_append] at h_nodes ⊢
    have h_first := ih_first h_nodes.1 (by simp)
    have h_second := ih_second h_nodes.2 (by simp)
    exact ⟨⟨h_first.1, h_second.1⟩, fun h_roles _ =>
      ⟨h_first.2 h_roles.1 (by simp), h_second.2 h_roles.2 (by simp)⟩⟩
  | altFirst h ih =>
    simp only [nodesAll, rolesAll, Bool.and_eq_true] at h_nodes ⊢
    have h_trees := ih h_nodes.1 h_left
    exact ⟨h_trees.1, fun h_roles => h_trees.2 h_roles.1⟩
  | altSecond h ih =>
    simp only [nodesAll, rolesAll, Bool.and_eq_true] at h_nodes ⊢
    have h_trees := ih h_nodes.2 h_left
    exact ⟨h_trees.1, fun h_roles => h_trees.2 h_roles.2⟩
  | manyStop => simp
  | manyLast h ih =>
    have h_trees := ih h_nodes (by simp)
    exact ⟨h_trees.1, fun h_roles _ => h_trees.2 h_roles (by simp)⟩
  | manyMore h_first h_rest ih_first ih_rest =>
    have h_first := ih_first h_nodes (by simp)
    have h_rest := ih_rest h_nodes (by simp)
    simp only [List.forall_mem_append]
    exact ⟨⟨h_first.1, h_rest.1⟩, fun h_roles _ =>
      ⟨h_first.2 h_roles (by simp), h_rest.2 h_roles (by simp)⟩⟩
  | @node kind p left lead parts h h_lead h_parts ih =>
    simp only [nodesAll, Bool.and_eq_true, Bool.or_eq_true, Bool.not_eq_true'] at h_nodes
    obtain ⟨h_sound, h_roles⟩ := ih h_nodes.1 (by simp)
    simp only [List.forall_mem_append, List.forall_mem_singleton] at h_sound h_roles ⊢
    have h_node : Sound marked Part (.node .none kind parts) := by
      refine ⟨.node (fun c h_c => (h_sound.2 c h_c).formed) fun h_marked => ?_, fun _ => rfl⟩
      have h_body : p.rolesAll check = true := by
        refine h_nodes.2.resolve_left fun h_none => ?_
        rw [h_marked] at h_none
        cases h_none
      exact (h_roles h_body (by simp)).2
    exact ⟨⟨h_sound.1, h_node⟩, fun _ _ =>
      ⟨fun c h_c => h_checks.plain ((h_sound.1 c h_c).comment (h_lead c h_c)), h_checks.plain rfl⟩⟩
  | nodeEmpty h h_lead ih =>
    simp only [nodesAll, Bool.and_eq_true] at h_nodes
    have h_sound := (ih h_nodes.1 (by simp)).1
    exact ⟨h_sound, fun _ _ c h_c => h_checks.plain ((h_sound c h_c).comment (h_lead c h_c))⟩
  | role h ih =>
    have h_trees := (ih h_nodes (by simp)).1
    simp only [List.forall_mem_map]
    exact ⟨fun t h_t => (h_trees t h_t).withRole _, fun h_roles _ => h_checks.inRole h h_roles h_trees⟩
  | rule h ih =>
    have h_trees := ih (h_rules _).1 h_left
    exact ⟨h_trees.1, fun _ => h_trees.2 (h_rules _).2⟩
  | excluding h ih => exact ih h_nodes h_left
  | ahead => simp
  | only h ih =>
    have h_trees := ih h_nodes (by simp)
    exact ⟨h_trees.1, fun h_roles _ => h_trees.2 h_roles (by simp)⟩
  | growBase h ih =>
    simp only [nodesAll, rolesAll, Bool.and_eq_true] at h_nodes ⊢
    have h_trees := ih h_nodes.1 h_left
    exact ⟨h_trees.1, fun h_roles => h_trees.2 h_roles.1⟩
  | growFrom h_base h_rest ih_base ih_rest =>
    -- the last tree of the base is handed on as the one to build on
    have h_grow := h_nodes
    simp only [nodesAll, rolesAll, Bool.and_eq_true, List.forall_mem_append,
      List.forall_mem_singleton] at h_grow ih_base ⊢
    obtain ⟨h_base, h_roles⟩ := ih_base h_grow.1 (by simp)
    obtain ⟨h_rest, h_more⟩ := ih_rest h_nodes (by simpa using h_base.2)
    refine ⟨⟨h_base.1, h_rest⟩, fun h_both _ => ?_⟩
    have h_base := h_roles h_both.1 (by simp)
    exact ⟨h_base.1, h_more (by simpa [rolesAll] using h_both) (by simpa using h_base.2)⟩
  | growStop =>
    simp only [List.forall_mem_singleton]
    exact ⟨h_left _ rfl, fun _ h_part => h_part _ rfl⟩
  | growStep h_step h_rest ih_step ih_rest =>
    have h_grow := h_nodes
    simp only [nodesAll, Bool.and_eq_true, List.forall_mem_singleton] at h_grow ih_step
    obtain ⟨h_grown, h_roles⟩ := ih_step h_grow.2 h_left
    obtain ⟨h_rest, h_more⟩ := ih_rest h_nodes (by simpa using h_grown)
    refine ⟨h_rest, fun h_both h_tree => h_more h_both ?_⟩
    simp only [rolesAll, Bool.and_eq_true] at h_both
    simpa using h_roles h_both.2 h_tree
  | after h ih =>
    -- the first part was read before the pattern, so a marked node cannot be made this way
    simp only [nodesAll, Bool.and_eq_true, Bool.not_eq_true'] at h_nodes
    have h_trees := (ih h_nodes.1 (by simp)).1
    simp only [List.forall_mem_singleton]
    refine ⟨⟨.node ?_ (by simp [h_nodes.2]), fun _ => rfl⟩, fun _ _ => h_checks.plain rfl⟩
    simp only [List.forall_mem_cons]
    exact ⟨(h_left _ rfl).formed.withRole _, fun c h_c => (h_trees c h_c).formed⟩

end Pattern

end JavaCallGraph.Java
