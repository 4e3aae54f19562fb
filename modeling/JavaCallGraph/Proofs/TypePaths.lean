import JavaCallGraph.Proofs.Sites
import Mathlib.Data.List.Nodup

/-!
# Paths of types

The path of a type is the path of the type around it, a dot and its own name, however the type got
there: as a member, in the body of a method or in an initializer. The paths of a unit are therefore
apart as soon as the names of neighbours are.

* `TypeDecl.forall_mem_allOf` — what holds of outer types and goes from a type to those in it.
* `Tree.PathsFrom` — types with the paths that they have inside another type.
* `Tree.walk_paths`, `Tree.pathsFrom_toUnit` — the lowering gives such paths.
* `Tree.nodup_paths_allOf` — paths of types whose neighbours differ in name.
-/

namespace JavaCallGraph.Java

/-! ## Types in types -/

namespace TypeDecl

theorem all_eq (d : TypeDecl) : d.all = d :: allOf d.types := by
  cases d
  rw [all]

theorem mem_all_self (d : TypeDecl) : d ∈ d.all := by
  rw [all_eq]
  exact List.mem_cons_self

theorem mem_allOf_iff {types : List TypeDecl} {e : TypeDecl} :
    e ∈ allOf types ↔ ∃ d ∈ types, e ∈ d.all := by
  induction types with
  | nil => simp [allOf]
  | cons d ds ih => simp [allOf, ih]

theorem allOf_types_subset {types : List TypeDecl} {d : TypeDecl} (h : d ∈ types) :
    allOf d.types ⊆ allOf types := by
  intro e h_mem
  refine mem_allOf_iff.2 ⟨d, h, ?_⟩
  rw [all_eq]
  exact List.mem_cons_of_mem _ h_mem

theorem subset_allOf (types : List TypeDecl) : types ⊆ allOf types := by
  intro d h_mem
  exact mem_allOf_iff.2 ⟨d, h_mem, mem_all_self d⟩

mutual

theorem forall_mem_all {P : TypeDecl → Prop} (d : TypeDecl) (h_self : P d)
    (h_step : ∀ e ∈ d.all, P e → ∀ f ∈ e.types, P f) : ∀ e ∈ d.all, P e := by
  cases d with
  | mk _ _ _ _ _ _ _ _ types _ _ =>
    rw [all_eq] at h_step ⊢
    intro e h_mem
    rcases List.mem_cons.1 h_mem with rfl | h_mem
    · exact h_self
    · exact forall_mem_allOf types (h_step _ List.mem_cons_self h_self)
        (fun e h_mem => h_step e (List.mem_cons_of_mem _ h_mem)) e h_mem

/-- What holds of the given types, and of the types in a type if it holds of the type, holds of all. -/
theorem forall_mem_allOf {P : TypeDecl → Prop} (types : List TypeDecl) (h_types : ∀ d ∈ types, P d)
    (h_step : ∀ d ∈ allOf types, P d → ∀ e ∈ d.types, P e) : ∀ d ∈ allOf types, P d := by
  cases types with
  | nil => nofun
  | cons d ds =>
    rw [allOf] at h_step ⊢
    intro e h_mem
    rcases List.mem_append.1 h_mem with h_mem | h_mem
    · exact forall_mem_all d (h_types d List.mem_cons_self)
        (fun e h_mem => h_step e (List.mem_append_left _ h_mem)) e h_mem
    · exact forall_mem_allOf ds (fun d h_mem => h_types d (List.mem_cons_of_mem _ h_mem))
        (fun e h_mem => h_step e (List.mem_append_right _ h_mem)) e h_mem

end

theorem types_subset_allOf {types : List TypeDecl} {d : TypeDecl} (h : d ∈ allOf types) :
    d.types ⊆ allOf types := by
  have h_all : ∀ d ∈ allOf types, allOf d.types ⊆ allOf types := by
    refine forall_mem_allOf types (fun d h_mem => allOf_types_subset h_mem) ?_
    intro d _ h_subset e h_e
    exact List.Subset.trans (allOf_types_subset h_e) h_subset
  exact List.Subset.trans (subset_allOf d.types) (h_all d h)

end TypeDecl

namespace Tree

/-! ## Paths that the lowering gives -/

/-- Types with the paths that they have in `outer`, and so all types in them. -/
structure PathsFrom (outer : Option String) (types : List TypeDecl) : Prop where
  outermost : ∀ d ∈ types, d.qualifiedName = nestedName outer d.name
  inner : ∀ d ∈ TypeDecl.allOf types, ∀ e ∈ d.types,
    e.qualifiedName = nestedName (some d.qualifiedName) e.name

theorem pathsFrom_nil (outer : Option String) : PathsFrom outer [] := ⟨nofun, nofun⟩

theorem PathsFrom.append {outer : Option String} {ds es : List TypeDecl} (h : PathsFrom outer ds)
    (h' : PathsFrom outer es) : PathsFrom outer (ds ++ es) := by
  constructor
  · intro d h_mem
    exact (List.mem_append.1 h_mem).elim (h.outermost d) (h'.outermost d)
  · intro d h_mem
    rw [allOf_append] at h_mem
    exact (List.mem_append.1 h_mem).elim (h.inner d) (h'.inner d)

theorem qualifiedName_of_header? {outer : Option String} {t : Tree} {head : TypeDecl}
    (h : header? outer t = some head) : head.qualifiedName = nestedName outer head.name := by
  unfold header? at h
  split at h
  · cases h
    rfl
  · cases h

theorem PathsFrom.type {outer : Option String} {t : Tree} {head : TypeDecl} {members : Members}
    (h_head : header? outer t = some head)
    (h : PathsFrom (some head.qualifiedName) members.types) :
    PathsFrom outer [withMembers head members] := by
  constructor
  · intro d h_mem
    obtain rfl := List.mem_singleton.1 h_mem
    have h_path : head.qualifiedName = nestedName outer head.name := qualifiedName_of_header? h_head
    exact h_path
  · intro d h_mem
    rw [TypeDecl.allOf, TypeDecl.allOf, List.append_nil, all_withMembers] at h_mem
    rcases List.mem_cons.1 h_mem with rfl | h_mem
    · exact h.outermost
    · exact h.inner d h_mem

mutual

/-- Types that are found in code have their paths in the owner; without an owner none is found. -/
theorem walk_paths (owner : Option String) (t : Tree) :
    PathsFrom owner (walk owner t).types ∧ (owner = none → (walk owner t).types = []) := by
  cases t with
  | leaf r kind token => exact ⟨pathsFrom_nil owner, fun _ => rfl⟩
  | node r kind cs =>
    have h_step := walk_step owner r kind cs
    generalize action (.code owner.isSome) (node r kind cs) = a at h_step
    generalize walk owner (node r kind cs) = found at h_step
    cases h_step with
    | skip => exact ⟨pathsFrom_nil owner, fun _ => rfl⟩
    | type h_owner h_head =>
      refine ⟨.type h_head (bodyMembers_paths _ cs), ?_⟩
      rintro rfl
      cases h_owner
    | enter locals inner h_inner h_call =>
      have h_children := walkAll_paths inner cs
      rcases h_inner with rfl | rfl
      · exact h_children
      · -- inside an anonymous class there are no types, so their paths do not matter
        have h_none : (walkAll none cs).types = [] := h_children.2 rfl
        show PathsFrom owner (walkAll none cs).types ∧ (owner = none → (walkAll none cs).types = [])
        rw [h_none]
        exact ⟨pathsFrom_nil owner, fun _ => rfl⟩

theorem walkAll_paths (owner : Option String) (cs : List Tree) :
    PathsFrom owner (walkAll owner cs).types ∧ (owner = none → (walkAll owner cs).types = []) := by
  cases cs with
  | nil => exact ⟨pathsFrom_nil owner, fun _ => rfl⟩
  | cons c cs =>
    have h_first := walk_paths owner c
    have h_rest := walkAll_paths owner cs
    have h_types : (walkAll owner (c :: cs)).types = (walk owner c).types ++ (walkAll owner cs).types := by
      rw [walkAll]
      rfl
    rw [h_types]
    refine ⟨h_first.1.append h_rest.1, fun h_owner => ?_⟩
    rw [h_first.2 h_owner, h_rest.2 h_owner, List.append_nil]

theorem bodyFound_paths (owner : String) (cs : List Tree) :
    PathsFrom (some owner) (bodyFound owner cs).types := by
  cases cs with
  | nil => exact pathsFrom_nil _
  | cons c cs =>
    rw [bodyFound]
    split
    · exact (walk_paths (some owner) c).1
    · exact bodyFound_paths owner cs

theorem bodyMembers_paths (owner : String) (cs : List Tree) :
    PathsFrom (some owner) (bodyMembers owner cs).types := by
  cases cs with
  | nil => exact pathsFrom_nil _
  | cons c cs =>
    rw [bodyMembers]
    split
    · exact membersOf_paths owner c
    · exact bodyMembers_paths owner cs

theorem membersOf_paths (owner : String) (t : Tree) :
    PathsFrom (some owner) (membersOf owner t).types := by
  cases t with
  | leaf r kind token => exact pathsFrom_nil _
  | node r kind cs =>
    rw [membersOf]
    exact members_paths owner cs

theorem members_paths (owner : String) (cs : List Tree) :
    PathsFrom (some owner) (members owner cs).types := by
  cases cs with
  | nil => exact pathsFrom_nil _
  | cons c cs =>
    rw [members]
    exact (member_paths owner c).append (members_paths owner cs)

theorem member_paths (owner : String) (t : Tree) :
    PathsFrom (some owner) (member owner t).types := by
  cases t with
  | leaf r kind token => exact pathsFrom_nil _
  | node r kind cs =>
    have h_step := member_step owner r kind cs
    generalize action .member (node r kind cs) = a at h_step
    generalize member owner (node r kind cs) = found at h_step
    cases h_step with
    | skip => exact pathsFrom_nil _
    | type h_head => exact .type h_head (bodyMembers_paths _ cs)
    | method => exact bodyFound_paths owner cs
    | initializer fields => exact (walkAll_paths (some owner) cs).1
    | enter => exact members_paths owner cs

end

theorem pathsFrom_topType? (t : Tree) : PathsFrom none t.topType?.toList := by
  rw [topType?]
  cases h_head : header? none t with
  | none => exact pathsFrom_nil none
  | some head => exact .type h_head (bodyMembers_paths _ t.children)

/-- The types of a unit have the paths of their places. -/
theorem pathsFrom_toUnit (path source : String) (t : Tree) :
    PathsFrom none (t.toUnit path source).types := by
  show PathsFrom none (t.named.filterMap topType?)
  induction t.named with
  | nil => exact pathsFrom_nil none
  | cons c cs ih =>
    have h_types : (c :: cs).filterMap topType? = c.topType?.toList ++ cs.filterMap topType? := by
      rw [List.filterMap_cons]
      cases c.topType? <;> rfl
    rw [h_types]
    exact (pathsFrom_topType? c).append ih

/-! ## Paths of neighbours -/

/-- What may follow a path in the path of a type further in. -/
def GoesIn (rest : List Char) : Prop := rest = [] ∨ ∃ more, rest = '.' :: more

theorem toList_nestedName (outer : Option String) :
    ∃ before, ∀ name, (nestedName outer name).toList = before ++ name.toList := by
  cases outer with
  | none => exact ⟨[], fun _ => rfl⟩
  | some outer => exact ⟨outer.toList ++ ['.'], fun name => by simp [nestedName]⟩

/-- The path of a type begins with that of each type around it. -/
theorem path_of_mem_all {d : TypeDecl}
    (h : ∀ e ∈ d.all, ∀ f ∈ e.types, f.qualifiedName = nestedName (some e.qualifiedName) f.name) :
    ∀ e ∈ d.all, ∃ rest, e.qualifiedName.toList = d.qualifiedName.toList ++ rest ∧ GoesIn rest := by
  refine TypeDecl.forall_mem_all d ⟨[], by simp, .inl rfl⟩ ?_
  rintro e h_mem ⟨rest, h_rest, h_in⟩ f h_f
  refine ⟨rest ++ '.' :: f.name.toList, ?_, ?_⟩
  · simp [h e h_mem f h_f, nestedName, h_rest]
  · rcases h_in with rfl | ⟨more, rfl⟩
    · exact .inr ⟨f.name.toList, rfl⟩
    · exact .inr ⟨more ++ '.' :: f.name.toList, rfl⟩

/-- Names without dots are as long as the way to the first dot. -/
theorem eq_of_goesIn {a b rest rest' : List Char} (h_a : '.' ∉ a) (h_b : '.' ∉ b)
    (h_rest : GoesIn rest) (h_rest' : GoesIn rest') (h : a ++ rest = b ++ rest') : a = b := by
  induction a generalizing b with
  | nil =>
    cases b with
    | nil => rfl
    | cons c cs =>
      rcases h_rest with rfl | ⟨more, rfl⟩
      · cases h
      · have h_dot : '.' = c := (List.cons.inj h).1
        exact absurd (h_dot ▸ List.mem_cons_self) h_b
  | cons c cs ih =>
    cases b with
    | nil =>
      rcases h_rest' with rfl | ⟨more, rfl⟩
      · cases h
      · have h_dot : c = '.' := (List.cons.inj h).1
        exact absurd (h_dot ▸ List.mem_cons_self) h_a
    | cons d ds =>
      obtain ⟨rfl, h_tail⟩ := List.cons.inj h
      rw [ih (fun h_mem => h_a (List.mem_cons_of_mem _ h_mem))
        (fun h_mem => h_b (List.mem_cons_of_mem _ h_mem)) h_tail]

/-- Neighbours have different names. -/
structure NamesApart (types : List TypeDecl) : Prop where
  outermost : (types.map (·.name)).Nodup
  inner : ∀ d ∈ TypeDecl.allOf types, (d.types.map (·.name)).Nodup

instance (types : List TypeDecl) : Decidable (NamesApart types) :=
  decidable_of_iff (_ ∧ _) ⟨fun h => ⟨h.1, h.2⟩, fun h => ⟨h.outermost, h.inner⟩⟩

theorem PathsFrom.types {outer : Option String} {types : List TypeDecl} (h : PathsFrom outer types)
    {d : TypeDecl} (h_mem : d ∈ types) : PathsFrom (some d.qualifiedName) d.types where
  outermost := h.inner d (TypeDecl.subset_allOf types h_mem)
  inner := fun e h_e => h.inner e (TypeDecl.allOf_types_subset h_mem h_e)

theorem NamesApart.types {types : List TypeDecl} (h : NamesApart types) {d : TypeDecl}
    (h_mem : d ∈ types) : NamesApart d.types where
  outermost := h.inner d (TypeDecl.subset_allOf types h_mem)
  inner := fun e h_e => h.inner e (TypeDecl.allOf_types_subset h_mem h_e)

theorem PathsFrom.tail {outer : Option String} {d : TypeDecl} {ds : List TypeDecl}
    (h : PathsFrom outer (d :: ds)) : PathsFrom outer ds where
  outermost := fun e h_e => h.outermost e (List.mem_cons_of_mem _ h_e)
  inner := fun e h_e => h.inner e (List.mem_append_right _ h_e)

theorem NamesApart.tail {d : TypeDecl} {ds : List TypeDecl} (h : NamesApart (d :: ds)) :
    NamesApart ds where
  outermost := (List.nodup_cons.1 h.outermost).2
  inner := fun e h_e => h.inner e (List.mem_append_right _ h_e)

theorem PathsFrom.path_of_mem_all {outer : Option String} {types : List TypeDecl}
    (h : PathsFrom outer types) {d : TypeDecl} (h_mem : d ∈ types) {e : TypeDecl} (h_e : e ∈ d.all) :
    ∃ rest, e.qualifiedName.toList = (nestedName outer d.name).toList ++ rest ∧ GoesIn rest := by
  rw [← h.outermost d h_mem]
  refine Tree.path_of_mem_all ?_ e h_e
  intro e h_e
  exact h.inner e (TypeDecl.mem_allOf_iff.2 ⟨d, h_mem, h_e⟩)

/-- Types in different neighbours have different paths. -/
theorem PathsFrom.ne_of_mem_all {outer : Option String} {types : List TypeDecl}
    (h : PathsFrom outer types) {d d' e e' : TypeDecl} (h_d : d ∈ types) (h_d' : d' ∈ types)
    (h_dot : '.' ∉ d.name.toList) (h_dot' : '.' ∉ d'.name.toList) (h_ne : d.name ≠ d'.name)
    (h_e : e ∈ d.all) (h_e' : e' ∈ d'.all) : e.qualifiedName ≠ e'.qualifiedName := by
  intro h_eq
  obtain ⟨rest, h_path, h_in⟩ := h.path_of_mem_all h_d h_e
  obtain ⟨rest', h_path', h_in'⟩ := h.path_of_mem_all h_d' h_e'
  obtain ⟨before, h_before⟩ := toList_nestedName outer
  rw [h_eq, h_path', h_before, h_before, List.append_assoc, List.append_assoc] at h_path
  have h_name := eq_of_goesIn h_dot' h_dot h_in' h_in (List.append_cancel_left h_path)
  exact h_ne (String.toList_injective h_name.symm)

/-- A type in `outer` has a longer path. -/
theorem PathsFrom.ne_outer {outer : String} {types : List TypeDecl} (h : PathsFrom (some outer) types)
    {e : TypeDecl} (h_mem : e ∈ TypeDecl.allOf types) : e.qualifiedName ≠ outer := by
  rintro rfl
  obtain ⟨d, h_d, h_e⟩ := TypeDecl.mem_allOf_iff.1 h_mem
  obtain ⟨rest, h_path, -⟩ := h.path_of_mem_all h_d h_e
  have h_length := congrArg List.length h_path
  simp [nestedName] at h_length

mutual

theorem nodup_paths_all (d : TypeDecl) (h : PathsFrom (some d.qualifiedName) d.types)
    (h_dot : ∀ e ∈ TypeDecl.allOf d.types, '.' ∉ e.name.toList) (h_names : NamesApart d.types) :
    (d.all.map (·.qualifiedName)).Nodup := by
  cases d with
  | mk _ _ _ _ _ _ _ _ types _ _ =>
    rw [TypeDecl.all_eq, List.map_cons, List.nodup_cons]
    refine ⟨?_, nodup_paths_allOf _ types h h_dot h_names⟩
    intro h_mem
    obtain ⟨e, h_e, h_eq⟩ := List.mem_map.1 h_mem
    exact h.ne_outer h_e h_eq

/-- Types whose neighbours differ in name have different paths. -/
theorem nodup_paths_allOf (outer : Option String) (types : List TypeDecl) (h : PathsFrom outer types)
    (h_dot : ∀ d ∈ TypeDecl.allOf types, '.' ∉ d.name.toList) (h_names : NamesApart types) :
    ((TypeDecl.allOf types).map (·.qualifiedName)).Nodup := by
  cases types with
  | nil => exact .nil
  | cons d ds =>
    rw [TypeDecl.allOf, List.map_append, List.nodup_append]
    refine ⟨nodup_paths_all d (h.types List.mem_cons_self)
        (fun e h_e => h_dot e (TypeDecl.allOf_types_subset List.mem_cons_self h_e))
        (h_names.types List.mem_cons_self),
      nodup_paths_allOf outer ds h.tail (fun e h_e => h_dot e (List.mem_append_right _ h_e))
        h_names.tail, ?_⟩
    intro p h_p q h_q
    obtain ⟨e, h_e, rfl⟩ := List.mem_map.1 h_p
    obtain ⟨e', h_e', rfl⟩ := List.mem_map.1 h_q
    obtain ⟨d', h_d', h_e'⟩ := TypeDecl.mem_allOf_iff.1 h_e'
    -- a type of the first and one of another are told apart by these two
    have h_ne : d.name ≠ d'.name := by
      intro h_eq
      exact (List.nodup_cons.1 h_names.outermost).1 (List.mem_map.2 ⟨d', h_d', h_eq.symm⟩)
    have h_mem' : d' ∈ d :: ds := List.mem_cons_of_mem _ h_d'
    exact h.ne_of_mem_all List.mem_cons_self h_mem'
      (h_dot d (TypeDecl.subset_allOf _ List.mem_cons_self))
      (h_dot d' (TypeDecl.subset_allOf _ h_mem')) h_ne h_e h_e'

end

/-- A character that is in no name but the dot is in no path. -/
theorem PathsFrom.notMem_path {types : List TypeDecl} (h : PathsFrom none types) {c : Char}
    (h_dot : c ≠ '.') (h_names : ∀ d ∈ TypeDecl.allOf types, c ∉ d.name.toList) :
    ∀ d ∈ TypeDecl.allOf types, c ∉ d.qualifiedName.toList := by
  refine TypeDecl.forall_mem_allOf types ?_ ?_
  · intro d h_mem
    rw [h.outermost d h_mem]
    exact h_names d (TypeDecl.subset_allOf types h_mem)
  · intro d h_mem h_path e h_e
    rw [h.inner d h_mem e h_e]
    simp [nestedName, h_path, h_dot, h_names e (TypeDecl.types_subset_allOf h_mem h_e)]

end Tree

end JavaCallGraph.Java
