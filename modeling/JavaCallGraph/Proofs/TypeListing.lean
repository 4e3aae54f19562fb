import JavaCallGraph.Proofs.DeclaredNames
import JavaCallGraph.Proofs.GraphKeys
import JavaCallGraph.Proofs.Sites.Apart

/-!
# Where types stand in a unit

A unit holds its types as trees: in every type there is the list of the types nested in it, whether they
are members or stand in code. A type is found again by its position, the indices on the way to it. The
list of all types follows these positions, and types are nested in each other exactly where the nodes of
the syntax tree are that declare them.

* `CompilationUnit.typeAt?` — the type at a position.
* `TypeDecl.listedOf` — all types with their positions.
* `NestedAt` — positions that lie in each other as types do.
* `Tree.nestedAt_sites` — the nodes that declare the types of a unit lie so.
* `type_paths_follow_nesting` — paths, positions and nodes of the types of a unit.
-/

namespace JavaCallGraph.Java

/-! ## Positions of types -/

/-- The type at a position in a type: the type itself, or one further in. -/
def TypeDecl.typeAt? (d : TypeDecl) : Position → Option TypeDecl
  | [] => some d
  | i :: p => d.types[i]?.bind (·.typeAt? p)

def CompilationUnit.typeAt? (u : CompilationUnit) : Position → Option TypeDecl
  | [] => none
  | i :: p => u.types[i]?.bind (·.typeAt? p)

namespace TypeDecl

mutual

/-- A type at `here` and all types in it, with their positions. -/
def listed (here : Position) : TypeDecl → List (Position × TypeDecl)
  | d@⟨_, _, _, _, _, _, _, _, types, _, _⟩ => (here, d) :: listedOf here 0 types

/-- The types at `here` from the index `i` on and all types in them, with their positions. -/
def listedOf (here : Position) (i : Nat) : List TypeDecl → List (Position × TypeDecl)
  | [] => []
  | d :: ds => listed (here ++ [i]) d ++ listedOf here (i + 1) ds

end

theorem listed_eq (here : Position) (d : TypeDecl) :
    d.listed here = (here, d) :: listedOf here 0 d.types := by
  cases d
  rw [listed]

mutual

theorem map_snd_listed (here : Position) (d : TypeDecl) : (d.listed here).map Prod.snd = d.all := by
  cases d with
  | mk _ _ _ _ _ _ _ _ types _ _ =>
    rw [listed_eq, all_eq, List.map_cons, map_snd_listedOf here 0 types]

/-- The list of all types is that of their positions without the positions. -/
theorem map_snd_listedOf (here : Position) (i : Nat) (ds : List TypeDecl) :
    (listedOf here i ds).map Prod.snd = allOf ds := by
  cases ds with
  | nil => rfl
  | cons d ds =>
    rw [listedOf, allOf, List.map_append, map_snd_listed (here ++ [i]) d, map_snd_listedOf here (i + 1) ds]

end

mutual

theorem mem_listed_iff {here p : Position} {d e : TypeDecl} :
    (p, e) ∈ d.listed here ↔ ∃ q, p = here ++ q ∧ d.typeAt? q = some e := by
  cases d with
  | mk _ _ _ _ _ _ _ _ types _ _ =>
    rw [listed_eq, List.mem_cons, mem_listedOf_iff]
    constructor
    · rintro (h_eq | ⟨k, q, d, h_d, rfl, h_at⟩)
      · cases h_eq
        exact ⟨[], by simp, rfl⟩
      · exact ⟨k :: q, by simp, by simp [typeAt?, h_d, h_at]⟩
    · rintro ⟨q, rfl, h_at⟩
      cases q with
      | nil =>
        cases h_at
        exact .inl (by simp)
      | cons k q =>
        obtain ⟨d, h_d, h_at⟩ := Option.bind_eq_some_iff.1 h_at
        exact .inr ⟨k, q, d, h_d, by simp, h_at⟩

theorem mem_listedOf_iff {here p : Position} {i : Nat} {ds : List TypeDecl} {e : TypeDecl} :
    (p, e) ∈ listedOf here i ds ↔
      ∃ k q d, ds[k]? = some d ∧ p = here ++ (i + k) :: q ∧ d.typeAt? q = some e := by
  cases ds with
  | nil => simp [listedOf]
  | cons d ds =>
    rw [listedOf, List.mem_append, mem_listed_iff, mem_listedOf_iff]
    constructor
    · rintro (⟨q, rfl, h_at⟩ | ⟨k, q, f, h_f, rfl, h_at⟩)
      · exact ⟨0, q, d, rfl, by simp, h_at⟩
      · exact ⟨k + 1, q, f, h_f, by rw [Nat.add_assoc, Nat.add_comm 1 k], h_at⟩
    · rintro ⟨k, q, f, h_f, rfl, h_at⟩
      cases k with
      | zero =>
        cases h_f
        exact .inl ⟨q, by simp, h_at⟩
      | succ k => exact .inr ⟨k, q, f, h_f, by rw [Nat.add_assoc, Nat.add_comm 1 k], h_at⟩

end

theorem mem_all_of_typeAt? {d e : TypeDecl} {p : Position} (h : d.typeAt? p = some e) : e ∈ d.all := by
  rw [← map_snd_listed [] d]
  exact List.mem_map_of_mem (mem_listed_iff.2 ⟨p, rfl, h⟩)

end TypeDecl

/-! ## Positions that are nested like types -/

/-- The positions of some types and of all types in them: what is in a type is below it, and types side
by side have nothing in common. -/
inductive NestedAt : List TypeDecl → List Position → Prop
  | nil : NestedAt [] []
  | cons {d : TypeDecl} {ds : List TypeDecl} {here : Position} {inner rest : List Position}
    (h_inner : NestedAt d.types inner) (h_below : ∀ p ∈ inner, Beyond here 0 p)
    (h_rest : NestedAt ds rest)
    (h_beside : ∀ p ∈ here :: inner, ∀ q ∈ rest, Precedes p q ∧ ¬ p <+: q ∧ ¬ q <+: p) :
    NestedAt (d :: ds) (here :: inner ++ rest)

namespace NestedAt

variable {ds es : List TypeDecl} {ps qs : List Position}

theorem append (h : NestedAt ds ps) (h' : NestedAt es qs)
    (h_beside : ∀ p ∈ ps, ∀ q ∈ qs, Precedes p q ∧ ¬ p <+: q ∧ ¬ q <+: p) :
    NestedAt (ds ++ es) (ps ++ qs) := by
  induction h with
  | nil => exact h'
  | cons h_inner h_below _ h_first _ ih =>
    rw [List.append_assoc]
    refine .cons h_inner h_below (ih fun p h_p => h_beside p (List.mem_append_right _ h_p)) ?_
    intro p h_p q h_q
    rcases List.mem_append.1 h_q with h_q | h_q
    · exact h_first p h_p q h_q
    · exact h_beside p (List.mem_append_left _ h_p) q h_q

theorem single {d : TypeDecl} {here : Position} (h : NestedAt d.types ps)
    (h_below : ∀ p ∈ ps, Beyond here 0 p) : NestedAt [d] (here :: ps) := by
  have h_one := NestedAt.cons h h_below .nil (fun _ _ _ h_mem => by cases h_mem)
  rwa [List.append_nil] at h_one

/-- The positions come in the order of reading, so no position comes twice. -/
theorem pairwise_precedes (h : NestedAt ds ps) : ps.Pairwise Precedes := by
  induction h with
  | nil => exact .nil
  | cons _ h_below _ h_beside ih_inner ih_rest =>
    refine List.pairwise_append.2 ⟨?_, ih_rest, fun p h_p q h_q => (h_beside p h_p q h_q).1⟩
    exact List.pairwise_cons.2 ⟨fun p h_p => (h_below p h_p).precedes, ih_inner⟩

theorem length_eq (h : NestedAt ds ps) : ps.length = (TypeDecl.allOf ds).length := by
  induction h with
  | nil => rfl
  | cons _ _ _ _ ih_inner ih_rest =>
    rw [TypeDecl.allOf, TypeDecl.all_eq, List.length_append, List.length_append, List.length_cons,
      List.length_cons, ih_inner, ih_rest]

end NestedAt

/-- Two lists of positions: one is above another in the first list where it is in the second. -/
def SameNesting (ps qs : List Position) : Prop :=
  ∀ a ∈ ps.zip qs, ∀ b ∈ ps.zip qs, a.1 <+: b.1 ↔ a.2 <+: b.2

namespace SameNesting

variable {ps ps' qs qs' : List Position}

theorem cons {here here' : Position} (h : SameNesting ps qs) (h_ps : ∀ p ∈ ps, Beyond here 0 p)
    (h_qs : ∀ q ∈ qs, Beyond here' 0 q) : SameNesting (here :: ps) (here' :: qs) := by
  intro a h_a b h_b
  rcases List.mem_cons.1 h_a with rfl | h_a <;> rcases List.mem_cons.1 h_b with rfl | h_b
  · exact iff_of_true (List.prefix_refl _) (List.prefix_refl _)
  · have h_mem := List.of_mem_zip h_b
    exact iff_of_true (h_ps _ h_mem.1).isPrefix (h_qs _ h_mem.2).isPrefix
  · -- a position below another one is longer
    have h_mem := List.of_mem_zip h_a
    exact iff_of_false (fun h_above => absurd h_above.length_le (Nat.not_le.2 (h_ps _ h_mem.1).length_lt))
      (fun h_above => absurd h_above.length_le (Nat.not_le.2 (h_qs _ h_mem.2).length_lt))
  · exact h a h_a b h_b

theorem append (h : SameNesting ps qs) (h' : SameNesting ps' qs') (h_length : ps.length = qs.length)
    (h_ps : ∀ p ∈ ps, ∀ q ∈ ps', ¬ p <+: q ∧ ¬ q <+: p) (h_qs : ∀ p ∈ qs, ∀ q ∈ qs', ¬ p <+: q ∧ ¬ q <+: p) :
    SameNesting (ps ++ ps') (qs ++ qs') := by
  rw [SameNesting, List.zip_append h_length]
  intro a h_a b h_b
  rcases List.mem_append.1 h_a with h_a | h_a <;> rcases List.mem_append.1 h_b with h_b | h_b
  · exact h a h_a b h_b
  · have h_left := List.of_mem_zip h_a
    have h_right := List.of_mem_zip h_b
    exact iff_of_false (h_ps _ h_left.1 _ h_right.1).1 (h_qs _ h_left.2 _ h_right.2).1
  · have h_left := List.of_mem_zip h_b
    have h_right := List.of_mem_zip h_a
    exact iff_of_false (h_ps _ h_left.1 _ h_right.1).2 (h_qs _ h_left.2 _ h_right.2).2
  · exact h' a h_a b h_b

end SameNesting

/-- The types alone decide which of their positions are above which. -/
theorem NestedAt.sameNesting {ds : List TypeDecl} {ps qs : List Position} (h : NestedAt ds ps)
    (h' : NestedAt ds qs) : SameNesting ps qs := by
  induction h generalizing qs with
  | nil =>
    intro a h_a
    cases h_a
  | @cons d ds here inner rest h_inner h_below _ h_beside ih_inner ih_rest =>
    cases h' with
    | @cons _ _ here' inner' rest' h_inner' h_below' h_rest' h_beside' =>
      -- both lists are cut after the types in `d`, which are equally many
      have h_length : (here :: inner).length = (here' :: inner').length := by
        rw [List.length_cons, List.length_cons, h_inner.length_eq, h_inner'.length_eq]
      exact ((ih_inner h_inner').cons h_below h_below').append (ih_rest h_rest') h_length
        (fun p h_p q h_q => (h_beside p h_p q h_q).2) (fun p h_p q h_q => (h_beside' p h_p q h_q).2)

/-! ## Positions in a unit -/

namespace TypeDecl

theorem isPrefix_of_mem_listed {here p : Position} {d : TypeDecl} (h : p ∈ (d.listed here).map Prod.fst) :
    here <+: p := by
  obtain ⟨⟨p, e⟩, h_mem, rfl⟩ := List.mem_map.1 h
  obtain ⟨q, rfl, -⟩ := mem_listed_iff.1 h_mem
  exact List.prefix_append here q

theorem beyond_of_mem_listedOf {here p : Position} {i : Nat} {ds : List TypeDecl}
    (h : p ∈ (listedOf here i ds).map Prod.fst) : Beyond here i p := by
  obtain ⟨⟨p, e⟩, h_mem, rfl⟩ := List.mem_map.1 h
  obtain ⟨k, q, d, -, rfl, -⟩ := mem_listedOf_iff.1 h_mem
  exact ⟨i + k, q, Nat.le_add_right i k, rfl⟩

mutual

theorem nestedAt_listed (here : Position) (d : TypeDecl) :
    NestedAt [d] ((d.listed here).map Prod.fst) := by
  cases d with
  | mk _ _ _ _ _ _ _ _ types _ _ =>
    rw [listed_eq, List.map_cons]
    exact .single (nestedAt_listedOf here 0 types) fun p h_p => beyond_of_mem_listedOf h_p

/-- Types have their positions where they are nested. -/
theorem nestedAt_listedOf (here : Position) (i : Nat) (ds : List TypeDecl) :
    NestedAt ds ((listedOf here i ds).map Prod.fst) := by
  cases ds with
  | nil => exact .nil
  | cons d ds =>
    rw [listedOf, List.map_append]
    refine (nestedAt_listed (here ++ [i]) d).append (nestedAt_listedOf here (i + 1) ds) ?_
    intro p h_p q h_q
    exact precedes_of_beyond (isPrefix_of_mem_listed h_p) (beyond_of_mem_listedOf h_q)

end

end TypeDecl

/-! ## Nodes of types -/

def Sites.typeNodes (s : Sites) : List Position := s.types.map (·.position)

theorem Sites.Apart.typeNodes_region {region : Position → Prop} {s : Sites} (h : s.Apart region) :
    ∀ p ∈ s.typeNodes, region p := by
  intro p h_p
  obtain ⟨T, h_T, rfl⟩ := List.mem_map.1 h_p
  exact h.types_region T h_T

namespace Tree

/-- A type with what its body holds is nested like its node. -/
theorem nestedAt_asType {here : Position} {head : TypeDecl} {members : Members} {cs : List Tree}
    (h : NestedAt members.types (visitBody .body here 0 cs).typeNodes) :
    NestedAt [withMembers head members] ((visitBody .body here 0 cs).asType here).typeNodes :=
  NestedAt.single h (apart_visitBody .body here 0 cs).typeNodes_region

theorem nestedAt_visitAll {mode : Mode} {here : Position} {i : Nat} {c : Tree} {cs : List Tree}
    {ds es : List TypeDecl} (h : NestedAt ds (visit mode (here ++ [i]) c).typeNodes)
    (h' : NestedAt es (visitAll mode here (i + 1) cs).typeNodes) :
    NestedAt (ds ++ es) (visitAll mode here i (c :: cs)).typeNodes := by
  rw [visitAll, Sites.typeNodes, Sites.types_append, List.map_append]
  refine h.append h' fun p h_p q h_q => ?_
  exact precedes_of_beyond ((apart_visit mode (here ++ [i]) c).typeNodes_region p h_p)
    ((apart_visitAll mode here (i + 1) cs).typeNodes_region q h_q)

mutual

/-- Types that are found in code are nested like their nodes. -/
theorem nestedAt_walk (owner : Option String) (here : Position) (t : Tree) :
    NestedAt (walk owner t).types (visit (.code owner.isSome) here t).typeNodes := by
  cases t with
  | leaf r kind token => exact .nil
  | node r kind cs =>
    rw [visit]
    -- the step names the branch that the lowering takes, and the traversal with it
    have h_step := walk_step owner r kind cs
    generalize action (.code owner.isSome) (node r kind cs) = a at h_step
    generalize walk owner (node r kind cs) = found at h_step
    cases h_step with
    | skip => exact .nil
    | type _ _ => exact nestedAt_asType (nestedAt_bodyMembers _ here 0 cs)
    | enter _ inner _ _ => exact nestedAt_walkAll inner here 0 cs

theorem nestedAt_walkAll (owner : Option String) (here : Position) (i : Nat) (cs : List Tree) :
    NestedAt (walkAll owner cs).types (visitAll (.code owner.isSome) here i cs).typeNodes := by
  cases cs with
  | nil => exact .nil
  | cons c cs =>
    rw [walkAll]
    exact nestedAt_visitAll (nestedAt_walk owner (here ++ [i]) c) (nestedAt_walkAll owner here (i + 1) cs)

theorem nestedAt_bodyFound (owner : String) (here : Position) (i : Nat) (cs : List Tree) :
    NestedAt (bodyFound owner cs).types (visitBody (.code true) here i cs).typeNodes := by
  cases cs with
  | nil => exact .nil
  | cons c cs =>
    rw [bodyFound, visitBody]
    split
    · exact nestedAt_walk (some owner) (here ++ [i]) c
    · exact nestedAt_bodyFound owner here (i + 1) cs

theorem nestedAt_bodyMembers (owner : String) (here : Position) (i : Nat) (cs : List Tree) :
    NestedAt (bodyMembers owner cs).types (visitBody .body here i cs).typeNodes := by
  cases cs with
  | nil => exact .nil
  | cons c cs =>
    rw [bodyMembers, visitBody]
    split
    · exact nestedAt_membersOf owner (here ++ [i]) c
    · exact nestedAt_bodyMembers owner here (i + 1) cs

theorem nestedAt_membersOf (owner : String) (here : Position) (t : Tree) :
    NestedAt (membersOf owner t).types (visit .body here t).typeNodes := by
  cases t with
  | leaf r kind token => exact .nil
  | node r kind cs =>
    rw [membersOf, visit]
    exact nestedAt_members owner here 0 cs

theorem nestedAt_members (owner : String) (here : Position) (i : Nat) (cs : List Tree) :
    NestedAt (members owner cs).types (visitAll .member here i cs).typeNodes := by
  cases cs with
  | nil => exact .nil
  | cons c cs =>
    rw [members]
    exact nestedAt_visitAll (nestedAt_member owner (here ++ [i]) c) (nestedAt_members owner here (i + 1) cs)

theorem nestedAt_member (owner : String) (here : Position) (t : Tree) :
    NestedAt (member owner t).types (visit .member here t).typeNodes := by
  cases t with
  | leaf r kind token => exact .nil
  | node r kind cs =>
    rw [visit]
    have h_step := member_step owner r kind cs
    generalize action .member (node r kind cs) = a at h_step
    generalize member owner (node r kind cs) = found at h_step
    cases h_step with
    | skip => exact .nil
    | type _ => exact nestedAt_asType (nestedAt_bodyMembers _ here 0 cs)
    -- types in a method or an initializer belong to the type around it, like its members
    | method => exact nestedAt_bodyFound owner here 0 cs
    | initializer _ => exact nestedAt_walkAll (some owner) here 0 cs
    | enter => exact nestedAt_members owner here 0 cs

end

theorem nestedAt_topType? (here : Position) (t : Tree) :
    NestedAt t.topType?.toList (visit .top here t).typeNodes := by
  cases t with
  | leaf r kind token =>
    have h_none : (leaf r kind token).declaresType = false := by
      simp [declaresType, partText?, part?, children]
    rw [topType?, header?_eq_none h_none]
    exact .nil
  | node r kind cs =>
    rw [visit, action, topType?]
    cases h_type : (node r kind cs).declaresType with
    | true =>
      obtain ⟨head, h_head⟩ := exists_header? h_type none
      rw [h_head]
      exact nestedAt_asType (nestedAt_bodyMembers _ here 0 cs)
    | false =>
      rw [header?_eq_none h_type]
      exact .nil

theorem nestedAt_topTypes (here : Position) (i : Nat) (cs : List Tree) :
    NestedAt ((cs.filter isNamed).filterMap topType?) (visitAll .top here i cs).typeNodes := by
  induction cs generalizing i with
  | nil => exact .nil
  | cons c cs ih =>
    rw [topTypes_cons]
    exact nestedAt_visitAll (nestedAt_topType? (here ++ [i]) c) (ih (i + 1))

/-- The types of a unit are nested like the nodes that declare them. -/
theorem nestedAt_sites (path source : String) (t : Tree) :
    NestedAt (t.toUnit path source).types (t.sites.map (·.position)) :=
  nestedAt_topTypes [] 0 t.children

end Tree

/-! ## Paths and positions -/

namespace CompilationUnit

theorem mem_listedOf_types_iff {u : CompilationUnit} {p : Position} {d : TypeDecl} :
    (p, d) ∈ TypeDecl.listedOf [] 0 u.types ↔ u.typeAt? p = some d := by
  rw [TypeDecl.mem_listedOf_iff]
  constructor
  · rintro ⟨k, q, e, h_e, rfl, h_at⟩
    simp [typeAt?, h_e, h_at]
  · intro h
    cases p with
    | nil => cases h
    | cons k q =>
      obtain ⟨e, h_e, h_at⟩ := Option.bind_eq_some_iff.1 h
      exact ⟨k, q, e, h_e, by simp, h_at⟩

/-- A path has a dot if and only if its type is in another one. -/
theorem dot_mem_path_iff {u : CompilationUnit} (h_paths : Tree.PathsFrom none u.types)
    (h_dot : ∀ d ∈ u.allTypes, '.' ∉ d.name.toList) {p : Position} {d : TypeDecl}
    (h : u.typeAt? p = some d) : '.' ∈ d.qualifiedName.toList ↔ 1 < p.length := by
  cases p with
  | nil => cases h
  | cons i p =>
    obtain ⟨e, h_e, h_at⟩ := Option.bind_eq_some_iff.1 h
    have h_mem : e ∈ u.types := List.mem_of_getElem? h_e
    cases p with
    | nil =>
      cases h_at
      rw [h_paths.outermost d h_mem]
      exact iff_of_false (h_dot d (TypeDecl.subset_allOf _ h_mem)) (by simp)
    | cons j p =>
      -- the path of the type begins with that of the type just inside the outermost one
      obtain ⟨f, h_f, h_at⟩ := Option.bind_eq_some_iff.1 h_at
      obtain ⟨rest, h_rest, -⟩ := (h_paths.types h_mem).path_of_mem_all (List.mem_of_getElem? h_f)
        (TypeDecl.mem_all_of_typeAt? h_at)
      exact iff_of_true (by simp [h_rest, Tree.nestedName]) (by simp)

end CompilationUnit

theorem exists_ofSource_of_parse {path source : String} {u : CompilationUnit}
    (h : CompilationUnit.parse path source = .ok u) :
    ∃ t, Tree.ofSource source = .ok t ∧ t.toUnit path source = u := by
  unfold CompilationUnit.parse at h
  split at h
  · rename_i t h_tree
    exact ⟨t, h_tree, Except.ok.inj h⟩
  · cases h

/-- The types of a unit have the paths of their positions. The list of all types holds the type of every
position once, in the order of the positions, and the nodes of the syntax tree that declare the types are
read in that order too and lie in each other as the types do. -/
theorem type_paths_follow_nesting {path source : String} {u : CompilationUnit}
    (h_parse : CompilationUnit.parse path source = .ok u) :
    (∀ d ∈ u.types, d.qualifiedName = d.name) ∧
    (∀ outer ∈ u.allTypes, ∀ d ∈ outer.types, d.qualifiedName = outer.qualifiedName ++ "." ++ d.name) ∧
    (∃ listing : List (Position × TypeDecl), listing.map Prod.snd = u.allTypes ∧
      (∀ p d, (p, d) ∈ listing ↔ u.typeAt? p = some d) ∧ (listing.map Prod.fst).Pairwise Precedes ∧
      ∃ t, Tree.ofSource source = .ok t ∧ List.Forall₂ t.TypeAt u.allTypes t.sites ∧
        (t.sites.map (·.position)).Pairwise Precedes ∧
        SameNesting (listing.map Prod.fst) (t.sites.map (·.position))) ∧
    ∀ p d, u.typeAt? p = some d → ('.' ∈ d.qualifiedName.toList ↔ 1 < p.length) := by
  have h_dot : ∀ d ∈ u.allTypes, '.' ∉ d.name.toList := fun d h_d =>
    (CompilationUnit.isWord_of_parse h_parse h_d).notMem_dot
  obtain ⟨t, h_tree, rfl⟩ := exists_ofSource_of_parse h_parse
  have h_paths : Tree.PathsFrom none (t.toUnit path source).types := Tree.pathsFrom_toUnit path source t
  have h_listing := TypeDecl.nestedAt_listedOf [] 0 (t.toUnit path source).types
  have h_sites := Tree.nestedAt_sites path source t
  refine ⟨h_paths.outermost, h_paths.inner, ⟨TypeDecl.listedOf [] 0 (t.toUnit path source).types, ?_, ?_, ?_⟩,
    fun p d h_at => CompilationUnit.dot_mem_path_iff h_paths h_dot h_at⟩
  · exact TypeDecl.map_snd_listedOf [] 0 _
  · exact fun p d => CompilationUnit.mem_listedOf_types_iff
  · exact ⟨h_listing.pairwise_precedes, t, h_tree, Tree.allTypes_toUnit_at path source t,
      h_sites.pairwise_precedes, h_listing.sameNesting h_sites⟩

/-- A class with an enumeration in it, which has a member of its own, and with types in a method and in an
initializer. -/
def nestedEverywhere : String := "class A{enum E{X;class C{}}void f(){class L{}}static{class N{}}}"

theorem paths_of_nestedEverywhere :
    ∃ u, CompilationUnit.parse "A.java" nestedEverywhere = .ok u ∧
      u.allTypes.map (·.qualifiedName) = ["A", "A.E", "A.E.C", "A.L", "A.N"] ∧
      ∀ outer ∈ u.allTypes, ∀ d ∈ outer.types, d.qualifiedName = outer.qualifiedName ++ "." ++ d.name := by
  have h_test : (CompilationUnit.parse "A.java" nestedEverywhere).toOption.any (fun u =>
      u.allTypes.map (·.qualifiedName) == ["A", "A.E", "A.E.C", "A.L", "A.N"]) = true := by
    decide +kernel
  obtain ⟨u, h_parse, h_paths⟩ := exists_unit_of_test h_test
  exact ⟨u, h_parse, by simpa using h_paths, (type_paths_follow_nesting h_parse).2.1⟩

end JavaCallGraph.Java
