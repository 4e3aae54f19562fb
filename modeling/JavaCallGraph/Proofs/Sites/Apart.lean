import JavaCallGraph.Proofs.Sites
import Mathlib.Data.List.Infix

/-!
# What stands side by side

Every part of a tree records a call at most once, and parts that stand side by side record different
calls; what a traversal notes is put together from such parts.

* `Precedes` — the order in which the nodes of a tree are read.
* `Sites.Apart` — what holds of all that a traversal notes in a part of a tree.
* `Sites.Apart.append`, `asMethod`, `asInitializer`, `asType`, `enter` — it is kept by each step.
* `Tree.apart_visit` — so it holds of the traversal.
-/

namespace JavaCallGraph.Java

/-! ## Positions side by side -/

/-- The node at `p` is read before the node at `q`: it stands above it or to the left of it. -/
def Precedes (p q : Position) : Prop :=
  (p <+: q ∧ p ≠ q) ∨ ∃ above i j p' q', i < j ∧ p = above ++ i :: p' ∧ q = above ++ j :: q'

/-- Positions below `here`, in its children from the index `i` on. -/
def Beyond (here : Position) (i : Nat) (p : Position) : Prop := ∃ j q, i ≤ j ∧ p = here ++ j :: q

theorem beyond_of_isPrefix {here p : Position} {i : Nat} (h : here ++ [i] <+: p) : Beyond here i p := by
  obtain ⟨q, rfl⟩ := h
  exact ⟨i, q, Nat.le_refl i, by simp⟩

theorem Beyond.mono {here p : Position} {i j : Nat} (h : Beyond here j p) (h_le : i ≤ j) :
    Beyond here i p := by
  obtain ⟨k, q, h_k, h_eq⟩ := h
  exact ⟨k, q, Nat.le_trans h_le h_k, h_eq⟩

theorem Beyond.isPrefix {here p : Position} {i : Nat} (h : Beyond here i p) : here <+: p := by
  obtain ⟨j, q, -, rfl⟩ := h
  exact List.prefix_append _ _

theorem Beyond.length_lt {here p : Position} {i : Nat} (h : Beyond here i p) :
    here.length < p.length := by
  obtain ⟨j, q, -, rfl⟩ := h
  simp

theorem Beyond.precedes {here p : Position} {i : Nat} (h : Beyond here i p) : Precedes here p :=
  .inl ⟨h.isPrefix, fun h_eq => by simpa [h_eq] using h.length_lt⟩

/-- Nodes in different children of a node are read one after the other, and none is above the other. -/
theorem precedes_of_beyond {here p q : Position} {i : Nat} (h : here ++ [i] <+: p)
    (h' : Beyond here (i + 1) q) : Precedes p q ∧ ¬ p <+: q ∧ ¬ q <+: p := by
  obtain ⟨p', rfl⟩ := h
  obtain ⟨j, q', h_j, rfl⟩ := h'
  have h_left : here ++ [i] ++ p' = here ++ i :: p' := by simp
  rw [h_left]
  refine ⟨.inr ⟨here, i, j, p', q', h_j, rfl, rfl⟩, fun h => ?_, fun h => ?_⟩ <;>
    · rw [List.prefix_append_right_inj, List.cons_prefix_cons] at h
      omega

/-! ## What was found in a part of a tree -/

namespace Sites

/-- The calls that belong to what is around the part. -/
def own (s : Sites) : List Position := s.calls ++ s.methods.flatMap (·.calls)

/-- All calls that were noted. -/
def records (s : Sites) : List Position := s.own ++ s.types.flatMap (·.calls)

theorem mem_own {s : Sites} {p : Position} :
    p ∈ s.own ↔ p ∈ s.calls ∨ ∃ m ∈ s.methods, p ∈ m.calls := by
  simp [own]

theorem mem_records {s : Sites} {p : Position} :
    p ∈ s.records ↔ p ∈ s.own ∨ ∃ T ∈ s.types, p ∈ T.calls := by
  simp [records]

theorem mem_records_of_mem_calls {s : Sites} {p : Position} (h : p ∈ s.calls) : p ∈ s.records :=
  mem_records.2 (.inl (mem_own.2 (.inl h)))

theorem mem_own_append {s s' : Sites} {p : Position} : p ∈ (s ++ s').own ↔ p ∈ s.own ∨ p ∈ s'.own := by
  simp only [mem_own, calls_append, methods_append, List.mem_append, or_and_right, exists_or]
  exact or_or_or_comm

theorem mem_records_append {s s' : Sites} {p : Position} :
    p ∈ (s ++ s').records ↔ p ∈ s.records ∨ p ∈ s'.records := by
  simp only [mem_records, mem_own_append, types_append, List.mem_append, or_and_right, exists_or]
  exact or_or_or_comm

theorem count_records_append (s s' : Sites) (p : Position) :
    (s ++ s').records.count p = s.records.count p + s'.records.count p := by
  simp only [records, own, calls_append, methods_append, types_append, List.flatMap_append,
    List.count_append]
  omega

theorem records_asMethod_sublist (s : Sites) (here : Position) :
    (s.asMethod here).records.Sublist s.records := by
  simp only [records, own, asMethod, List.nil_append, List.flatMap_cons, List.flatMap_nil,
    List.append_nil, List.append_assoc]
  exact (List.sublist_append_right _ _).append_left _

theorem records_asInitializer_sublist (s : Sites) : s.asInitializer.records.Sublist s.records :=
  List.sublist_append_right _ _

theorem records_asType_sublist (s : Sites) (here : Position) :
    (s.asType here).records.Sublist s.records := by
  simp only [records, own, asType, List.nil_append, List.flatMap_nil, List.flatMap_cons,
    TypeSite.calls, List.append_assoc]
  exact List.sublist_append_right _ _

/-- What holds of the calls and types that were found in the part of a tree where all positions are in
`region`. -/
structure Apart (region : Position → Prop) (s : Sites) : Prop where
  records_region : ∀ p ∈ s.records, region p
  types_region : ∀ T ∈ s.types, region T.position
  below : ∀ T ∈ s.types, ∀ p ∈ T.calls, T.position <+: p
  calls_ordered : s.calls.Pairwise Precedes
  methods_ordered : ∀ m ∈ s.methods, m.calls.Pairwise Precedes
  types_ordered : ∀ T ∈ s.types, ∀ m ∈ T.methods, m.calls.Pairwise Precedes
  /-- Every call is noted at most once. -/
  count_le : ∀ p, s.records.count p ≤ 1
  /-- No type is around a call that belongs to what is around the part. -/
  apart : ∀ p ∈ s.own, ∀ T ∈ s.types, ¬ T.position <+: p
  /-- A call is noted for the innermost of the types around it. -/
  innermost : ∀ T ∈ s.types, ∀ p ∈ T.calls, ∀ S ∈ s.types, S.position <+: p →
    S.position <+: T.position

namespace Apart

variable {s s' : Sites} {region region' whole : Position → Prop}

theorem empty : Apart region {} := by
  constructor <;> simp [records, own]

theorem mono (h : Apart region s) (h_region : ∀ p, region p → whole p) : Apart whole s :=
  { h with
    records_region := fun p hp => h_region p (h.records_region p hp)
    types_region := fun T hT => h_region _ (h.types_region T hT) }

/-- Parts that stand side by side are put together. -/
theorem append (h : Apart region s) (h' : Apart region' s')
    (h_apart : ∀ p q, region p → region' q → Precedes p q ∧ ¬ p <+: q ∧ ¬ q <+: p)
    (h_left : ∀ p, region p → whole p) (h_right : ∀ p, region' p → whole p) :
    Apart whole (s ++ s') where
  records_region p hp := by
    rw [mem_records_append] at hp
    exact hp.elim (fun hp => h_left p (h.records_region p hp))
      fun hp => h_right p (h'.records_region p hp)
  types_region T hT := (List.mem_append.1 hT).elim (fun hT => h_left _ (h.types_region T hT))
    fun hT => h_right _ (h'.types_region T hT)
  below T hT := (List.mem_append.1 hT).elim (h.below T) (h'.below T)
  calls_ordered := List.pairwise_append.2 ⟨h.calls_ordered, h'.calls_ordered, fun p hp q hq =>
    (h_apart p q (h.records_region p (mem_records_of_mem_calls hp))
      (h'.records_region q (mem_records_of_mem_calls hq))).1⟩
  methods_ordered m hm := (List.mem_append.1 hm).elim (h.methods_ordered m) (h'.methods_ordered m)
  types_ordered T hT := (List.mem_append.1 hT).elim (h.types_ordered T) (h'.types_ordered T)
  count_le p := by
    -- a position of one part is above itself, so it is none of the other part
    rw [count_records_append]
    by_cases hp : p ∈ s.records
    · have h_zero : s'.records.count p = 0 := List.count_eq_zero.2 fun hp' =>
        (h_apart p p (h.records_region p hp) (h'.records_region p hp')).2.1 (List.prefix_refl p)
      rw [h_zero]
      exact h.count_le p
    · rw [List.count_eq_zero.2 hp, Nat.zero_add]
      exact h'.count_le p
  apart p hp T hT := by
    rcases mem_own_append.1 hp with hp | hp <;> rcases List.mem_append.1 hT with hT | hT
    · exact h.apart p hp T hT
    · exact (h_apart _ _ (h.records_region p (mem_records.2 (.inl hp))) (h'.types_region T hT)).2.2
    · exact (h_apart _ _ (h.types_region T hT) (h'.records_region p (mem_records.2 (.inl hp)))).2.1
    · exact h'.apart p hp T hT
  innermost T hT p hp S hS h_around := by
    rcases List.mem_append.1 hT with hT | hT <;> rcases List.mem_append.1 hS with hS | hS
    · exact h.innermost T hT p hp S hS h_around
    · exact absurd h_around (h_apart _ _ (h.records_region p (mem_records.2 (.inr ⟨T, hT, hp⟩)))
        (h'.types_region S hS)).2.2
    · exact absurd h_around (h_apart _ _ (h.types_region S hS)
        (h'.records_region p (mem_records.2 (.inr ⟨T, hT, hp⟩)))).2.1
    · exact h'.innermost T hT p hp S hS h_around

theorem asMethod (h : Apart region s) (here : Position) : Apart region (s.asMethod here) where
  records_region p hp := h.records_region p ((s.records_asMethod_sublist here).subset hp)
  types_region := h.types_region
  below := h.below
  calls_ordered := .nil
  methods_ordered m hm := by
    rw [List.mem_singleton.1 hm]
    exact h.calls_ordered
  types_ordered := h.types_ordered
  count_le p := ((s.records_asMethod_sublist here).count_le p).trans (h.count_le p)
  apart p hp := h.apart p (mem_own.2 (.inl (by simpa [mem_own, Sites.asMethod] using hp)))
  innermost := h.innermost

theorem asInitializer (h : Apart region s) : Apart region s.asInitializer where
  records_region p hp := h.records_region p (s.records_asInitializer_sublist.subset hp)
  types_region := h.types_region
  below := h.below
  calls_ordered := .nil
  methods_ordered m hm := by cases hm
  types_ordered := h.types_ordered
  count_le p := (s.records_asInitializer_sublist.count_le p).trans (h.count_le p)
  apart p hp := by cases hp
  innermost := h.innermost

theorem asType {here : Position} {i : Nat} (h : Apart (Beyond here i) s) :
    Apart (here <+: ·) (s.asType here) := by
  have h_own : ∀ p ∈ (⟨here, s.methods⟩ : TypeSite).calls, p ∈ s.own :=
    fun p hp => List.mem_append_right _ hp
  refine ⟨fun p hp => ?_, fun T hT => ?_, fun T hT p hp => ?_, .nil, fun m hm => (nomatch hm),
    fun T hT m hm => ?_, fun p => ?_, fun p hp => (nomatch hp), fun T hT p hp S hS h_around => ?_⟩
  · exact (h.records_region p ((s.records_asType_sublist here).subset hp)).isPrefix
  · rcases List.mem_cons.1 hT with rfl | hT
    · exact List.prefix_refl here
    · exact (h.types_region T hT).isPrefix
  · rcases List.mem_cons.1 hT with rfl | hT
    · exact (h.records_region p (mem_records.2 (.inl (h_own p hp)))).isPrefix
    · exact h.below T hT p hp
  · rcases List.mem_cons.1 hT with rfl | hT
    · exact h.methods_ordered m hm
    · exact h.types_ordered T hT m hm
  · exact ((s.records_asType_sublist here).count_le p).trans (h.count_le p)
  · -- the new type is around everything else, and no other type is around its own calls
    rcases List.mem_cons.1 hT with rfl | hT <;> rcases List.mem_cons.1 hS with rfl | hS
    · exact List.prefix_refl _
    · exact absurd h_around (h.apart p (h_own p hp) S hS)
    · exact (h.types_region T hT).isPrefix
    · exact h.innermost T hT p hp S hS h_around

theorem enter {here : Position} (h : Apart (Beyond here 0) s) (isCall : Bool) :
    Apart (here <+: ·) ({ calls := if isCall then [here] else [] } ++ s) := by
  cases isCall with
  | false => exact h.mono fun p hp => hp.isPrefix
  | true =>
    have h_new : here ∉ s.records := fun h_mem => Nat.lt_irrefl _ (h.records_region _ h_mem).length_lt
    refine ⟨fun p hp => ?_, fun T hT => (h.types_region T hT).isPrefix, h.below, ?_, h.methods_ordered,
      h.types_ordered, fun p => ?_, fun p hp T hT => ?_, h.innermost⟩
    · rcases List.mem_cons.1 hp with rfl | hp
      · exact List.prefix_refl p
      · exact (h.records_region p hp).isPrefix
    · refine List.pairwise_cons.2 ⟨fun p hp => ?_, h.calls_ordered⟩
      exact (h.records_region p (mem_records_of_mem_calls hp)).precedes
    · change (here :: s.records).count p ≤ 1
      by_cases h_eq : p = here
      · rw [h_eq, List.count_cons_self, List.count_eq_zero.2 h_new]
      · rw [List.count_cons_of_ne (Ne.symm h_eq)]
        exact h.count_le p
    · rcases List.mem_cons.1 hp with rfl | hp
      · exact fun h_around => absurd h_around.length_le (Nat.not_le.2 (h.types_region T hT).length_lt)
      · exact h.apart p hp T hT

end Apart

end Sites

namespace Tree

mutual

/-- What the traversal notes in a tree stands in that tree, each call once and for the innermost type
around it. -/
theorem apart_visit (mode : Mode) (here : Position) (t : Tree) :
    (visit mode here t).Apart (here <+: ·) := by
  cases t with
  | leaf r kind token => exact .empty
  | node r kind cs =>
    rw [visit]
    split
    · exact .empty
    · exact (apart_visitBody .body here 0 cs).asType
    · exact ((apart_visitBody (.code true) here 0 cs).mono fun _ h => h.isPrefix).asMethod here
    · exact ((apart_visitAll (.code true) here 0 cs).mono fun _ h => h.isPrefix).asInitializer
    · exact (apart_visitAll _ here 0 cs).enter _

theorem apart_visitAll (mode : Mode) (here : Position) (i : Nat) (cs : List Tree) :
    (visitAll mode here i cs).Apart (Beyond here i) := by
  cases cs with
  | nil => exact .empty
  | cons c cs =>
    rw [visitAll]
    exact (apart_visit mode (here ++ [i]) c).append (apart_visitAll mode here (i + 1) cs)
      (fun _ _ => precedes_of_beyond) (fun _ => beyond_of_isPrefix) (fun _ h => h.mono (Nat.le_succ i))

theorem apart_visitBody (mode : Mode) (here : Position) (i : Nat) (cs : List Tree) :
    (visitBody mode here i cs).Apart (Beyond here i) := by
  cases cs with
  | nil => exact .empty
  | cons c cs =>
    rw [visitBody]
    split
    · exact (apart_visit mode (here ++ [i]) c).mono fun _ => beyond_of_isPrefix
    · exact (apart_visitBody mode here (i + 1) cs).mono fun _ h => h.mono (Nat.le_succ i)

end

end Tree

end JavaCallGraph.Java
