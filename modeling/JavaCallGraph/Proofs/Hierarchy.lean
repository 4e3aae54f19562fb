import JavaCallGraph.Proofs.SymbolStore
import Mathlib.Data.List.Nodup

/-!
# The order of a hierarchy

A hierarchy is a breadth-first search over supertypes. To speak about its order, the search is run once
more with the name of every type and the number of steps that led to it; the entries that it meets are
those of the hierarchy, one by one.

The queue of the search spans at most two levels, the lower one first (`Leveled`). From that follows
that types are met in the order of their levels, and that a level is the length of a shortest chain.
What changes on the way is the list of entries not seen yet: leaving one out cuts chains that pass it,
and `Climbs.avoid` says that such a chain goes on from one of the supertypes that were just queued.

* `Climbs`, `Below`, `Distance` — chains of supertypes and their lengths.
* `visitLevels`, `lineage` — the search with names and levels.
* `hierarchy_eq_map_lineage` — it meets the entries of the hierarchy.
* `lineage_level_le` — nearer types come first.
* `mem_lineage_iff_distance` — what is met at which level.
-/

namespace JavaCallGraph.SymbolStore

/-! ## Chains of supertypes -/

/-- Among some entries, `b` is a direct supertype of `a`. -/
def Leads (entries : List (String × TypeEntry)) (a b : String) : Prop :=
  ∃ entry, entries.lookup a = some entry ∧ b ∈ entry.supertypes

/-- A chain of `n` direct supertypes leads from `a` to `b`. -/
inductive Climbs (entries : List (String × TypeEntry)) : (n : Nat) → (a b : String) → Prop where
  | here (a : String) : Climbs entries 0 a a
  | up {n : Nat} {a b c : String} (h_first : Leads entries a b) (h_rest : Climbs entries n b c) :
      Climbs entries (n + 1) a c

theorem Climbs.snoc {entries : List (String × TypeEntry)} {n : Nat} {a b c : String}
    (h : Climbs entries n a b) (h_last : Leads entries b c) : Climbs entries (n + 1) a c := by
  induction h with
  | here a => exact .up h_last (.here c)
  | up h_first _ ih => exact .up h_first (ih h_last)

/-- The supertypes of a name without an entry are not known. -/
theorem Climbs.eq_of_lookup_eq_none {entries : List (String × TypeEntry)} {n : Nat} {a b : String}
    (h : Climbs entries n a b) (h_none : entries.lookup a = none) : a = b := by
  cases h with
  | here => rfl
  | up h_first _ =>
    obtain ⟨entry, h_entry, -⟩ := h_first
    rw [h_none] at h_entry
    cases h_entry

theorem lookup_without (name : String) (entries : List (String × TypeEntry)) (a : String) :
    (without name entries).lookup a = if a = name then none else entries.lookup a := by
  induction entries with
  | nil => simp [without]
  | cons head rest ih =>
    obtain ⟨key, entry⟩ := head
    rw [without] at ih ⊢
    by_cases h_key : key = name
    · have h_out : ((key, entry).1 != name) = false := by simp [h_key]
      rw [List.filter_cons, h_out, if_neg Bool.false_ne_true, ih]
      by_cases h_name : a = name
      · rw [if_pos h_name, if_pos h_name]
      · rw [if_neg h_name, if_neg h_name, KeyMap.lookup_cons_ne (h_key ▸ h_name)]
    · have h_in : ((key, entry).1 != name) = true := by simpa using h_key
      rw [List.filter_cons, h_in, if_pos rfl]
      by_cases h_found : a = key
      · subst h_found
        simp [h_key]
      · rw [KeyMap.lookup_cons_ne h_found, KeyMap.lookup_cons_ne h_found, ih]

theorem Leads.of_without {entries : List (String × TypeEntry)} {name a b : String}
    (h : Leads (without name entries) a b) : Leads entries a b := by
  obtain ⟨entry, h_entry, h_mem⟩ := h
  rw [lookup_without] at h_entry
  split at h_entry
  · cases h_entry
  · exact ⟨entry, h_entry, h_mem⟩

theorem Climbs.of_without {entries : List (String × TypeEntry)} {name : String} {n : Nat}
    {a b : String} (h : Climbs (without name entries) n a b) : Climbs entries n a b := by
  induction h with
  | here a => exact .here a
  | up h_first _ ih => exact .up h_first.of_without ih

/-- A chain stays clear of a name, or it goes on from a supertype of that name and stays clear of it
from there. -/
theorem Climbs.avoid {entries : List (String × TypeEntry)} {n : Nat} {a c : String}
    (h : Climbs entries n a c) (name : String) :
    Climbs (without name entries) n a c ∨
      ∃ b m, Leads entries name b ∧ m + 1 ≤ n ∧ Climbs (without name entries) m b c := by
  induction h with
  | here a => exact .inl (.here a)
  | @up n a b c h_first _ ih =>
    rcases ih with h_clear | ⟨b', m, h_leads, h_le, h_clear⟩
    · by_cases h_name : a = name
      · exact .inr ⟨b, n, h_name ▸ h_first, Nat.le_refl _, h_clear⟩
      · obtain ⟨entry, h_entry, h_mem⟩ := h_first
        exact .inl (.up ⟨entry, by rw [lookup_without, if_neg h_name, h_entry], h_mem⟩ h_clear)
    · exact .inr ⟨b', m, h_leads, by omega, h_clear⟩

/-! ## The search with names and levels -/

/-- A type that was visited: its name, the number of steps that led to it and its entry. -/
structure Visited where
  name : String
  level : Nat
  entry : TypeEntry

/-- Visits the names of a queue as `visit` does; every name comes with the number of steps to it. -/
def visitLevels (unseen : List (String × TypeEntry)) : List (String × Nat) → List Visited
  | [] => []
  | (name, level) :: queue =>
    match _h : unseen.lookup name with
    | none => visitLevels unseen queue
    | some entry =>
      ⟨name, level, entry⟩ ::
        visitLevels (without name unseen) (queue ++ entry.supertypes.map (·, level + 1))
termination_by queue => visitsOf unseen + queue.length
decreasing_by
  · simp
  · have := visitsOf_without_lt _h
    simp only [List.length_append, List.length_cons, List.length_map]
    omega

theorem visit_eq_map_visitLevels (unseen : List (String × TypeEntry)) (queue : List (String × Nat)) :
    visit unseen (queue.map Prod.fst) = (visitLevels unseen queue).map (·.entry) := by
  fun_induction visitLevels unseen queue with
  | case1 => simp [visit]
  | case2 unseen name level queue h_none ih =>
    rw [List.map_cons, visit]
    split
    · exact ih
    · simp_all
  | case3 unseen name level queue entry h_entry ih =>
    rw [List.map_cons, visit]
    split
    · simp_all
    · rename_i found h_found
      obtain rfl : entry = found := Option.some.inj (h_entry.symm.trans h_found)
      have h_queue : (queue ++ entry.supertypes.map (·, level + 1)).map Prod.fst =
          queue.map Prod.fst ++ entry.supertypes := by
        simp [Function.comp_def]
      rw [List.map_cons, ← ih, h_queue]

/-- The levels of a queue ascend and span at most two values. -/
def Leveled (queue : List (String × Nat)) : Prop :=
  queue.Pairwise fun a b => a.2 ≤ b.2 ∧ b.2 ≤ a.2 + 1

theorem Leveled.push {name : String} {level : Nat} {queue : List (String × Nat)}
    (h : Leveled ((name, level) :: queue)) (names : List String) :
    Leveled (queue ++ names.map (·, level + 1)) := by
  obtain ⟨h_head, h_queue⟩ := List.pairwise_cons.1 h
  refine List.pairwise_append.2 ⟨h_queue, ?_, ?_⟩
  · refine List.pairwise_map.2 (List.pairwise_of_forall fun _ _ => ?_)
    exact ⟨Nat.le_refl _, Nat.le_succ _⟩
  · intro a ha b hb
    obtain ⟨_, -, rfl⟩ := List.mem_map.1 hb
    have := h_head a ha
    simp only at this ⊢
    omega

theorem le_level_of_mem_visitLevels {unseen : List (String × TypeEntry)} {queue : List (String × Nat)}
    {level : Nat} (h_queue : ∀ x ∈ queue, level ≤ x.2) {v : Visited}
    (h : v ∈ visitLevels unseen queue) : level ≤ v.level := by
  fun_induction visitLevels unseen queue with
  | case1 => cases h
  | case2 unseen name here queue h_none ih =>
    exact ih (fun x hx => h_queue x (List.mem_cons_of_mem _ hx)) h
  | case3 unseen name here queue entry h_entry ih =>
    have h_here : level ≤ here := h_queue (name, here) List.mem_cons_self
    rcases List.mem_cons.1 h with rfl | h
    · exact h_here
    · refine ih (fun x hx => ?_) h
      rcases List.mem_append.1 hx with hx | hx
      · exact h_queue x (List.mem_cons_of_mem _ hx)
      · obtain ⟨_, -, rfl⟩ := List.mem_map.1 hx
        exact Nat.le_succ_of_le h_here

/-- Types are visited in the order of their levels. -/
theorem pairwise_level_visitLevels {unseen : List (String × TypeEntry)} {queue : List (String × Nat)}
    (h : Leveled queue) : (visitLevels unseen queue).Pairwise (·.level ≤ ·.level) := by
  fun_induction visitLevels unseen queue with
  | case1 => exact .nil
  | case2 unseen name level queue h_none ih => exact ih (List.pairwise_cons.1 h).2
  | case3 unseen name level queue entry h_entry ih =>
    refine List.pairwise_cons.2 ⟨fun v hv => ?_, ih (h.push _)⟩
    refine le_level_of_mem_visitLevels (fun x hx => ?_) hv
    rcases List.mem_append.1 hx with hx | hx
    · exact ((List.pairwise_cons.1 h).1 x hx).1
    · obtain ⟨_, -, rfl⟩ := List.mem_map.1 hx
      exact Nat.le_succ _

/-- What is visited has an entry, and a chain leads to it whose length is its level. -/
theorem climbs_of_mem_visitLevels {unseen : List (String × TypeEntry)} {queue : List (String × Nat)}
    {v : Visited} (h : v ∈ visitLevels unseen queue) :
    unseen.lookup v.name = some v.entry ∧
      ∃ x ∈ queue, ∃ n, Climbs unseen n x.1 v.name ∧ v.level = x.2 + n := by
  fun_induction visitLevels unseen queue with
  | case1 => cases h
  | case2 unseen name level queue h_none ih =>
    obtain ⟨h_lookup, x, hx, h_chain⟩ := ih h
    exact ⟨h_lookup, x, List.mem_cons_of_mem _ hx, h_chain⟩
  | case3 unseen name level queue entry h_entry ih =>
    rcases List.mem_cons.1 h with rfl | h
    · exact ⟨h_entry, (name, level), List.mem_cons_self, 0, .here name, rfl⟩
    · obtain ⟨h_lookup, x, hx, n, h_chain, h_level⟩ := ih h
      have h_stored : unseen.lookup v.name = some v.entry := by
        rw [lookup_without] at h_lookup
        split at h_lookup
        · cases h_lookup
        · exact h_lookup
      refine ⟨h_stored, ?_⟩
      rcases List.mem_append.1 hx with hx | hx
      · exact ⟨x, List.mem_cons_of_mem _ hx, n, h_chain.of_without, h_level⟩
      · -- a chain from a queued supertype is one step longer from the type that queued it
        obtain ⟨b, hb, rfl⟩ := List.mem_map.1 hx
        refine ⟨(name, level), List.mem_cons_self, n + 1, .up ⟨entry, h_entry, hb⟩ h_chain.of_without, ?_⟩
        simp only at h_level ⊢
        omega

/-- Everything that a chain leads to is visited, at a level that is no higher than the chain is long. -/
theorem exists_mem_visitLevels {unseen : List (String × TypeEntry)} {queue : List (String × Nat)}
    (h_queue : Leveled queue) {x : String × Nat} (hx : x ∈ queue) {n : Nat} {name : String}
    (h : Climbs unseen n x.1 name) {entry : TypeEntry} (h_entry : unseen.lookup name = some entry) :
    ∃ v ∈ visitLevels unseen queue, v.name = name ∧ v.level ≤ x.2 + n := by
  fun_induction visitLevels unseen queue generalizing x n with
  | case1 => cases hx
  | case2 unseen first level queue h_none ih =>
    rcases List.mem_cons.1 hx with rfl | hx
    · have h_name : first = name := h.eq_of_lookup_eq_none h_none
      rw [h_name, h_entry] at h_none
      cases h_none
    · exact ih (List.pairwise_cons.1 h_queue).2 hx h h_entry
  | case3 unseen first level queue found h_found ih =>
    have h_least : level ≤ x.2 := by
      rcases List.mem_cons.1 hx with rfl | hx
      · exact Nat.le_refl _
      · exact ((List.pairwise_cons.1 h_queue).1 x hx).1
    by_cases h_name : name = first
    · exact ⟨_, List.mem_cons_self, h_name.symm, Nat.le_add_right_of_le h_least⟩
    · have h_left : (without first unseen).lookup name = some entry := by
        rw [lookup_without, if_neg h_name, h_entry]
      suffices h_later : ∃ y ∈ queue ++ found.supertypes.map (·, level + 1), ∃ m,
          Climbs (without first unseen) m y.1 name ∧ y.2 + m ≤ x.2 + n by
        obtain ⟨y, hy, m, h_chain, h_le⟩ := h_later
        obtain ⟨v, hv, h_v, h_level⟩ := ih (h_queue.push _) hy h_chain h_left
        exact ⟨v, List.mem_cons_of_mem _ hv, h_v, Nat.le_trans h_level h_le⟩
      rcases h.avoid first with h_clear | ⟨b, m, ⟨found', h_found', hb⟩, h_le, h_clear⟩
      · rcases List.mem_cons.1 hx with rfl | hx
        · -- no chain that stays clear of the first name starts at it
          refine absurd (h_clear.eq_of_lookup_eq_none ?_) (Ne.symm h_name)
          rw [lookup_without, if_pos rfl]
        · exact ⟨x, List.mem_append_left _ hx, n, h_clear, Nat.le_refl _⟩
      · obtain rfl : found = found' := Option.some.inj (h_found.symm.trans h_found')
        refine ⟨(b, level + 1), List.mem_append_right _ (List.mem_map.2 ⟨b, hb, rfl⟩), m, h_clear, ?_⟩
        simp only
        omega

theorem nodup_visitLevels (unseen : List (String × TypeEntry)) (queue : List (String × Nat)) :
    ((visitLevels unseen queue).map (·.name)).Nodup := by
  fun_induction visitLevels unseen queue with
  | case1 => exact .nil
  | case2 unseen name level queue h_none ih => exact ih
  | case3 unseen name level queue entry h_entry ih =>
    refine List.nodup_cons.2 ⟨fun h_again => ?_, ih⟩
    obtain ⟨v, hv, rfl⟩ := List.mem_map.1 h_again
    obtain ⟨h_lookup, -⟩ := climbs_of_mem_visitLevels hv
    rw [lookup_without, if_pos rfl] at h_lookup
    cases h_lookup

/-! ## Hierarchies with names and levels -/

section Store

variable (store : SymbolStore)

/-- The hierarchy of a type, with the name of every type and the number of steps to it. -/
def lineage (name : String) : List Visited :=
  visitLevels store.types.toList [(TypeName.base name, 0)]

/-- `a` has `b` as a direct or indirect supertype. -/
def Below (a b : String) : Prop := ∃ n, Climbs store.types.toList (n + 1) a b

/-- The shortest chain of supertypes from the base name of a type to `name` has `n` steps. -/
def Distance (type name : String) (n : Nat) : Prop :=
  Climbs store.types.toList n (TypeName.base type) name ∧
    ∀ m, Climbs store.types.toList m (TypeName.base type) name → n ≤ m

variable {store}

/-- The search with names and levels meets the entries of the hierarchy. -/
theorem hierarchy_eq_map_lineage (name : String) :
    store.hierarchy name = (store.lineage name).map (·.entry) :=
  visit_eq_map_visitLevels store.types.toList [(TypeName.base name, 0)]

/-- Nearer types come first. -/
theorem lineage_level_le (name : String) : (store.lineage name).Pairwise (·.level ≤ ·.level) :=
  pairwise_level_visitLevels (List.pairwise_singleton _ _)

theorem get?_of_mem_lineage {name : String} {v : Visited} (h : v ∈ store.lineage name) :
    store.types.get? v.name = some v.entry :=
  (climbs_of_mem_visitLevels h).1

theorem climbs_of_mem_lineage {name : String} {v : Visited} (h : v ∈ store.lineage name) :
    Climbs store.types.toList v.level (TypeName.base name) v.name := by
  obtain ⟨-, x, hx, n, h_chain, h_level⟩ := climbs_of_mem_visitLevels h
  obtain rfl := List.mem_singleton.1 hx
  rw [h_level, Nat.zero_add]
  exact h_chain

theorem exists_mem_lineage {type name : String} {n : Nat}
    (h : Climbs store.types.toList n (TypeName.base type) name)
    (h_stored : store.types.contains name = true) :
    ∃ v ∈ store.lineage type, v.name = name ∧ v.level ≤ n := by
  obtain ⟨entry, h_entry⟩ := KeyMap.contains_iff.1 h_stored
  obtain ⟨v, hv, h_name, h_level⟩ := exists_mem_visitLevels (x := (TypeName.base type, 0))
    (List.pairwise_singleton _ _) (List.mem_singleton.2 rfl) h h_entry
  exact ⟨v, hv, h_name, by simpa using h_level⟩

theorem eq_of_mem_lineage {type : String} {v w : Visited} (hv : v ∈ store.lineage type)
    (hw : w ∈ store.lineage type) (h : v.name = w.name) : v = w :=
  List.inj_on_of_nodup_map (nodup_visitLevels _ _) hv hw h

/-- The types of a hierarchy are the stored ones that a chain leads to, at the level that is their
distance. -/
theorem mem_lineage_iff_distance {type name : String} {n : Nat} :
    (∃ v ∈ store.lineage type, v.name = name ∧ v.level = n) ↔
      store.types.contains name = true ∧ store.Distance type name n := by
  constructor
  · rintro ⟨v, hv, rfl, rfl⟩
    have h_stored : store.types.contains v.name = true :=
      KeyMap.contains_iff.2 ⟨v.entry, get?_of_mem_lineage hv⟩
    refine ⟨h_stored, climbs_of_mem_lineage hv, fun m h_chain => ?_⟩
    obtain ⟨w, hw, h_name, h_level⟩ := exists_mem_lineage h_chain h_stored
    rwa [eq_of_mem_lineage hw hv h_name] at h_level
  · rintro ⟨h_stored, h_chain, h_least⟩
    obtain ⟨v, hv, rfl, h_level⟩ := exists_mem_lineage h_chain h_stored
    exact ⟨v, hv, rfl, Nat.le_antisymm h_level (h_least _ (climbs_of_mem_lineage hv))⟩

end Store

end JavaCallGraph.SymbolStore
