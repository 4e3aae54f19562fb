import JavaCallGraph.Proofs.Overrides

/-!
# The search for supertypes

A hierarchy is what a loop collects: it takes names off a queue, passes over those that it has visited
before or that are not stored, and queues the supertypes of the rest. The queue can grow while names come
back, as in a circle of types, but every turn that queues something uses up a stored type. So the loop ends
whatever the types extend, and what it has collected then is every stored type that a chain of supertypes
leads to, once, in the order of distances.

* `Search`, `Search.turn` — the loop and one turn of it.
* `Search.turns_visit` — how many turns the loop takes and what it collects.
* `hierarchy_lists_supertypes` — the hierarchy of a type in any store.
-/

namespace JavaCallGraph.SymbolStore

/-! ## The loop -/

/-- The search between two turns: the names to visit, those that were visited and the entries found. -/
structure Search where
  queue : List String
  visited : List String
  found : List TypeEntry

namespace Search

def start (type : String) : Search := ⟨[TypeName.base type], [], []⟩

/-- Takes the first name off the queue. An entry that is found for the first time puts its supertypes at the
end. -/
def turn (store : SymbolStore) (s : Search) : Search :=
  match s.queue with
  | [] => s
  | name :: queue =>
    if s.visited.contains name then { s with queue }
    else
      match store.types.get? name with
      | none => ⟨queue, name :: s.visited, s.found⟩
      | some entry => ⟨queue ++ entry.supertypes, name :: s.visited, s.found ++ [entry]⟩

def turns (store : SymbolStore) : Nat → Search → Search
  | 0, s => s
  | n + 1, s => turns store n (s.turn store)

variable {store : SymbolStore} {s : Search}

theorem turn_of_visited {name : String} {queue : List String} (h_queue : s.queue = name :: queue)
    (h : name ∈ s.visited) : s.turn store = ⟨queue, s.visited, s.found⟩ := by
  rw [turn, h_queue]
  simp [h]

theorem turn_of_missing {name : String} {queue : List String} (h_queue : s.queue = name :: queue)
    (h : name ∉ s.visited) (h_none : store.types.get? name = none) :
    s.turn store = ⟨queue, name :: s.visited, s.found⟩ := by
  rw [turn, h_queue]
  simp [h, h_none]

theorem turn_of_stored {name : String} {queue : List String} (h_queue : s.queue = name :: queue)
    (h : name ∉ s.visited) {entry : TypeEntry} (h_entry : store.types.get? name = some entry) :
    s.turn store = ⟨queue ++ entry.supertypes, name :: s.visited, s.found ++ [entry]⟩ := by
  rw [turn, h_queue]
  simp [h, h_entry]

/-- The unseen entries are those of the store whose names were not visited. -/
def Leaves (store : SymbolStore) (visited : List String) (unseen : List (String × TypeEntry)) : Prop :=
  ∀ name, unseen.lookup name = if name ∈ visited then none else store.types.get? name

theorem Leaves.visit_missing {visited : List String} {unseen : List (String × TypeEntry)} {name : String}
    (h : Leaves store visited unseen) (h_none : unseen.lookup name = none) :
    Leaves store (name :: visited) unseen := by
  intro other
  by_cases h_other : other = name
  · rw [h_other, h_none, if_pos List.mem_cons_self]
  · rw [h other]
    simp only [List.mem_cons, h_other, false_or]

theorem Leaves.visit_stored {visited : List String} {unseen : List (String × TypeEntry)}
    (h : Leaves store visited unseen) (name : String) :
    Leaves store (name :: visited) (without name unseen) := by
  intro other
  rw [lookup_without, h other]
  by_cases h_other : other = name
  · rw [if_pos h_other, if_pos (h_other ▸ List.mem_cons_self)]
  · rw [if_neg h_other]
    simp only [List.mem_cons, h_other, false_or]

/-- The loop empties its queue, within one turn for each name on it and as many as the unseen entries can
lead to, and has then collected what a visit of the queue finds. -/
theorem turns_visit {unseen : List (String × TypeEntry)} {queue : List String} (h_queue : s.queue = queue)
    (h_unseen : Leaves store s.visited unseen) :
    ∃ n ≤ visitsOf unseen + queue.length,
      (s.turns store n).queue = [] ∧ (s.turns store n).found = s.found ++ visit unseen queue := by
  fun_induction visit unseen queue generalizing s with
  | case1 => exact ⟨0, Nat.zero_le _, h_queue, (List.append_nil _).symm⟩
  | case2 unseen name queue h_none ih =>
    -- the name was visited before, or nothing is stored under it
    have h_turn : ∃ visited, s.turn store = ⟨queue, visited, s.found⟩ ∧ Leaves store visited unseen := by
      by_cases h_visited : name ∈ s.visited
      · exact ⟨s.visited, turn_of_visited h_queue h_visited, h_unseen⟩
      · have h_missing := h_unseen name
        rw [h_none, if_neg h_visited] at h_missing
        exact ⟨name :: s.visited, turn_of_missing h_queue h_visited h_missing.symm,
          h_unseen.visit_missing h_none⟩
    obtain ⟨visited, h_turn, h_left⟩ := h_turn
    obtain ⟨n, h_n, h_empty, h_found⟩ := ih (s := s.turn store) (by rw [h_turn]) (by rwa [h_turn])
    refine ⟨n + 1, ?_, h_empty, ?_⟩
    · rw [List.length_cons]
      omega
    · rw [turns, h_found, h_turn]
  | case3 unseen name queue entry h_entry ih =>
    have h_stored := h_unseen name
    rw [h_entry] at h_stored
    have h_visited : name ∉ s.visited := by
      intro h_visited
      rw [if_pos h_visited] at h_stored
      cases h_stored
    rw [if_neg h_visited] at h_stored
    have h_turn := turn_of_stored h_queue h_visited h_stored.symm
    obtain ⟨n, h_n, h_empty, h_found⟩ := ih (s := s.turn store) (by rw [h_turn])
      (by rw [h_turn]; exact h_unseen.visit_stored name)
    refine ⟨n + 1, ?_, h_empty, ?_⟩
    · have := visitsOf_without_lt h_entry
      rw [List.length_append] at h_n
      rw [List.length_cons]
      omega
    · rw [turns, h_found, h_turn, List.append_assoc]
      rfl

end Search

/-! ## Hierarchies -/

variable {store : SymbolStore}

theorem Distance.unique {type name : String} {n m : Nat} (h : store.Distance type name n)
    (h' : store.Distance type name m) : n = m :=
  Nat.le_antisymm (h.2 m h'.1) (h'.2 n h.1)

theorem distance_of_mem_lineage {type : String} {v : Visited} (h : v ∈ store.lineage type) :
    store.Distance type v.name v.level :=
  (mem_lineage_iff_distance.1 ⟨v, h, rfl, rfl⟩).2

theorem mem_names_lineage {type name : String} :
    name ∈ (store.lineage type).map (·.name) ↔
      store.types.contains name = true ∧ ∃ n, Climbs store.types.toList n (TypeName.base type) name := by
  rw [List.mem_map]
  constructor
  · rintro ⟨v, hv, rfl⟩
    exact ⟨KeyMap.contains_iff.2 ⟨v.entry, get?_of_mem_lineage hv⟩, v.level, climbs_of_mem_lineage hv⟩
  · rintro ⟨h_stored, n, h_chain⟩
    obtain ⟨v, hv, h_name, -⟩ := exists_mem_lineage h_chain h_stored
    exact ⟨v, hv, h_name⟩

/-- The search meets a stored type before its supertypes. -/
theorem head?_lineage {type : String} {entry : TypeEntry}
    (h : store.types.get? (TypeName.base type) = some entry) :
    (store.lineage type).head? = some ⟨TypeName.base type, 0, entry⟩ := by
  rw [lineage, visitLevels]
  split
  · rename_i h_none
    cases h.symm.trans h_none
  · rename_i found h_found
    obtain rfl : entry = found := Option.some.inj (h.symm.trans h_found)
    rfl

/-- The hierarchy of a type. The loop that collects it ends, in whatever way types extend each other, after
as many turns at most as there are stored types and supertypes of them, and one more. It lists the stored
types that a chain of supertypes leads to from the base name of the type, each once and in the order of
their distances; the type itself comes first if it is stored. -/
theorem hierarchy_lists_supertypes (store : SymbolStore) (type : String) :
    (∃ n ≤ visitsOf store.types.toList + 1, ((Search.start type).turns store n).queue = [] ∧
      ((Search.start type).turns store n).found = store.hierarchy type) ∧
    ∃ names : List String, names.map store.types.get? = (store.hierarchy type).map some ∧
      names.Nodup ∧
      (∀ name, name ∈ names ↔ store.types.contains name = true ∧
        ∃ n, Climbs store.types.toList n (TypeName.base type) name) ∧
      (names.Pairwise fun a b => ∀ i j, store.Distance type a i → store.Distance type b j → i ≤ j) ∧
      (store.types.contains (TypeName.base type) = true → names.head? = some (TypeName.base type)) := by
  constructor
  · have h_unseen : Search.Leaves store (Search.start type).visited store.types.toList :=
      fun name => (if_neg List.not_mem_nil).symm
    exact Search.turns_visit rfl h_unseen
  · refine ⟨(store.lineage type).map (·.name), ?_, nodup_visitLevels _ _, fun _ => mem_names_lineage, ?_, ?_⟩
    · rw [hierarchy_eq_map_lineage, List.map_map, List.map_map]
      exact List.map_congr_left fun v hv => get?_of_mem_lineage hv
    · refine List.pairwise_map.2 ((lineage_level_le type).imp_of_mem fun {v w} hv hw h_le i j h_i h_j => ?_)
      rwa [h_i.unique (distance_of_mem_lineage hv), h_j.unique (distance_of_mem_lineage hw)]
    · intro h_stored
      obtain ⟨entry, h_entry⟩ := KeyMap.contains_iff.1 h_stored
      rw [List.head?_map, head?_lineage h_entry]
      rfl

/-- Two classes that extend each other, with an interface above both and one that is not stored. -/
def circle : SymbolStore :=
  .ofUnits [⟨"A.java", "", some "a", [],
    [Ladder.type "A" .classType (some "B") ["x.Missing", "I"] [],
      Ladder.type "B" .classType (some "A") ["I"] [], Ladder.type "I" .interfaceType none ["B"] []]⟩]

/-- In a circle of types every one is met once. -/
theorem circle_hierarchy :
    circle.types.contains (TypeName.base "a.A<T>[]") = true ∧
    (circle.hierarchy "a.A<T>[]").map (·.type) = ["A", "B", "I"] ∧
    (∃ n ≤ visitsOf circle.types.toList + 1, ((Search.start "a.A<T>[]").turns circle n).queue = []) ∧
    ∃ names : List String, names.map circle.types.get? = (circle.hierarchy "a.A<T>[]").map some ∧
      names.Nodup ∧ names.head? = some "a.A" := by
  have h_stored : circle.types.contains (TypeName.base "a.A<T>[]") = true := by decide +kernel
  obtain ⟨⟨n, h_n, h_empty, -⟩, names, h_names, h_nodup, -, -, h_head⟩ :=
    hierarchy_lists_supertypes circle "a.A<T>[]"
  refine ⟨h_stored, by decide +kernel, ⟨n, h_n, h_empty⟩, names, h_names, h_nodup, ?_⟩
  rw [h_head h_stored]
  decide +kernel

end JavaCallGraph.SymbolStore
