/-!
# Maps from texts, in key order

A finite map from strings to values, held as the list of its entries in strictly ascending key order.
Because the order is part of the type, two maps with the same look-ups are the same value, and every
traversal sees the keys in code point order.

* `KeyMap.get?`, `KeyMap.insert`, `KeyMap.modify` — look-up and update.
* `KeyMap.insertNew` — an update that keeps what is there.
* `KeyMap.keys`, `KeyMap.toList`, `KeyMap.size` — views.
-/

namespace JavaCallGraph

def KeysAscend {α : Type} (entries : List (String × α)) : Prop :=
  entries.Pairwise fun a b => a.1 < b.1

/-- A finite map whose keys are texts in code point order. -/
structure KeyMap (α : Type) where
  toList : List (String × α)
  ascend : KeysAscend toList

namespace KeyMap

variable {α : Type}

/-- The value of `key` with `f` applied, in a list in key order; `f none` where there is no entry. -/
def upsert (key : String) (f : Option α → α) : List (String × α) → List (String × α)
  | [] => [(key, f none)]
  | (k, v) :: rest =>
    if key < k then (key, f none) :: (k, v) :: rest
    else if k < key then (k, v) :: upsert key f rest
    else (k, f (some v)) :: rest

theorem mem_upsert {key : String} {f : Option α → α} {entries : List (String × α)}
    {e : String × α} (h : e ∈ upsert key f entries) : e.1 = key ∨ ∃ e' ∈ entries, e'.1 = e.1 := by
  induction entries with
  | nil => simp only [upsert, List.mem_singleton] at h; exact .inl (by rw [h])
  | cons head rest ih =>
    obtain ⟨k, v⟩ := head
    simp only [upsert] at h
    split at h
    · rcases List.mem_cons.1 h with rfl | h
      · exact .inl rfl
      · exact .inr ⟨e, h, rfl⟩
    · split at h
      · rcases List.mem_cons.1 h with rfl | h
        · exact .inr ⟨_, List.mem_cons_self, rfl⟩
        · rcases ih h with h | ⟨e', he', heq⟩
          · exact .inl h
          · exact .inr ⟨e', List.mem_cons_of_mem _ he', heq⟩
      · rcases List.mem_cons.1 h with rfl | h
        · exact .inr ⟨(k, v), List.mem_cons_self, rfl⟩
        · exact .inr ⟨e, List.mem_cons_of_mem _ h, rfl⟩

theorem upsert_ascend (key : String) (f : Option α → α) {entries : List (String × α)}
    (h : KeysAscend entries) : KeysAscend (upsert key f entries) := by
  induction entries with
  | nil => simp [upsert, KeysAscend]
  | cons head rest ih =>
    obtain ⟨k, v⟩ := head
    obtain ⟨h_head, h_rest⟩ := List.pairwise_cons.1 h
    simp only [upsert]
    split
    · rename_i h_lt
      refine List.pairwise_cons.2 ⟨fun e he => ?_, h⟩
      rcases List.mem_cons.1 he with rfl | he
      · exact h_lt
      · exact String.lt_trans h_lt (h_head e he)
    · split
      · rename_i h_lt
        refine List.pairwise_cons.2 ⟨fun e he => ?_, ih h_rest⟩
        rcases mem_upsert he with heq | ⟨e', he', heq⟩
        · exact heq ▸ h_lt
        · exact heq ▸ h_head e' he'
      · exact List.pairwise_cons.2 ⟨h_head, h_rest⟩

def empty : KeyMap α := ⟨[], .nil⟩

instance : Inhabited (KeyMap α) := ⟨empty⟩

instance [BEq α] : BEq (KeyMap α) := ⟨fun m n => m.toList == n.toList⟩

def get? (m : KeyMap α) (key : String) : Option α := m.toList.lookup key

def contains (m : KeyMap α) (key : String) : Bool := (m.get? key).isSome

def keys (m : KeyMap α) : List String := m.toList.map Prod.fst

def size (m : KeyMap α) : Nat := m.toList.length

/-- The entry of `key` becomes `f` of what it was. -/
def modify (m : KeyMap α) (key : String) (f : Option α → α) : KeyMap α :=
  ⟨upsert key f m.toList, upsert_ascend key f m.ascend⟩

def insert (m : KeyMap α) (key : String) (value : α) : KeyMap α := m.modify key fun _ => value

/-- `key` is mapped to `value` unless it is mapped already. -/
def insertNew (m : KeyMap α) (key : String) (value : α) : KeyMap α :=
  m.modify key fun old => old.getD value

/-- The map of a list of entries, where a later entry replaces an earlier one. -/
def ofList (entries : List (String × α)) : KeyMap α :=
  entries.foldl (fun m (key, value) => m.insert key value) empty

/-- Entries of `n` are added where `m` has none. -/
def union (m n : KeyMap α) : KeyMap α :=
  n.toList.foldl (fun acc (key, value) => acc.insertNew key value) m

end KeyMap

end JavaCallGraph
