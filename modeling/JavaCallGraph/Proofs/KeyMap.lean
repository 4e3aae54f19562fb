import JavaCallGraph.KeyMap
import Mathlib.Data.List.Dedup

/-!
# Laws of maps from texts

What each operation on a map does to look-ups. After this module no proof opens the sorted list behind
a map: updates are `get?_modify`, and a map that is poured into another entry by entry is
`get?_foldl_modify`. Where all values of a map count, `toList_modify` says what an update does to them.

* `KeyMap.get?_modify` and its instances for `insert` and `insertNew`.
* `KeyMap.mem_toList_iff` — the entries are what is found.
* `KeyMap.toList_modify` — the list of entries after an update.
* `KeyMap.keys_congr`, `KeyMap.ext_get?` — maps with the same keys, and maps with the same look-ups.
* `KeyMap.size_eq_add`, `KeyMap.size_eq_length_dedup` — maps that have some more keys than another.
* `KeyMap.get?_foldl_modify`, `KeyMap.get?_union`, `KeyMap.get?_foldl_union` — pouring one map into
  another.
* `KeyMap.get?_foldl_insertNew` — of several entries of a key the first counts.
* `KeyMap.get?_foldl_insert`, `KeyMap.get?_ofList` — lists whose entries agree on a key.
-/

namespace JavaCallGraph.KeyMap

variable {α : Type}

/-! ## Lists in key order -/

theorem lookup_cons_ne {k key : String} {v : α} {rest : List (String × α)} (h : k ≠ key) :
    ((key, v) :: rest).lookup k = rest.lookup k := by
  have h_beq : (k == key) = false := by simpa using h
  rw [List.lookup_cons, h_beq]

theorem lookup_eq_none_of_ne {key : String} {entries : List (String × α)}
    (h : ∀ e ∈ entries, key ≠ e.1) : entries.lookup key = none :=
  List.lookup_eq_none_iff.2 fun e he => by simpa using h e he

theorem lookup_eq_none_of_lt {key : String} {entries : List (String × α)}
    (h : ∀ e ∈ entries, key < e.1) : entries.lookup key = none := by
  refine lookup_eq_none_of_ne fun e he heq => ?_
  exact String.lt_irrefl _ (heq ▸ h e he)

theorem eq_of_not_lt {a b : String} (h₁ : ¬ a < b) (h₂ : ¬ b < a) : a = b :=
  String.le_antisymm (String.not_lt.1 h₂) (String.not_lt.1 h₁)

theorem mem_of_lookup {κ : Type} [BEq κ] [LawfulBEq κ] {entries : List (κ × α)} {k : κ} {v : α}
    (h : entries.lookup k = some v) : (k, v) ∈ entries := by
  obtain ⟨before, after, rfl, -⟩ := List.lookup_eq_some_iff.1 h
  simp

/-- Where no key stands twice, every entry is found under its key. -/
theorem lookup_of_mem {entries : List (String × α)} (h_nodup : (entries.map Prod.fst).Nodup)
    {e : String × α} (h_mem : e ∈ entries) : entries.lookup e.1 = some e.2 := by
  induction entries with
  | nil => cases h_mem
  | cons head rest ih =>
    obtain ⟨h_new, h_rest⟩ := List.nodup_cons.1 h_nodup
    rcases List.mem_cons.1 h_mem with rfl | h_mem
    · exact List.lookup_cons_self
    · have h_ne : e.1 ≠ head.1 := by
        intro h_eq
        exact h_new (h_eq ▸ List.mem_map.2 ⟨e, h_mem, rfl⟩)
      rw [lookup_cons_ne h_ne, ih h_rest h_mem]

theorem upsert_eq (key : String) (f : Option α → α) {entries : List (String × α)}
    (h : KeysAscend entries) :
    ∃ before after, upsert key f entries = before ++ (key, f (entries.lookup key)) :: after ∧
      entries = before ++ ((entries.lookup key).toList.map (key, ·) ++ after) := by
  induction entries with
  | nil => exact ⟨[], [], rfl, rfl⟩
  | cons head rest ih =>
    obtain ⟨k, v⟩ := head
    obtain ⟨h_head, h_rest⟩ := List.pairwise_cons.1 h
    rw [upsert]
    split
    · -- the key comes before all of the list
      rename_i h_lt
      have h_new : ((k, v) :: rest).lookup key = none := by
        refine lookup_eq_none_of_lt fun e he => ?_
        rcases List.mem_cons.1 he with rfl | he
        · exact h_lt
        · exact String.lt_trans h_lt (h_head e he)
      rw [h_new]
      exact ⟨[], (k, v) :: rest, rfl, rfl⟩
    · split
      · rename_i h_gt
        have h_ne : key ≠ k := by
          rintro rfl
          exact String.lt_irrefl _ h_gt
        obtain ⟨before, after, h_upsert, h_entries⟩ := ih h_rest
        rw [lookup_cons_ne h_ne, h_upsert]
        refine ⟨(k, v) :: before, after, rfl, ?_⟩
        rw [List.cons_append, ← h_entries]
      · rename_i h_not_lt h_not_gt
        obtain rfl : key = k := eq_of_not_lt h_not_lt h_not_gt
        rw [List.lookup_cons_self]
        exact ⟨[], rest, rfl, rfl⟩

/-! ## Look-up after an update -/

@[simp] theorem get?_empty (k : String) : (empty : KeyMap α).get? k = none := rfl

theorem keys_ascend (m : KeyMap α) : m.keys.Pairwise (· < ·) := List.pairwise_map.2 m.ascend

theorem nodup_keys (m : KeyMap α) : m.keys.Nodup := by
  refine List.Pairwise.imp ?_ m.keys_ascend
  rintro a b h_lt rfl
  exact String.lt_irrefl a h_lt

/-- The entries of a map are what is found in it. -/
theorem mem_toList_iff {m : KeyMap α} {k : String} {v : α} :
    (k, v) ∈ m.toList ↔ m.get? k = some v :=
  ⟨lookup_of_mem m.nodup_keys, mem_of_lookup⟩

/-- Updating a key changes its entry where it stands, or adds one. -/
theorem toList_modify (m : KeyMap α) (key : String) (f : Option α → α) :
    ∃ before after, (m.modify key f).toList = before ++ (key, f (m.get? key)) :: after ∧
      m.toList = before ++ ((m.get? key).toList.map (key, ·) ++ after) :=
  upsert_eq key f m.ascend

/-- Updating a key changes what is found under it and nothing else. -/
theorem get?_modify (m : KeyMap α) (key : String) (f : Option α → α) (k : String) :
    (m.modify key f).get? k = if k = key then some (f (m.get? key)) else m.get? k := by
  obtain ⟨before, after, h_new, h_old⟩ := m.toList_modify key f
  by_cases h_k : k = key
  · subst h_k
    rw [if_pos rfl, ← mem_toList_iff, h_new]
    simp
  · -- the two lists differ in entries of `key` only
    rw [if_neg h_k]
    change (m.modify key f).toList.lookup k = m.toList.lookup k
    rw [h_new, h_old, List.lookup_append, List.lookup_append, List.lookup_append, lookup_cons_ne h_k]
    cases m.get? key with
    | none => simp
    | some v => simp [lookup_cons_ne h_k]

theorem get?_insert (m : KeyMap α) (key : String) (value : α) (k : String) :
    (m.insert key value).get? k = if k = key then some value else m.get? k :=
  get?_modify m key _ k

theorem get?_insertNew (m : KeyMap α) (key : String) (value : α) (k : String) :
    (m.insertNew key value).get? k =
      if k = key then some ((m.get? key).getD value) else m.get? k :=
  get?_modify m key _ k

theorem get?_insertNew_eq_or (m : KeyMap α) (key : String) (value : α) (k : String) :
    (m.insertNew key value).get? k = (m.get? k).or (if key == k then some value else none) := by
  rw [get?_insertNew]
  by_cases h_key : k = key
  · subst h_key
    cases m.get? k <;> simp
  · simp [h_key, Ne.symm h_key]

theorem contains_iff {m : KeyMap α} {k : String} : m.contains k = true ↔ ∃ v, m.get? k = some v := by
  rw [contains, Option.isSome_iff_exists]

/-! ## Maps by their keys and look-ups -/

theorem mem_keys_iff {m : KeyMap α} {k : String} : k ∈ m.keys ↔ m.contains k = true := by
  rw [contains_iff, keys, List.mem_map]
  constructor
  · rintro ⟨⟨key, v⟩, h_mem, rfl⟩
    exact ⟨v, mem_toList_iff.1 h_mem⟩
  · rintro ⟨v, h_get⟩
    exact ⟨(k, v), mem_toList_iff.2 h_get, rfl⟩

/-- Maps that contain the same keys list them in the same order. -/
theorem keys_congr {β : Type} {m : KeyMap α} {n : KeyMap β}
    (h : ∀ k, m.contains k = true ↔ n.contains k = true) : m.keys = n.keys := by
  refine List.Perm.eq_of_pairwise ?_ m.keys_ascend n.keys_ascend ?_
  · intro a b _ _ h_lt h_gt
    exact absurd (String.lt_trans h_lt h_gt) (String.lt_irrefl a)
  · refine (List.perm_ext_iff_of_nodup m.nodup_keys n.nodup_keys).2 fun k => ?_
    rw [mem_keys_iff, mem_keys_iff, h]

/-- A map that has the keys of another and some names has as many entries more as there are different
new names. -/
theorem size_eq_add {β : Type} {m : KeyMap α} {n : KeyMap β} {names : List String}
    (h : ∀ k, n.contains k = true ↔ m.contains k = true ∨ k ∈ names) :
    n.size = m.size + (names.dedup.filter fun name => !m.contains name).length := by
  have h_new : (names.dedup.filter fun name => !m.contains name).Nodup := (List.nodup_dedup _).filter _
  have h_apart : m.keys.Disjoint (names.dedup.filter fun name => !m.contains name) := by
    intro k h_old h_mem
    simp [mem_keys_iff.1 h_old] at h_mem
  have h_perm : n.keys.Perm (m.keys ++ names.dedup.filter fun name => !m.contains name) := by
    refine (List.perm_ext_iff_of_nodup n.nodup_keys (m.nodup_keys.append h_new h_apart)).2 fun k => ?_
    rw [mem_keys_iff, h, List.mem_append, mem_keys_iff, List.mem_filter, List.mem_dedup]
    cases m.contains k <;> simp
  -- a map has as many entries as keys
  have h_length := h_perm.length_eq
  rwa [List.length_append, keys, keys, List.length_map, List.length_map] at h_length

/-- A map has as many entries as there are different names among its keys. -/
theorem size_eq_length_dedup {m : KeyMap α} {names : List String}
    (h : ∀ k, m.contains k = true ↔ k ∈ names) : m.size = names.dedup.length := by
  have h_none : ∀ k, (empty : KeyMap α).contains k = false := fun k => rfl
  have h_keys : ∀ k, m.contains k = true ↔ (empty : KeyMap α).contains k = true ∨ k ∈ names := by
    simpa [h_none] using h
  have h_size := size_eq_add h_keys
  simp only [h_none, Bool.not_false, List.filter_true] at h_size
  rw [h_size]
  exact Nat.zero_add _

/-- Two maps with the same look-ups are the same. -/
theorem ext_get? {m n : KeyMap α} (h : ∀ k, m.get? k = n.get? k) : m = n := by
  have h_nodup : ∀ l : KeyMap α, l.toList.Nodup := fun l =>
    (List.pairwise_map.1 l.nodup_keys).imp fun h_ne heq => h_ne (congrArg Prod.fst heq)
  have h_entries : m.toList = n.toList := by
    refine List.Perm.eq_of_pairwise ?_ m.ascend n.ascend ?_
    · intro a b _ _ h_lt h_gt
      exact absurd (String.lt_trans h_lt h_gt) (String.lt_irrefl _)
    · refine (List.perm_ext_iff_of_nodup (h_nodup m) (h_nodup n)).2 fun ⟨k, v⟩ => ?_
      rw [mem_toList_iff, mem_toList_iff, h]
  cases m
  cases n
  cases h_entries
  rfl

/-! ## Pouring entries into a map -/

/-- Entries in key order that each update their own key: a key that they mention is updated once. -/
theorem get?_foldl_modify {β : Type} (f : β → Option α → α) {entries : List (String × β)}
    (h : KeysAscend entries) (m : KeyMap α) (k : String) :
    (entries.foldl (fun acc e => acc.modify e.1 (f e.2)) m).get? k =
      ((entries.lookup k).map fun v => f v (m.get? k)).or (m.get? k) := by
  induction entries generalizing m with
  | nil => rfl
  | cons head rest ih =>
    obtain ⟨k₀, v⟩ := head
    obtain ⟨h_head, h_rest⟩ := List.pairwise_cons.1 h
    rw [List.foldl_cons, ih h_rest, get?_modify]
    by_cases hk : k = k₀
    · subst hk
      rw [lookup_eq_none_of_lt h_head]
      simp
    · rw [lookup_cons_ne hk, if_neg hk]

theorem get?_union (m n : KeyMap α) (k : String) :
    (m.union n).get? k = (m.get? k).or (n.get? k) := by
  refine (get?_foldl_modify (fun value old => old.getD value) n.ascend m k).trans ?_
  change ((n.get? k).map fun v => (m.get? k).getD v).or (m.get? k) = _
  cases m.get? k <;> cases n.get? k <;> rfl

theorem get?_foldl_union (maps : List (KeyMap α)) (m : KeyMap α) (k : String) :
    (maps.foldl union m).get? k = (m.get? k).or (maps.findSome? (·.get? k)) := by
  induction maps generalizing m with
  | nil => simp
  | cons n rest ih =>
    rw [List.foldl_cons, ih, get?_union, List.findSome?_cons]
    cases m.get? k <;> cases n.get? k <;> rfl

/-- Entries that keep what is there: the first one of a key counts. -/
theorem get?_foldl_insertNew (entries : List (String × α)) (m : KeyMap α) (k : String) :
    (entries.foldl (fun acc e => acc.insertNew e.1 e.2) m).get? k =
      (m.get? k).or (entries.lookup k) := by
  induction entries generalizing m with
  | nil => simp
  | cons head rest ih =>
    obtain ⟨k₀, v⟩ := head
    rw [List.foldl_cons, ih, get?_insertNew]
    by_cases hk : k = k₀
    · subst hk
      cases m.get? k <;> simp
    · rw [lookup_cons_ne hk, if_neg hk]

/-- Entries that agree on a key leave their value there, and without an entry it stays. -/
theorem get?_foldl_insert {entries : List (String × α)} {k : String} {v : α}
    (h_same : ∀ w, (k, w) ∈ entries → w = v) {m : KeyMap α}
    (h : m.get? k = some v ∨ (k, v) ∈ entries) :
    (entries.foldl (fun m e => m.insert e.1 e.2) m).get? k = some v := by
  induction entries generalizing m with
  | nil => simpa using h
  | cons head rest ih =>
    obtain ⟨k₀, w⟩ := head
    refine ih (fun w' hw' => h_same w' (List.mem_cons_of_mem _ hw')) ?_
    rw [get?_insert]
    by_cases hk : k = k₀
    · subst hk
      exact .inl (by simp [h_same w List.mem_cons_self])
    · rw [if_neg hk]
      refine h.imp_right fun h_mem => ?_
      rcases List.mem_cons.1 h_mem with heq | h_mem
      · exact absurd (congrArg Prod.fst heq) hk
      · exact h_mem

theorem get?_ofList {entries : List (String × α)} {k : String} {v : α} (h_mem : (k, v) ∈ entries)
    (h_same : ∀ w, (k, w) ∈ entries → w = v) : (ofList entries).get? k = some v :=
  get?_foldl_insert h_same (.inr h_mem)

/-- The entries of a map make up the map. -/
theorem ofList_toList (m : KeyMap α) : ofList m.toList = m := by
  apply ext_get?
  intro k
  refine (get?_foldl_modify (fun v _ => v) m.ascend empty k).trans ?_
  rw [get?_empty, Option.or_none, Option.map_id_fun']
  rfl

end JavaCallGraph.KeyMap
