import JavaCallGraph.Proofs.Hierarchy

/-!
# Overridden methods

Of several methods with one name and the same parameters, a call finds the one that comes first in the
hierarchy. So a method hides what comes after it, and it hides what it overrides as far as the hierarchy
lists a type before its supertypes. The list is ordered by distance, not by inheritance: a type that is
also named directly, further down, comes before types between the two.

* `exists_split_of_mem_candidates` — a candidate is the first method with its parameters.
* `SupertypesFarther` — the shape of a hierarchy in which every supertype comes after its subtypes.
* `found_method_hides` — what a method that is found hides.
* `diamond_finds_overridden` — a hierarchy in which an overridden method is found.
-/

namespace JavaCallGraph

open Java

theorem MethodEntry.acceptsArity_congr {m n : MethodEntry} (h_params : n.params = m.params)
    (h_varargs : n.varargs = m.varargs) (count : Nat) : n.acceptsArity count = m.acceptsArity count := by
  rw [acceptsArity, acceptsArity, h_params, h_varargs]

/-- The type declares a method of the name and with the parameters of `m`, and both or neither take a
variable number of arguments. -/
def TypeEntry.DeclaresLike (t : TypeEntry) (m : MethodEntry) : Prop :=
  ∃ n ∈ t.methods, n.name = m.name ∧ n.params = m.params ∧ n.varargs = m.varargs

instance (t : TypeEntry) (m : MethodEntry) : Decidable (t.DeclaresLike m) :=
  inferInstanceAs (Decidable (∃ n ∈ t.methods, _))

namespace SymbolStore

/-! ## The first method with some parameters -/

/-- A candidate is a method of some type of the hierarchy, and no type before that one declares another
method that could be called in its place and has its parameters. -/
theorem exists_split_of_mem_candidates {store : SymbolStore} {owner name : String} {arity : Nat}
    {entry : TypeEntry} {m : MethodEntry} (h : (entry, m) ∈ store.candidates owner name arity) :
    ∃ before v after, store.lineage owner = before ++ v :: after ∧ v.entry = entry ∧
      ∀ w ∈ before, ∀ n ∈ w.entry.methods, n.name = name → n.acceptsArity arity = true →
        n.params ≠ m.params := by
  have h_find := find?_of_mem_eraseDupsBy (f := fun c : TypeEntry × MethodEntry => c.2.params) h
  rw [List.find?_filter, List.find?_flatMap, hierarchy_eq_map_lineage, List.findSome?_map] at h_find
  obtain ⟨before, v, after, h_split, h_here, h_before⟩ := List.findSome?_eq_some_iff.1 h_find
  refine ⟨before, v, after, h_split, ?_, fun w hw n hn h_name h_arity h_params => ?_⟩
  · obtain ⟨n, -, h_pair⟩ := List.mem_map.1 (List.mem_of_find?_eq_some h_here)
    exact congrArg Prod.fst h_pair
  · have h_none := List.find?_eq_none.1 (h_before w hw) (w.entry, n) (List.mem_map.2 ⟨n, hn, rfl⟩)
    simp [h_name, h_arity, h_params] at h_none

/-- No type before the one of a candidate declares a method like it. -/
theorem not_declaresLike_of_before {store : SymbolStore} {owner name : String} {arity : Nat}
    {entry : TypeEntry} {m : MethodEntry} (h : (entry, m) ∈ store.candidates owner name arity) :
    ∃ before v after, store.lineage owner = before ++ v :: after ∧ v.entry = entry ∧
      ∀ w ∈ before, ¬ w.entry.DeclaresLike m := by
  obtain ⟨before, v, after, h_split, h_entry, h_first⟩ := exists_split_of_mem_candidates h
  obtain ⟨-, -, h_name, h_arity⟩ := mem_candidates h
  refine ⟨before, v, after, h_split, h_entry, ?_⟩
  rintro w hw ⟨n, hn, h_same, h_params, h_varargs⟩
  refine h_first w hw n hn (h_same.trans h_name) ?_ h_params
  rw [MethodEntry.acceptsArity_congr h_params h_varargs, h_arity]

/-! ## Hierarchies that list subtypes first -/

/-- In the hierarchy of a type every stored supertype is farther away than the types that name it. -/
def SupertypesFarther (store : SymbolStore) (type : String) : Prop :=
  ∀ a b i j, Leads store.types.toList a b → store.types.contains b = true →
    store.Distance type a i → store.Distance type b j → i < j

theorem Leads.contains {store : SymbolStore} {a b : String} (h : Leads store.types.toList a b) :
    store.types.contains a = true := by
  obtain ⟨entry, h_entry, -⟩ := h
  exact KeyMap.contains_iff.2 ⟨entry, h_entry⟩

/-- The shape of a hierarchy can be read off the search. -/
theorem supertypesFarther_iff {store : SymbolStore} {type : String} :
    store.SupertypesFarther type ↔ ∀ v ∈ store.lineage type, ∀ w ∈ store.lineage type,
      w.name ∈ v.entry.supertypes → v.level < w.level := by
  constructor
  · intro h v hv w hw h_super
    have h_v := mem_lineage_iff_distance.1 ⟨v, hv, rfl, rfl⟩
    have h_w := mem_lineage_iff_distance.1 ⟨w, hw, rfl, rfl⟩
    exact h v.name w.name v.level w.level ⟨v.entry, get?_of_mem_lineage hv, h_super⟩ h_w.1 h_v.2 h_w.2
  · intro h a b i j h_leads h_stored h_a h_b
    obtain ⟨v, hv, rfl, rfl⟩ := mem_lineage_iff_distance.2 ⟨h_leads.contains, h_a⟩
    obtain ⟨w, hw, rfl, rfl⟩ := mem_lineage_iff_distance.2 ⟨h_stored, h_b⟩
    obtain ⟨entry, h_entry, h_super⟩ := h_leads
    obtain rfl : v.entry = entry := Option.some.inj ((get?_of_mem_lineage hv).symm.trans h_entry)
    exact h v hv w hw h_super

instance (store : SymbolStore) (type : String) : Decidable (store.SupertypesFarther type) :=
  decidable_of_iff _ supertypesFarther_iff.symm

theorem level_add_le_of_climbs {store : SymbolStore} {type : String} (h : store.SupertypesFarther type)
    {n : Nat} {a b : String} (h_chain : Climbs store.types.toList n a b) {v w : Visited}
    (hv : v ∈ store.lineage type) (hw : w ∈ store.lineage type) (h_a : v.name = a)
    (h_b : w.name = b) : v.level + n ≤ w.level := by
  induction h_chain generalizing v with
  | here a =>
    rw [eq_of_mem_lineage hv hw (h_a.trans h_b.symm)]
    exact Nat.le_refl _
  | @up n a b c h_first h_rest ih =>
    -- the next type of the chain is stored and so part of the hierarchy
    have h_stored : store.types.contains b = true := by
      cases h_rest with
      | here => exact h_b ▸ KeyMap.contains_iff.2 ⟨w.entry, get?_of_mem_lineage hw⟩
      | up h_next _ => exact h_next.contains
    have h_next : Climbs store.types.toList (v.level + 1) (TypeName.base type) b :=
      (climbs_of_mem_lineage hv).snoc (h_a ▸ h_first)
    obtain ⟨x, hx, h_x, -⟩ := exists_mem_lineage h_next h_stored
    have h_rest_le := ih hx h_x h_b
    obtain ⟨entry, h_entry, h_super⟩ := h_first
    have h_v : v.entry = entry :=
      Option.some.inj ((get?_of_mem_lineage hv).symm.trans (h_a ▸ h_entry))
    have h_step : v.level < x.level :=
      supertypesFarther_iff.1 h v hv x hx (by rw [h_v, h_x]; exact h_super)
    omega

/-- A type of such a hierarchy comes before its supertypes. -/
theorem mem_before_of_below {store : SymbolStore} {type : String} (h : store.SupertypesFarther type)
    {before after : List Visited} {v w : Visited} (h_split : store.lineage type = before ++ w :: after)
    (hv : v ∈ store.lineage type) (h_below : store.Below v.name w.name) : v ∈ before := by
  obtain ⟨n, h_chain⟩ := h_below
  have h_level := level_add_le_of_climbs h h_chain hv (by simp [h_split]) rfl rfl
  have h_ordered := store.lineage_level_le type
  rw [h_split] at hv h_ordered
  rcases List.mem_append.1 hv with h_before | h_rest
  · exact h_before
  · have h_after : ∀ x ∈ after, w.level ≤ x.level :=
      (List.pairwise_cons.1 (List.pairwise_append.1 h_ordered).2.1).1
    rcases List.mem_cons.1 h_rest with rfl | h_later
    · omega
    · have := h_after v h_later
      omega

/-! ## What a method hides -/

/-- The method that a call finds on a type, together with the place of its type in the hierarchy. No type
before that one declares a method like it: with its name and parameters, and like it in taking a variable
number of arguments or not. So if every supertype is farther away than the types that name it, no subtype
in the hierarchy overrides the method that was found by such a one. -/
theorem found_method_hides {store : SymbolStore} {owner name : String}
    {argTypes : List (Option String)} {found : Target}
    (h : store.findMethod? owner name argTypes = some found) :
    ∃ before D after m, store.lineage owner = before ++ D :: after ∧ m ∈ D.entry.methods ∧
      m.name = name ∧ found = store.toTarget D.entry m ∧
      (∀ E ∈ before, ¬ E.entry.DeclaresLike m) ∧
      (store.SupertypesFarther owner → ∀ E ∈ store.lineage owner, store.Below E.name D.name →
        ¬ E.entry.DeclaresLike m) := by
  obtain ⟨⟨entry, m⟩, h_select, rfl⟩ := Option.map_eq_some_iff.1 h
  have h_candidate := mem_of_select h_select
  obtain ⟨-, h_method, h_name, -⟩ := mem_candidates h_candidate
  obtain ⟨before, D, after, h_split, rfl, h_first⟩ := not_declaresLike_of_before h_candidate
  refine ⟨before, D, after, m, h_split, h_method, h_name, rfl, h_first, ?_⟩
  intro h_farther E hE h_below
  exact h_first E (mem_before_of_below h_farther h_split hE h_below)

namespace Ladder

def type (name : String) (kind : TypeKind) (superclass : Option String) (interfaces : List String)
    (methods : List Method) : TypeDecl :=
  ⟨name, name, kind, superclass, interfaces, [], [], methods, [], 1, 1⟩

def method : Method := ⟨"m", some "void", [], [], [], [], false, true, 1, 1⟩

/-- The class `T` extends `B`, which extends `C`, which implements the method of `I`; `T` may name more
interfaces. -/
def store (interfaces : List String) : SymbolStore :=
  .ofUnits [⟨"T.java", "", some "a", [],
    [type "I" .interfaceType none [] [method], type "C" .classType none ["I"] [method],
      type "B" .classType (some "C") [] [], type "T" .classType (some "B") interfaces []]⟩]

def target (type : String) : Target := ⟨⟨"a", type, "m", []⟩, none⟩

end Ladder

/-- On a ladder of types a call on the lowest one finds the overriding method of `C`. -/
theorem ladder_found_method_hides :
    (Ladder.store []).SupertypesFarther "a.T" ∧
    (Ladder.store []).findMethod? "a.T" "m" [] = some (Ladder.target "C") ∧
    ∃ D ∈ (Ladder.store []).lineage "a.T", ∃ m ∈ D.entry.methods,
      Ladder.target "C" = (Ladder.store []).toTarget D.entry m ∧
      ∀ E ∈ (Ladder.store []).lineage "a.T", (Ladder.store []).Below E.name D.name →
        ¬ E.entry.DeclaresLike m := by
  have h_shape : (Ladder.store []).SupertypesFarther "a.T" := by decide +kernel
  have h_found : (Ladder.store []).findMethod? "a.T" "m" [] = some (Ladder.target "C") := by
    decide +kernel
  obtain ⟨before, D, after, m, h_split, h_method, -, h_target, -, h_hides⟩ := found_method_hides h_found
  exact ⟨h_shape, h_found, D, by simp [h_split], m, h_method, h_target, h_hides h_shape⟩

/-- Inheritance goes in circles nowhere if every supertype ranks higher. -/
theorem not_below_self_of_rank {store : SymbolStore} (rank : String → Nat)
    (h : ∀ e ∈ store.types.toList, ∀ b ∈ e.2.supertypes, rank e.1 < rank b) (a : String) :
    ¬ store.Below a a := by
  have h_climbs : ∀ {n a b}, Climbs store.types.toList n a b → rank a + n ≤ rank b := by
    intro n a b h_chain
    induction h_chain with
    | here a => exact Nat.le_refl _
    | @up n a b c h_first _ ih =>
      obtain ⟨entry, h_entry, h_super⟩ := h_first
      have := h (a, entry) (KeyMap.mem_toList_iff.2 h_entry) b h_super
      simp only at this
      omega
  rintro ⟨n, h_chain⟩
  have := h_climbs h_chain
  omega

/-- If `T` names `I` once more, the call finds the method of `I`, although `C` is between the two and
overrides it. -/
theorem diamond_finds_overridden :
    ¬ ∀ (store : SymbolStore) (owner name : String) (argTypes : List (Option String)) (found : Target),
      (∀ a, ¬ store.Below a a) → store.findMethod? owner name argTypes = some found →
      ∃ D ∈ store.lineage owner, ∃ m ∈ D.entry.methods, found = store.toTarget D.entry m ∧
        ∀ E ∈ store.lineage owner, store.Below E.name D.name → ¬ E.entry.DeclaresLike m := by
  intro h
  have h_acyclic : ∀ a, ¬ (Ladder.store ["I"]).Below a a :=
    not_below_self_of_rank (fun name => ["a.T", "a.B", "a.C", "a.I"].idxOf name) (by decide +kernel)
  have h_found : (Ladder.store ["I"]).findMethod? "a.T" "m" [] =
      some (Ladder.target "I") := by
    decide +kernel
  have h_overridden : ∀ D ∈ (Ladder.store ["I"]).lineage "a.T", D.entry.type = "I" →
      ∀ m ∈ D.entry.methods, ∃ E ∈ (Ladder.store ["I"]).lineage "a.T",
        D.name ∈ E.entry.supertypes ∧ E.entry.DeclaresLike m := by
    decide +kernel
  obtain ⟨D, hD, m, h_method, h_target, h_hides⟩ := h _ _ _ _ _ h_acyclic h_found
  have h_type : D.entry.type = "I" := (congrArg (·.signature.type) h_target).symm
  obtain ⟨E, hE, h_super, h_like⟩ := h_overridden D hD h_type m h_method
  exact h_hides E hE ⟨0, .up ⟨E.entry, get?_of_mem_lineage hE, h_super⟩ (.here _)⟩ h_like

end SymbolStore

end JavaCallGraph
