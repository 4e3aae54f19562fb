import JavaCallGraph.Proofs.BrokenFiles
import JavaCallGraph.Proofs.GraphKeys
import JavaCallGraph.Proofs.ImportTable
import JavaCallGraph.Proofs.SymbolStore

/-!
# Stores only grow

A store is filled step by step, with the units of a project, the units of libraries and the names in
archives, and the steps may bring the same names. What is stored under a name is the first declaration of
it, whatever comes later, so declarations of the project are preferred to those of libraries. An entry is
looked up by the base of a name, and a package with a comment in it can have a name that is not its own base.

* `Addition` — one step.
* `SymbolStore.get?_types_ofAdditions`, `SymbolStore.contains_libraryTypes_ofAdditions` — what is stored
  after some steps.
* `SymbolStore.Within` — stores that grow.
* `Disk.addArchive_eq_of_ok` — the number of new names in an archive.
* `first_declarations_stay` — all of it.
-/

namespace JavaCallGraph

open Java

/-! ## Steps -/

/-- The names of the types in an archive; none if it cannot be loaded. -/
def Disk.archiveTypes (d : Disk) (path : String) : List String :=
  ((d.archiveEntries path).toOption.getD []).filterMap classEntryName?

/-- What is added to a store in one step: a unit, the name of a library type, or an archive on a disk. -/
inductive Addition where
  | unit (u : CompilationUnit)
  | libraryType (name : String)
  | archive (d : Disk) (path : String)

namespace Addition

def types : Addition → List (String × TypeEntry)
  | unit u => SymbolStore.declaredEntries u
  | libraryType _ => []
  | archive _ _ => []

def libraryNames : Addition → List String
  | unit _ => []
  | libraryType name => [name]
  | archive d path => d.archiveTypes path

/-- An entry has the name that it is declared under, put together from its package and path. -/
theorem name_of_mem_types {a : Addition} {k : String} {entry : TypeEntry} (h : (k, entry) ∈ a.types) :
    entry.name = k ∧ (k = entry.package ++ "." ++ entry.type ∨
      entry.package = TypeName.defaultPackage ∧ k = entry.type) := by
  cases a with
  | unit u =>
    obtain ⟨d, -, h_eq⟩ := List.mem_map.1 h
    cases h_eq
    refine ⟨rfl, ?_⟩
    rcases (ImportTable.ofUnit u).inPackage_cases d.qualifiedName with
      ⟨h_none, h_name⟩ | ⟨package, h_some, h_name⟩
    · exact .inr ⟨congrArg (Option.getD · TypeName.defaultPackage) h_none, h_name⟩
    · have h_package : (ImportTable.ofUnit u).packageName = package :=
        congrArg (Option.getD · TypeName.defaultPackage) h_some
      exact .inl (h_name.trans (by rw [TypeEntry.ofDecl, h_package]))
  | libraryType name => cases h
  | archive d path => cases h

end Addition

namespace SymbolStore

/-- One step. An archive that cannot be loaded changes nothing. -/
def add (store : SymbolStore) : Addition → SymbolStore
  | .unit u => store.addUnit u
  | .libraryType name => store.addLibraryType name
  | .archive d path => (d.addArchive store path).1

def ofAdditions (additions : List Addition) : SymbolStore := additions.foldl add empty

/-! ## What is stored -/

theorem contains_addLibraryTypes {store : SymbolStore} {names : List String} {k : String} :
    (store.addLibraryTypes names).libraryTypes.contains k = true ↔
      store.libraryTypes.contains k = true ∨ k ∈ names := by
  induction names generalizing store with
  | nil => simp [addLibraryTypes]
  | cons name rest ih =>
    have h_one : (store.addLibraryType name).libraryTypes.contains k = true ↔
        store.libraryTypes.contains k = true ∨ k = name := by
      rw [KeyMap.contains, KeyMap.contains, addLibraryType, KeyMap.get?_insertNew]
      by_cases h_k : k = name <;> simp [h_k]
    rw [List.mem_cons, ← or_assoc, ← h_one]
    exact ih

theorem fst_addArchive (store : SymbolStore) (d : Disk) (path : String) :
    (d.addArchive store path).1 = store.addLibraryTypes (d.archiveTypes path) := by
  delta Disk.addArchive
  rw [Disk.loadArchive, Disk.archiveTypes]
  cases d.archiveEntries path <;> rfl

theorem get?_types_add (store : SymbolStore) (a : Addition) (k : String) :
    (store.add a).types.get? k = (store.types.get? k).or (a.types.lookup k) := by
  cases a with
  | unit u => exact get?_types_addUnit store u k
  | libraryType name => exact (Option.or_none).symm
  | archive d path =>
    rw [add, fst_addArchive, types_addLibraryTypes]
    exact (Option.or_none).symm

theorem contains_libraryTypes_add {store : SymbolStore} {a : Addition} {k : String} :
    (store.add a).libraryTypes.contains k = true ↔
      store.libraryTypes.contains k = true ∨ k ∈ a.libraryNames := by
  cases a with
  | unit u =>
    rw [add, libraryTypes_addUnit]
    simp [Addition.libraryNames]
  | libraryType name => exact @contains_addLibraryTypes store [name] k
  | archive d path =>
    rw [add, fst_addArchive]
    exact contains_addLibraryTypes

theorem get?_types_foldl_add (additions : List Addition) (store : SymbolStore) (k : String) :
    (additions.foldl add store).types.get? k =
      (store.types.get? k).or ((additions.flatMap Addition.types).lookup k) := by
  induction additions generalizing store with
  | nil => simp
  | cons a rest ih =>
    rw [List.foldl_cons, ih, get?_types_add, List.flatMap_cons, List.lookup_append, Option.or_assoc]

/-- Of all declarations of a name the first is stored. -/
theorem get?_types_ofAdditions (additions : List Addition) (k : String) :
    (ofAdditions additions).types.get? k = (additions.flatMap Addition.types).lookup k :=
  get?_types_foldl_add additions empty k

theorem contains_libraryTypes_foldl_add {additions : List Addition} {store : SymbolStore} {k : String} :
    (additions.foldl add store).libraryTypes.contains k = true ↔
      store.libraryTypes.contains k = true ∨ k ∈ additions.flatMap Addition.libraryNames := by
  induction additions generalizing store with
  | nil => simp
  | cons a rest ih =>
    rw [List.foldl_cons, ih, contains_libraryTypes_add, List.flatMap_cons, List.mem_append, or_assoc]

theorem contains_libraryTypes_ofAdditions {additions : List Addition} {k : String} :
    (ofAdditions additions).libraryTypes.contains k = true ↔
      k ∈ additions.flatMap Addition.libraryNames := by
  rw [ofAdditions, contains_libraryTypes_foldl_add]
  exact or_iff_right Bool.false_ne_true

theorem contains_types_ofAdditions {additions : List Addition} {k : String} :
    (ofAdditions additions).types.contains k = true ↔
      k ∈ (additions.flatMap Addition.types).map Prod.fst := by
  rw [KeyMap.contains, get?_types_ofAdditions, List.lookup_isSome_iff, List.mem_map]
  simp only [beq_iff_eq, eq_comm (a := k)]

/-! ## Growing -/

/-- All that the first store knows is known to the second, which has the same entries for it. -/
structure Within (store grown : SymbolStore) : Prop where
  types : ∀ k entry, store.types.get? k = some entry → grown.types.get? k = some entry
  libraryTypes : ∀ k, store.libraryTypes.contains k = true → grown.libraryTypes.contains k = true

namespace Within

theorem refl (store : SymbolStore) : store.Within store := ⟨fun _ _ h => h, fun _ h => h⟩

theorem trans {a b c : SymbolStore} (h : a.Within b) (h' : b.Within c) : a.Within c :=
  ⟨fun k entry h_get => h'.types k entry (h.types k entry h_get),
    fun k h_mem => h'.libraryTypes k (h.libraryTypes k h_mem)⟩

theorem isKnown {store grown : SymbolStore} (h : store.Within grown) {name : String}
    (h_known : store.isKnown name = true) : grown.isKnown name = true := by
  have h_types : store.types.contains (TypeName.base name) = true →
      grown.types.contains (TypeName.base name) = true := by
    rw [KeyMap.contains_iff, KeyMap.contains_iff]
    rintro ⟨entry, h_get⟩
    exact ⟨entry, h.types _ entry h_get⟩
  simp only [SymbolStore.isKnown, Bool.or_eq_true] at h_known ⊢
  exact h_known.imp_left (Or.imp_left (Or.imp (Or.imp_right h_types) (h.libraryTypes _)))

end Within

theorem within_add (store : SymbolStore) (a : Addition) : store.Within (store.add a) where
  types k entry h_get := by rw [get?_types_add, h_get, Option.some_or]
  libraryTypes k h_mem := contains_libraryTypes_add.2 (.inl h_mem)

theorem within_foldl_add (additions : List Addition) (store : SymbolStore) :
    store.Within (additions.foldl add store) := by
  induction additions generalizing store with
  | nil => exact .refl store
  | cons a rest ih => exact (store.within_add a).trans (ih (store.add a))

theorem within_ofAdditions_append (additions later : List Addition) :
    (ofAdditions additions).Within (ofAdditions (additions ++ later)) := by
  rw [ofAdditions, ofAdditions, List.foldl_append]
  exact within_foldl_add later _

end SymbolStore

/-! ## Archives and libraries -/

namespace Disk

variable {d : Disk} {store : SymbolStore} {path : String}

/-- An archive brings the names in it that were no library types before, each once. -/
theorem addArchive_eq_of_ok {entries : List String} (h : d.archiveEntries path = .ok entries) :
    (d.addArchive store path).2 = .ok ((entries.filterMap classEntryName?).dedup.filter fun name =>
      !store.libraryTypes.contains name).length := by
  have h_load : d.loadArchive store path = .ok (store.addArchive entries) := by
    rw [loadArchive, h]
    rfl
  have h_size : (store.addArchive entries).libraryTypes.size = _ :=
    KeyMap.size_eq_add fun k => SymbolStore.contains_addLibraryTypes
  delta addArchive
  simp only [h_load, h_size, Nat.add_sub_cancel_left]

theorem addArchive_eq_of_error {e : LibraryError} (h : (d.addArchive store path).2 = .error e) :
    (d.addArchive store path).1 = store := by
  delta addArchive at h ⊢
  cases h_load : d.loadArchive store path with
  | ok grown => simp [h_load] at h
  | error e' => rfl

/-- The steps in which a library is added: the units of a folder, or one archive. -/
def libraryAdditions (d : Disk) (options : ScanOptions) (path : String) : List Addition :=
  if d.isFolder path then (d.loadFiles (d.scan options path)).units.map .unit else [.archive d path]

theorem storeWith_eq_foldl_add (d : Disk) (options : ScanOptions) (store : SymbolStore)
    (path : String) :
    d.storeWith options store path = (d.libraryAdditions options path).foldl SymbolStore.add store := by
  rw [storeWith, libraryAdditions]
  split
  · rw [List.foldl_map]
    rfl
  · rw [List.foldl_cons, List.foldl_nil, SymbolStore.add]
    delta addArchive
    rw [loadArchive]
    cases d.archiveEntries path <;> rfl

/-- The units of a project are added before all libraries. -/
theorem projectStore_eq_ofAdditions (d : Disk) (root : String) (settings : Settings) :
    d.projectStore root settings = .ofAdditions ((d.projectUnits root settings).map .unit ++
      settings.libraryPaths.flatMap fun library =>
        d.libraryAdditions settings.scanOptions (d.libraryPath root library)) := by
  rw [SymbolStore.ofAdditions, List.foldl_append, List.foldl_map, List.foldl_flatMap, projectStore,
    List.foldl_map]
  simp only [storeWith_eq_foldl_add]
  rfl

end Disk

/-- After any steps, each entry has the name that it is stored under, the entry of a name is the first
declaration of the name's base, and it stays whatever is added later, as does all that is known. Names
are counted once. An archive brings as many names as are new, or changes nothing if it fails. In an analysis
the units of the project come before the libraries. -/
theorem first_declarations_stay (additions : List Addition) :
    (∀ k entry, (SymbolStore.ofAdditions additions).types.get? k = some entry →
      entry.name = k ∧ (k = entry.package ++ "." ++ entry.type ∨
        entry.package = TypeName.defaultPackage ∧ k = entry.type)) ∧
    (∀ name, SymbolStore.typeEntry? (.ofAdditions additions) name =
      (additions.flatMap Addition.types).lookup (TypeName.base name)) ∧
    (∀ later name entry, SymbolStore.typeEntry? (.ofAdditions additions) name = some entry →
      SymbolStore.typeEntry? (.ofAdditions (additions ++ later)) name = some entry) ∧
    (∀ later name, (SymbolStore.ofAdditions additions).isKnown name = true →
      (SymbolStore.ofAdditions (additions ++ later)).isKnown name = true) ∧
    (SymbolStore.ofAdditions additions).types.size =
      ((additions.flatMap Addition.types).map Prod.fst).dedup.length ∧
    (SymbolStore.ofAdditions additions).libraryTypes.size =
      (additions.flatMap Addition.libraryNames).dedup.length ∧
    (∀ (d : Disk) path entries, d.archiveEntries path = .ok entries →
      (d.addArchive (SymbolStore.ofAdditions additions) path).2 =
        .ok ((entries.filterMap classEntryName?).dedup.filter fun name =>
          !(SymbolStore.ofAdditions additions).libraryTypes.contains name).length) ∧
    (∀ (d : Disk) path e, (d.addArchive (SymbolStore.ofAdditions additions) path).2 = .error e →
      (d.addArchive (SymbolStore.ofAdditions additions) path).1 = SymbolStore.ofAdditions additions) ∧
    ∀ (d : Disk) root settings, (d.projectUnits root settings).map .unit = additions →
      ∃ libraries, d.projectStore root settings = SymbolStore.ofAdditions (additions ++ libraries) := by
  refine ⟨fun k entry h_get => ?_, fun name => ?_, fun later name entry h_entry => ?_,
    fun later name h_known => ?_, ?_, ?_, fun d path entries h_ok => ?_, fun d path e h_error => ?_,
    fun d root settings h_units => ?_⟩
  · rw [SymbolStore.get?_types_ofAdditions] at h_get
    obtain ⟨a, -, h_entry⟩ := List.mem_flatMap.1 (KeyMap.mem_of_lookup h_get)
    exact Addition.name_of_mem_types h_entry
  · exact SymbolStore.get?_types_ofAdditions additions _
  · exact (SymbolStore.within_ofAdditions_append additions later).types _ entry h_entry
  · exact (SymbolStore.within_ofAdditions_append additions later).isKnown h_known
  · exact KeyMap.size_eq_length_dedup fun k => SymbolStore.contains_types_ofAdditions
  · exact KeyMap.size_eq_length_dedup fun k => SymbolStore.contains_libraryTypes_ofAdditions
  · exact Disk.addArchive_eq_of_ok h_ok
  · exact Disk.addArchive_eq_of_error h_error
  · subst h_units
    exact ⟨_, d.projectStore_eq_ofAdditions root settings⟩

namespace Warehouse

def shelf (path : String) (superclass : Option String) : CompilationUnit :=
  ⟨path, "", some "shop", [], [⟨"Shelf", "Shelf", .classType, superclass, [], [], [], [], [], 1, 1⟩]⟩

/-- An archive with two versions of one class, a nested class and one without a name, and a file that is
no archive. -/
def disk : Disk where
  top := "/work"
  tree := .folder [
    ("lib.jar", .file ⟨80, none, some ["org/Box.class", "META-INF/versions/9/org/Box.class",
      "org/Box$Lid.class", "org/Box$1.class"]⟩),
    ("torn.jar", .file ⟨4, none, none⟩)]

def additions : List Addition :=
  [.unit (shelf "Shelf.java" (some "Rack")), .libraryType "org.Box", .archive disk "torn.jar"]

/-- A second declaration of the class, and the archive. -/
def later : List Addition := [.unit (shelf "lib/Shelf.java" none), .archive disk "lib.jar"]

end Warehouse

/-- The shelf stays a rack when a library declares another one, and the archive has one new name. -/
theorem warehouse_shelf_stays :
    (∃ entry, SymbolStore.typeEntry? (.ofAdditions Warehouse.additions) "shop.Shelf<?>" = some entry ∧
      entry.superclass = some "shop.Rack" ∧
      SymbolStore.typeEntry? (.ofAdditions (Warehouse.additions ++ Warehouse.later)) "shop.Shelf<?>" =
        some entry) ∧
    (SymbolStore.ofAdditions Warehouse.additions).isKnown "org.Box[]" = true ∧
    SymbolStore.isKnown (.ofAdditions (Warehouse.additions ++ Warehouse.later)) "org.Box[]" = true ∧
    (Warehouse.disk.addArchive (.ofAdditions Warehouse.additions) "lib.jar").2 = .ok 1 ∧
    (Warehouse.disk.addArchive (.ofAdditions Warehouse.additions) "torn.jar").1 =
      .ofAdditions Warehouse.additions := by
  have h_box : (SymbolStore.ofAdditions Warehouse.additions).isKnown "org.Box[]" = true := by
    decide +kernel
  obtain ⟨-, -, h_stays, h_known, -, -, h_new, h_failed, -⟩ :=
    first_declarations_stay Warehouse.additions
  refine ⟨?_, h_box, h_known Warehouse.later _ h_box, ?_, ?_⟩
  · have h_super : (SymbolStore.typeEntry? (.ofAdditions Warehouse.additions) "shop.Shelf<?>").map
        (·.superclass) = some (some "shop.Rack") := by decide +kernel
    obtain ⟨entry, h_entry, h_super⟩ := Option.map_eq_some_iff.1 h_super
    exact ⟨entry, h_entry, h_super, h_stays Warehouse.later _ entry h_entry⟩
  · have h_entries : Warehouse.disk.archiveEntries "lib.jar" = .ok _ := rfl
    rw [h_new Warehouse.disk "lib.jar" _ h_entries]
    decide +kernel
  · have h_error : (Warehouse.disk.addArchive (.ofAdditions Warehouse.additions) "torn.jar").2 =
        .error (.invalid "torn.jar") := by decide +kernel
    exact h_failed Warehouse.disk "torn.jar" _ h_error

/-- A comment in the name of the package hides the class: its own name does not lead to it. -/
theorem commented_package_hides_class :
    ∃ u, CompilationUnit.parse "A.java" "package a./*<*/b;class A\x7b\x7d" = .ok u ∧
      ((SymbolStore.declaredEntries u).lookup "a./*<*/b.A").isSome = true ∧
      (SymbolStore.typeEntry? (.ofAdditions [.unit u]) "a./*<*/b.A").isNone = true := by
  have h_test : (CompilationUnit.parse "A.java" "package a./*<*/b;class A\x7b\x7d").toOption.any (fun u =>
      ((SymbolStore.declaredEntries u).lookup "a./*<*/b.A").isSome &&
        (SymbolStore.typeEntry? (.ofAdditions [.unit u]) "a./*<*/b.A").isNone) = true := by
    decide +kernel
  obtain ⟨u, h_parse, h_all⟩ := exists_unit_of_test h_test
  exact ⟨u, h_parse, Bool.and_eq_true_iff.1 h_all⟩

end JavaCallGraph
