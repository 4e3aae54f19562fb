import JavaCallGraph.Project
import JavaCallGraph.Proofs.Deletion

/-!
# Broken files

A file that is no text, or whose text is not Java, costs an analysis this one file. It is counted and
reported, and everything else comes out as if the file were not there.

* `Disk.IsBroken`, `FileData.Broken` — files that give no unit.
* `Disk.perm_loadFiles` — every file gives a unit or one failure.
* `Disk.projectUnits`, `Disk.projectStore` — what an analysis reads from the disk.
* `Disk.AllBroken` — broken Java files that a disk has.
* `broken_files_isolated` — an analysis with and without them.
-/

namespace JavaCallGraph

open Java

/-! ## What files give -/

/-- The file at a path is no text, or its text is not Java. -/
def Disk.IsBroken (d : Disk) (path : String) : Prop :=
  d.readText path = .error .notText ∨
    ∃ source e, d.readText path = .ok source ∧ CompilationUnit.parse path source = .error e

/-- No text of the file is Java. -/
def FileData.Broken (data : FileData) : Prop :=
  ∀ source, data.text? = some source → (Tree.ofSource source).toOption = none

theorem toOption_parse (path source : String) :
    (CompilationUnit.parse path source).toOption =
      (Tree.ofSource source).toOption.map (Tree.toUnit path source) := by
  unfold CompilationUnit.parse
  generalize Tree.ofSource source = result
  cases result <;> rfl

namespace Disk

variable {d : Disk} {path : String}

/-- What a file gives is up to its text, not to the path that it is read at. -/
theorem toOption_loadUnit_of_find {data : FileData} (h_find : d.find path = .ok (.file data)) :
    (d.loadUnit path).toOption = data.text?.bind fun source =>
      (Tree.ofSource source).toOption.map (Tree.toUnit path source) := by
  unfold loadUnit
  rw [readText_eq h_find]
  cases data.text? with
  | none => rfl
  | some source =>
    rw [Option.bind_some, ← toOption_parse]
    dsimp only [Option.map_some, Option.getD_some]
    cases CompilationUnit.parse path source <;> rfl

theorem toOption_loadUnit_of_broken {data : FileData} (h_find : d.find path = .ok (.file data))
    (h_broken : data.Broken) : (d.loadUnit path).toOption = none := by
  rw [toOption_loadUnit_of_find h_find]
  cases h_text : data.text? with
  | none => rfl
  | some source => rw [Option.bind_some, h_broken source h_text, Option.map_none]

theorem broken_of_isBroken {data : FileData} (h_find : d.find path = .ok (.file data))
    (h : d.IsBroken path) : data.Broken := by
  intro source h_text
  have h_read := readText_eq h_find
  rw [h_text] at h_read
  rcases h with h_error | ⟨text, e, h_ok, h_parse⟩
  · rw [h_read] at h_error
    cases h_error
  · rw [h_read] at h_ok
    cases h_ok
    have h_none := toOption_parse path source
    rw [h_parse] at h_none
    exact Option.map_eq_none_iff.1 h_none.symm

theorem archiveEntries_eq_some_iff {entries : List String} :
    (d.archiveEntries path).toOption = some entries ↔
      ∃ data, d.find path = .ok (.file data) ∧ data.entries? = some entries := by
  unfold archiveEntries readFile
  cases d.find path with
  | error cause => cases cause <;> simp [bind, Except.bind, Except.toOption]
  | ok t =>
    cases t with
    | folder entries => simp [bind, Except.bind, throw, throwThe, MonadExceptOf.throw, Except.toOption]
    | file data =>
      simp only [bind, Except.bind, pure, Except.pure]
      cases h_entries : data.entries? <;> simp [Except.toOption, h_entries]

/-- A file gives a unit or one of the two failures, always with its own path. -/
theorem loadUnit_cases (d : Disk) (path : String) :
    (∃ u, d.loadUnit path = .ok u ∧ u.path = path) ∨
      (∃ cause, d.loadUnit path = .error (.unreadable path cause)) ∨
      ∃ line, d.loadUnit path = .error (.invalid ⟨path, line⟩) := by
  unfold loadUnit
  cases d.readText path with
  | error cause => exact .inr (.inl ⟨cause, rfl⟩)
  | ok source =>
    dsimp only
    unfold CompilationUnit.parse
    generalize Tree.ofSource source = result
    cases result with
    | ok t => exact .inl ⟨t.toUnit path source, rfl, rfl⟩
    | error line => exact .inr (.inr ⟨line, rfl⟩)

theorem units_loadFiles (d : Disk) (paths : List String) :
    (d.loadFiles paths).units = paths.filterMap fun path => (d.loadUnit path).toOption := by
  rw [loadFiles, List.filterMap_map]
  rfl

/-- Every file is in one of three groups: those that gave a unit, those that are not Java and those that
could not be read. -/
theorem perm_loadFiles (d : Disk) (paths : List String) :
    ((d.loadFiles paths).units.map (·.path) ++ ((d.loadFiles paths).parseFailures.map (·.path) ++
      (d.loadFiles paths).ioFailures.map (·.path))).Perm paths := by
  induction paths with
  | nil => exact .refl []
  | cons path paths ih =>
    simp only [loadFiles, List.map_cons, List.filterMap_cons] at ih ⊢
    rcases d.loadUnit_cases path with ⟨u, h, h_path⟩ | ⟨cause, h⟩ | ⟨line, h⟩
    · simp only [h, Except.toOption, List.map_cons, List.cons_append, h_path]
      exact ih.cons path
    · simp only [h, Except.toOption, List.filterMap_cons, LoadError.parseFailure?, LoadError.ioFailure?,
        List.map_cons]
      rw [← List.append_assoc]
      refine List.perm_middle.trans (.cons path ?_)
      rwa [List.append_assoc]
    · simp only [h, Except.toOption, List.filterMap_cons, LoadError.parseFailure?, LoadError.ioFailure?,
        List.map_cons, List.cons_append]
      exact List.perm_middle.trans (ih.cons path)

end Disk

/-! ## What an analysis reads -/

namespace Disk

def projectUnits (d : Disk) (root : String) (settings : Settings) : List CompilationUnit :=
  (d.loadFiles (d.scan settings.scanOptions root)).units

def storeWith (d : Disk) (options : ScanOptions) (store : SymbolStore) (path : String) : SymbolStore :=
  if d.isFolder path then (d.loadFiles (d.scan options path)).units.foldl SymbolStore.addUnit store
  else ((d.archiveEntries path).toOption.map store.addArchive).getD store

def projectStore (d : Disk) (root : String) (settings : Settings) : SymbolStore :=
  (settings.libraryPaths.map (d.libraryPath root)).foldl (d.storeWith settings.scanOptions)
    (.ofUnits (d.projectUnits root settings))

theorem store_addLibrary (d : Disk) (options : ScanOptions) (l : Libraries) (path : String) :
    (d.addLibrary options l path).store = d.storeWith options l.store path := by
  rw [addLibrary, storeWith]
  split
  · rfl
  · delta addArchive
    rw [loadArchive]
    cases d.archiveEntries path <;> rfl

theorem store_foldl_addLibrary (d : Disk) (options : ScanOptions) (paths : List String)
    (l : Libraries) :
    (paths.foldl (d.addLibrary options) l).store = paths.foldl (d.storeWith options) l.store := by
  induction paths generalizing l with
  | nil => rfl
  | cons path paths ih => rw [List.foldl_cons, List.foldl_cons, ih, store_addLibrary]

end Disk

/-- Two analyses find the same in the code; what they say about files may differ. -/
structure Analysis.SameFindings (a b : Analysis) : Prop where
  graph : a.graph = b.graph
  snippets : a.snippets = b.snippets
  endpoints : a.endpoints = b.endpoints
  tally : a.report.tally = b.report.tally

namespace Disk

/-- What an analysis finds in the code comes from the units of the project and its store. -/
theorem sameFindings_ofUnits (d : Disk) (root : String) (settings : Settings) :
    (d.analyzeFolder root settings).SameFindings
      (.ofUnits (d.projectStore root settings).solver settings.output (d.projectUnits root settings)) := by
  rw [analyzeFolder, store_foldl_addLibrary]
  exact ⟨rfl, rfl, rfl, rfl⟩

/-! ## Deleting broken files -/

/-- Broken Java files that a disk has. -/
structure AllBroken (d : Disk) (gone : List String → Bool) : Prop extends d.Deletable gone where
  broken : ∀ place data, gone place = true → d.tree.at? place = some (.file data) → data.Broken

namespace AllBroken

variable {d : Disk} {gone : List String → Bool} {root : String} (h_disk : d.WellFormed)
  (h_gone : d.AllBroken gone)

include h_disk h_gone

/-- Files that are left give what they gave, and deleted ones gave nothing. -/
theorem units_without (h_root : d.isFolder root = true) (options : ScanOptions) :
    ((d.without gone).loadFiles ((d.without gone).scan options root)).units =
      (d.loadFiles (d.scan options root)).units := by
  rw [units_loadFiles, units_loadFiles, h_gone.scan_without h_disk h_root, List.filterMap_filter]
  refine List.filterMap_congr fun path h_path => ?_
  obtain ⟨place, data, h_locate, h_at, h_find, -⟩ := exists_of_mem_scan h_disk h_root h_path
  have h_any : (d.locate path).toOption.any gone = gone place := by
    rw [h_locate]
    rfl
  rw [h_any]
  cases h_place : gone place with
  | true =>
    rw [toOption_loadUnit_of_broken h_find (h_gone.broken place data h_place h_at)]
    rfl
  | false =>
    have h_find' := (h_gone.find_without_iff h_disk).2 ⟨h_find, h_any.trans h_place⟩
    rw [toOption_loadUnit_of_find h_find, toOption_loadUnit_of_find h_find']
    rfl

theorem storeWith_without {path : String}
    (h_archive : d.isFile path = true → (d.locate path).toOption.any gone = false)
    (options : ScanOptions) (store : SymbolStore) :
    (d.without gone).storeWith options store path = d.storeWith options store path := by
  have h_entries : ((d.without gone).archiveEntries path).toOption =
      (d.archiveEntries path).toOption := by
    ext entries
    rw [archiveEntries_eq_some_iff, archiveEntries_eq_some_iff]
    refine exists_congr fun data => and_congr_left fun _ => ?_
    rw [h_gone.find_without_iff h_disk]
    exact and_iff_left_of_imp fun h_find => h_archive (isFile_iff.2 ⟨data, h_find⟩)
  rw [storeWith, storeWith, h_gone.isFolder_without h_disk, h_entries]
  split
  · rename_i h_folder
    rw [h_gone.units_without h_disk h_folder]
  · rfl

theorem projectStore_without (h_root : d.isFolder root = true) {settings : Settings}
    (h_archives : ∀ library ∈ settings.libraryPaths, d.isFile (d.libraryPath root library) = true →
      (d.locate (d.libraryPath root library)).toOption.any gone = false) :
    (d.without gone).projectStore root settings = d.projectStore root settings := by
  have h_units : (d.without gone).projectUnits root settings = d.projectUnits root settings :=
    h_gone.units_without h_disk h_root settings.scanOptions
  have h_paths : (d.without gone).libraryPath root = d.libraryPath root := rfl
  rw [projectStore, projectStore, h_units, h_paths]
  refine List.foldl_ext _ _ _ fun store path h_path => ?_
  obtain ⟨library, h_library, rfl⟩ := List.mem_map.1 h_path
  exact h_gone.storeWith_without h_disk (h_archives library h_library) settings.scanOptions store

theorem sameFindings_without (h_root : d.isFolder root = true) {settings : Settings}
    (h_archives : ∀ library ∈ settings.libraryPaths, d.isFile (d.libraryPath root library) = true →
      (d.locate (d.libraryPath root library)).toOption.any gone = false) :
    ((d.without gone).analyzeFolder root settings).SameFindings (d.analyzeFolder root settings) := by
  have h_old := d.sameFindings_ofUnits root settings
  have h_new := (d.without gone).sameFindings_ofUnits root settings
  have h_units : (d.without gone).projectUnits root settings = d.projectUnits root settings :=
    h_gone.units_without h_disk h_root settings.scanOptions
  rw [h_gone.projectStore_without h_disk h_root h_archives, h_units] at h_new
  exact ⟨h_new.graph.trans h_old.graph.symm, h_new.snippets.trans h_old.snippets.symm,
    h_new.endpoints.trans h_old.endpoints.symm, h_new.tally.trans h_old.tally.symm⟩

end AllBroken

def placesOf (d : Disk) (paths : List String) (place : List String) : Bool :=
  paths.any fun path => (d.locate path).toOption == some place

def withoutFiles (d : Disk) (paths : List String) : Disk := d.without (d.placesOf paths)

theorem placesOf_eq_true_iff {d : Disk} {paths place : List String} :
    d.placesOf paths place = true ↔ ∃ path ∈ paths, d.locate path = .ok place := by
  rw [placesOf, List.any_eq_true]
  refine exists_congr fun path => and_congr_right fun _ => ?_
  cases d.locate path <;> simp [Except.toOption]

theorem allBroken_placesOf {d : Disk} (h_disk : d.WellFormed) {root : String}
    (h_root : d.isFolder root = true) {options : ScanOptions} {paths : List String}
    (h_paths : ∀ path ∈ paths, path ∈ d.scan options root ∧ d.IsBroken path) :
    d.AllBroken (d.placesOf paths) := by
  have h_found : ∀ place, d.placesOf paths place = true →
      ∃ data, d.tree.at? place = some (.file data) ∧ data.Broken ∧
        (place.getLast?.any Path.isJava) = true := by
    intro place h_place
    obtain ⟨path, h_path, h_locate⟩ := placesOf_eq_true_iff.1 h_place
    obtain ⟨h_scan, h_broken⟩ := h_paths path h_path
    obtain ⟨place', data, h_locate', h_at, h_find, h_java⟩ := exists_of_mem_scan h_disk h_root h_scan
    cases h_locate.symm.trans h_locate'
    exact ⟨data, h_at, broken_of_isBroken h_find h_broken, h_java⟩
  refine ⟨⟨?_, ?_⟩, ?_⟩
  · intro place h_place
    obtain ⟨data, h_at, -⟩ := h_found place h_place
    exact ⟨data, h_at⟩
  · intro place h_place
    obtain ⟨-, -, -, h_java⟩ := h_found place h_place
    exact h_java
  · intro place data h_place h_at
    obtain ⟨data', h_at', h_broken, -⟩ := h_found place h_place
    cases h_at.symm.trans h_at'
    exact h_broken

/-- Exactly these files are not found any more. -/
theorem scan_withoutFiles {d : Disk} (h_disk : d.WellFormed) {root : String}
    (h_root : d.isFolder root = true) {options : ScanOptions} {paths : List String}
    (h_paths : ∀ path ∈ paths, path ∈ d.scan options root ∧ d.IsBroken path) :
    (d.withoutFiles paths).scan options root =
      (d.scan options root).filter fun path => !paths.contains path := by
  rw [withoutFiles, (allBroken_placesOf h_disk h_root h_paths).scan_without h_disk h_root]
  refine List.filter_congr fun path h_path => congrArg not ?_
  obtain ⟨place, -, h_locate, -⟩ := exists_of_mem_scan h_disk h_root h_path
  rw [h_locate, Bool.eq_iff_iff, List.contains_iff_mem]
  refine placesOf_eq_true_iff.trans ⟨?_, fun h_mem => ⟨path, h_mem, h_locate⟩⟩
  rintro ⟨other, h_other, h_same⟩
  have h_eq : other = path :=
    eq_of_locate_eq h_disk h_root (h_paths other h_other).1 h_path (h_same.trans h_locate.symm)
  rwa [← h_eq]

theorem analyze_eq_ok {d : Disk} {root : String} (h_root : d.isFolder root = true)
    {settings : Settings} (h_settings : settings.fault? = none) :
    d.analyze root settings = .ok (d.analyzeFolder root settings) := by
  delta analyze
  rw [h_root, h_settings]
  rfl

end Disk

/-- Every file that a scan finds is analyzed or reported once, as not Java or not readable. When some of
the broken files are deleted, none of them a library archive, a scan finds the others and an analysis finds
the same in the code. -/
theorem broken_files_isolated {d : Disk} (h_disk : d.WellFormed) {root : String}
    (h_root : d.isFolder root = true) {settings : Settings} (h_settings : settings.fault? = none) :
    ∃ a, d.analyze root settings = .ok a ∧
      a.report.filesScanned = (d.scan settings.scanOptions root).length ∧
      a.report.filesScanned =
        a.report.unitsAnalyzed + a.report.parseFailures.length + a.report.ioFailures.length ∧
      a.report.unitsAnalyzed = (d.projectUnits root settings).length ∧
      ((d.projectUnits root settings).map (·.path) ++ (a.report.parseFailures.map (·.path) ++
        a.report.ioFailures.map (·.path))).Perm (d.scan settings.scanOptions root) ∧
      (d.scan settings.scanOptions root).Nodup ∧
      ∀ broken : List String,
        (∀ path ∈ broken, path ∈ d.scan settings.scanOptions root ∧ d.IsBroken path ∧
          ∀ library ∈ settings.libraryPaths, d.isFile (d.libraryPath root library) = true →
            d.locate (d.libraryPath root library) ≠ d.locate path) →
        (d.withoutFiles broken).scan settings.scanOptions root =
          (d.scan settings.scanOptions root).filter (fun path => !broken.contains path) ∧
        ∃ b, (d.withoutFiles broken).analyze root settings = .ok b ∧ b.SameFindings a := by
  have h_perm := d.perm_loadFiles (d.scan settings.scanOptions root)
  refine ⟨_, Disk.analyze_eq_ok h_root h_settings, rfl, ?_, rfl, h_perm,
    Disk.nodup_scan h_disk h_root, fun broken h_broken => ?_⟩
  · have h_length := h_perm.length_eq
    simp only [List.length_append, List.length_map] at h_length
    rw [Nat.add_assoc]
    exact h_length.symm
  · have h_found : ∀ path ∈ broken, path ∈ d.scan settings.scanOptions root ∧ d.IsBroken path :=
      fun path h_path => ⟨(h_broken path h_path).1, (h_broken path h_path).2.1⟩
    have h_gone : d.AllBroken (d.placesOf broken) := Disk.allBroken_placesOf h_disk h_root h_found
    have h_root' : (d.withoutFiles broken).isFolder root = true :=
      (h_gone.isFolder_without h_disk root).trans h_root
    refine ⟨Disk.scan_withoutFiles h_disk h_root h_found, _, Disk.analyze_eq_ok h_root' h_settings,
      h_gone.sameFindings_without h_disk h_root ?_⟩
    intro library h_library h_file
    -- a library archive is none of the deleted files
    cases h_locate : d.locate (d.libraryPath root library) with
    | error cause => rfl
    | ok place =>
      refine Bool.eq_false_iff.2 fun h_place => ?_
      obtain ⟨path, h_path, h_same⟩ := Disk.placesOf_eq_true_iff.1 h_place
      exact (h_broken path h_path).2.2 library h_library h_file (h_locate.trans h_same.symm)

namespace Shop

/-- A class whose method has no closing parenthesis. -/
def cart : String := "class Cart \x7b void add( \x7b \x7d\n"

/-- A file of Java, one that is not, one that is no text, and an archive. -/
def disk : Disk where
  top := "/shop"
  tree := .folder [
    ("src", .folder [
      ("Cart.java", .file (.ofText cart)),
      ("Order.java", .file (.ofText "class Order { void pay() { total(); } int total() { return 1; } }\n")),
      ("Stock.java", .file ⟨4, none, none⟩)]),
    ("money.jar", .file ⟨120, none, some ["money/Price.class"]⟩)]

/-- The sources are a library too, so each broken file is read twice. -/
def settings : Settings := { libraryPaths := ["money.jar", "src"] }

def broken : List String := ["/shop/src/Cart.java", "/shop/src/Stock.java"]

theorem wellFormed_disk : disk.WellFormed where
  top := .inl (by decide +kernel)
  tree := by
    refine ⟨by decide +kernel, by decide +kernel, ⟨by decide +kernel, ?_⟩, by decide +kernel,
      trivial, trivial⟩
    exact ⟨by decide +kernel, trivial, by decide +kernel, trivial, by decide +kernel, trivial, trivial⟩

theorem mem_scan_of_mem_broken {path : String} (h : path ∈ broken) :
    path ∈ disk.scan settings.scanOptions "/shop" := by
  have h_top : disk.locate "/shop" = .ok [] := rfl
  -- sorting is left aside, which closed terms do not compute
  have h_walk : ∀ path ∈ broken,
      path ∈ (settings.scanOptions.walk (settings.scanOptions.rulesAbove disk.tree []) []
        ((Path.fileName? "/shop").getD "") disk.tree).map (Disk.pathBelow "/shop" []) := by
    decide +kernel
  exact (Disk.mem_scan_iff h_top rfl).2 (List.mem_map.1 (h_walk path h))

theorem isBroken_of_mem_broken {path : String} (h : path ∈ broken) : disk.IsBroken path := by
  rcases List.mem_cons.1 h with rfl | h
  · have h_none : (CompilationUnit.parse "/shop/src/Cart.java" cart).toOption.isNone = true := by
      decide +kernel
    cases h_parse : CompilationUnit.parse "/shop/src/Cart.java" cart with
    | ok u =>
      rw [h_parse] at h_none
      cases h_none
    | error e => exact .inr ⟨cart, e, rfl, h_parse⟩
  · cases List.mem_singleton.1 h
    exact .inl rfl

end Shop

/-- The cart and the stock are found and broken, and without them the same is found in the rest. -/
theorem shop_broken_files_isolated :
    (∀ path ∈ Shop.broken, path ∈ Shop.disk.scan Shop.settings.scanOptions "/shop" ∧
      Shop.disk.IsBroken path) ∧
    ∃ a b, Shop.disk.analyze "/shop" Shop.settings = .ok a ∧
      a.report.filesScanned =
        a.report.unitsAnalyzed + a.report.parseFailures.length + a.report.ioFailures.length ∧
      (Shop.disk.withoutFiles Shop.broken).scan Shop.settings.scanOptions "/shop" =
        (Shop.disk.scan Shop.settings.scanOptions "/shop").filter
          (fun path => !Shop.broken.contains path) ∧
      (Shop.disk.withoutFiles Shop.broken).analyze "/shop" Shop.settings = .ok b ∧
      b.SameFindings a := by
  have h_broken : ∀ path ∈ Shop.broken,
      path ∈ Shop.disk.scan Shop.settings.scanOptions "/shop" ∧ Shop.disk.IsBroken path :=
    fun path h => ⟨Shop.mem_scan_of_mem_broken h, Shop.isBroken_of_mem_broken h⟩
  obtain ⟨a, h_a, -, h_count, -, -, -, h_rest⟩ := broken_files_isolated Shop.wellFormed_disk
    (show Shop.disk.isFolder "/shop" = true by decide +kernel)
    (show Shop.settings.fault? = none by decide +kernel)
  have h_archives : ∀ path ∈ Shop.broken, ∀ library ∈ Shop.settings.libraryPaths,
      Shop.disk.isFile (Shop.disk.libraryPath "/shop" library) = true →
        Shop.disk.locate (Shop.disk.libraryPath "/shop" library) ≠ Shop.disk.locate path := by
    decide +kernel
  obtain ⟨h_scan, b, h_b, h_same⟩ := h_rest Shop.broken fun path h =>
    ⟨(h_broken path h).1, (h_broken path h).2, h_archives path h⟩
  exact ⟨h_broken, a, b, h_a, h_count, h_scan, h_b, h_same⟩

end JavaCallGraph
