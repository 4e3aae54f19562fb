import JavaCallGraph.Proofs.Scan

/-!
# A scan as a filtered listing

Where no ignore file has a say, the walk that leaves out folders with everything below them finds what a
test of every single file finds: each name of its path from the start on must pass. The walk is compared
with the listing of the tree, and the paths come out in the order of their names.

* `FileTree.mem_files_iff` — what the listing of a tree holds.
* `Disk.FreeOfRules` — no ignore file has a say at a place.
* `ScanOptions.walk_eq_listing` — the walk and the listing.
* `ScanOptions.Wants` — the files that are asked for.
* `scan_eq_filtered_listing` — what a scan finds.
-/

namespace JavaCallGraph

/-! ## Listings -/

namespace FileTree

theorem mem_filesOf_iff {entries : List (String × FileTree)} {file : List String × FileData} :
    file ∈ filesOf entries ↔ ∃ e ∈ entries, ∃ below ∈ e.2.files, file = (e.1 :: below.1, below.2) := by
  induction entries with
  | nil => simp [filesOf]
  | cons e entries ih =>
    rw [filesOf, List.mem_append, ih, List.mem_map]
    simp only [List.mem_cons, exists_eq_or_imp, eq_comm (a := file)]

theorem mem_files_of_at? {t : FileTree} {names : List String} {data : FileData}
    (h : t.at? names = some (.file data)) : (names, data) ∈ t.files := by
  induction names generalizing t with
  | nil =>
    cases h
    simp [files]
  | cons name names ih =>
    cases t with
    | file other => cases h
    | folder entries =>
      obtain ⟨child, h_child, h_below⟩ := Option.bind_eq_some_iff.1 h
      rw [files, mem_filesOf_iff]
      exact ⟨(name, child), KeyMap.mem_of_lookup h_child, (names, data), ih h_below, rfl⟩

/-- The listing of a tree holds the files that its paths lead to. -/
theorem mem_files_iff {t : FileTree} (h_named : t.WellNamed) {names : List String} {data : FileData} :
    (names, data) ∈ t.files ↔ t.at? names = some (.file data) := by
  refine ⟨fun h => ?_, mem_files_of_at?⟩
  induction names generalizing t with
  | nil =>
    cases t with
    | file other =>
      simp only [files, List.mem_singleton, Prod.mk.injEq, true_and] at h
      rw [h]
      rfl
    | folder entries =>
      rw [files, mem_filesOf_iff] at h
      obtain ⟨e, -, below, -, h_eq⟩ := h
      cases h_eq
  | cons name names ih =>
    cases t with
    | file other => simp [files] at h
    | folder entries =>
      rw [files, mem_filesOf_iff] at h
      obtain ⟨e, h_e, below, h_below, h_eq⟩ := h
      cases h_eq
      rw [at?_folder_cons, KeyMap.lookup_of_mem h_named.1 h_e]
      exact ih (h_named.2.of_mem h_e).2 h_below

end FileTree

/-! ## Places without ignore files -/

/-- The files whose rules hold in their folder and below it. -/
def FolderRules.sources : List (List String) := [[".ignore"], [".gitignore"], [".git", "info", "exclude"]]

/-- No ignore file stands in a folder above a place, at it or below it. -/
def Disk.FreeOfRules (d : Disk) (place : List String) : Prop :=
  ∀ folder, folder <+: place ∨ place <+: folder → ∀ source ∈ FolderRules.sources, ∀ data,
    d.tree.at? (folder ++ source) ≠ some (.file data)

namespace FolderRules

/-- None of the files of a listing holds rules. -/
def NoneAmong (files : List (List String × FileData)) : Prop :=
  ∀ file ∈ files, ∀ source ∈ sources, ¬ source <:+ file.1

/-- The folder has no rules. -/
def Silent (rules : FolderRules) : Prop := rules.ignore = [] ∧ rules.gitignore = [] ∧ rules.exclude = []

theorem rulesAt_eq_nil {t : FileTree} {names : List String}
    (h : ∀ data, t.at? names ≠ some (.file data)) : rulesAt t names = [] := by
  unfold rulesAt
  split
  · rename_i data h_at
    exact absurd h_at (h data)
  · rfl

theorem silent_ofFolder {t : FileTree} (h : ∀ source ∈ sources, ∀ data, t.at? source ≠ some (.file data))
    (options : ScanOptions) (depth : Nat) : (ofFolder options depth t).Silent := by
  have h_ignore : rulesAt t [".ignore"] = [] := rulesAt_eq_nil (h _ (by decide))
  have h_gitignore : rulesAt t [".gitignore"] = [] := rulesAt_eq_nil (h _ (by decide))
  have h_exclude : rulesAt t [".git", "info", "exclude"] = [] := rulesAt_eq_nil (h _ (by decide))
  simp [Silent, ofFolder, h_ignore, h_gitignore, h_exclude]

theorem verdictBy_eq_none {rules : FolderRules → IgnoreRules} {chain : List FolderRules}
    (h : ∀ folder ∈ chain, rules folder = []) (path : List String) (isFolder : Bool) :
    verdictBy rules chain path isFolder = none := by
  rw [verdictBy, List.findSome?_eq_none_iff]
  intro folder h_folder
  rw [h folder h_folder]
  rfl

theorem verdict_eq_none {chain : List FolderRules} (h : ∀ folder ∈ chain, folder.Silent)
    (path : List String) (isFolder : Bool) : verdict chain path isFolder = none := by
  rw [verdict, verdictBy_eq_none fun folder h_folder => (h folder h_folder).1,
    verdictBy_eq_none fun folder h_folder => (h folder h_folder).2.1,
    verdictBy_eq_none fun folder h_folder => (h folder h_folder).2.2]
  rfl

end FolderRules

/-! ## The walk -/

namespace ScanOptions

variable (options : ScanOptions)

/-- Is a name left out where no ignore file has a say? -/
def leavesOut (name : String) : Bool :=
  (!options.includeHidden && Text.startsWith "." name) || options.ignoresName name

/-- Is a file found by its names below a start called `name`? -/
def lists (name : String) (file : List String × FileData) : Bool :=
  file.1.all (fun step => !options.leavesOut step) && options.selects (file.1.getLastD name) file.2

theorem skips_eq {chain : List FolderRules} (h : ∀ folder ∈ chain, folder.Silent) (path : List String)
    (name : String) (isFolder : Bool) : options.skips chain path name isFolder = options.leavesOut name := by
  rw [skips, FolderRules.verdict_eq_none h, leavesOut]

theorem lists_cons (name step : String) (names : List String) (data : FileData) :
    options.lists name (step :: names, data) =
      (!options.leavesOut step && options.lists step (names, data)) := by
  rw [lists, lists, List.all_cons, List.getLastD_cons, Bool.and_assoc]

theorem filter_lists_map_cons (name step : String) (files : List (List String × FileData)) :
    (files.map fun file => (step :: file.1, file.2)).filter (options.lists name) =
      if options.leavesOut step then []
      else (files.filter (options.lists step)).map fun file => (step :: file.1, file.2) := by
  rw [List.filter_map]
  cases h_step : options.leavesOut step with
  | true => simp [Function.comp_def, lists_cons, h_step]
  | false => simp [Function.comp_def, lists_cons, h_step]

mutual

/-- Without rules the walk finds the files of the listing whose names are all kept. -/
theorem walk_eq_listing {chain : List FolderRules} (h_chain : ∀ folder ∈ chain, folder.Silent)
    (path : List String) (name : String) : ∀ {t : FileTree}, FolderRules.NoneAmong t.files →
      options.walk chain path name t = (t.files.filter (options.lists name)).map (path ++ ·.1)
  | .file data, _ => by
    rw [walk, FileTree.files]
    cases h : options.selects name data <;> simp [lists, h]
  | .folder entries, h_free => by
    have h_own : (FolderRules.ofFolder options path.length (.folder entries)).Silent := by
      refine FolderRules.silent_ofFolder (fun source h_source data h_at => ?_) options path.length
      exact h_free _ (FileTree.mem_files_of_at? h_at) source h_source (List.suffix_refl _)
    rw [walk, FileTree.files]
    exact walkEntries_eq_listing (List.forall_mem_cons.2 ⟨h_own, h_chain⟩) path name h_free

theorem walkEntries_eq_listing {chain : List FolderRules} (h_chain : ∀ folder ∈ chain, folder.Silent)
    (path : List String) (name : String) : ∀ {entries : List (String × FileTree)},
    FolderRules.NoneAmong (FileTree.filesOf entries) →
      options.walkEntries chain path entries =
        ((FileTree.filesOf entries).filter (options.lists name)).map (path ++ ·.1)
  | [], _ => by
    rw [walkEntries, FileTree.filesOf]
    rfl
  | (step, t) :: entries, h_free => by
    rw [FileTree.filesOf] at h_free
    have h_tree : FolderRules.NoneAmong t.files := by
      intro file h_file source h_source h_suffix
      refine h_free (step :: file.1, file.2) ?_ source h_source (h_suffix.trans (List.suffix_cons _ _))
      exact List.mem_append_left _ (List.mem_map.2 ⟨file, h_file, rfl⟩)
    have h_rest : FolderRules.NoneAmong (FileTree.filesOf entries) := fun file h_file =>
      h_free file (List.mem_append_right _ h_file)
    rw [walkEntries, FileTree.filesOf, List.filter_append, List.map_append,
      walkEntries_eq_listing h_chain path name h_rest, options.skips_eq h_chain,
      walk_eq_listing h_chain (path ++ [step]) step h_tree]
    congr 1
    -- where the entry is left out, no file below it passes the test of its names
    refine Eq.trans ?_ (congrArg (List.map _) (options.filter_lists_map_cons name step t.files).symm)
    split
    · rfl
    · simp [Function.comp_def]

end

end ScanOptions

/-! ## The files that are asked for -/

namespace Path

/-- A file of Java: a name, a dot and the ending, in upper or lower case. -/
def EndsInJava (name : String) : Prop :=
  ∃ stem ending, name = stem ++ "." ++ ending ∧ stem ≠ "" ∧ ending.toLower = "java"

theorem toList_toLower (s : String) : s.toLower.toList = s.toList.map Char.toLower := by
  change (s.map Char.toLower).toList = s.toList.map Char.toLower
  rw [String.toList_map]

theorem isJava_iff {name : String} (h : IsFileName name) : isJava name = true ↔ EndsInJava name := by
  have h_name : fileName? name = some name := by
    rw [fileName?, names_of_isFileName h, List.getLast?_singleton, Option.filter_some,
      if_pos (by simpa using h.2.2.1)]
  have h_extension : extension? name = (Text.cutLast '.' name).bind fun cut =>
      if cut.1.isEmpty then none else some cut.2 := by
    rw [extension?, h_name]
    rfl
  rw [isJava, hasExtension, h_extension, Option.any_eq_true]
  constructor
  · rintro ⟨ending, h_ending, h_java⟩
    obtain ⟨⟨stem, after⟩, h_cut, h_some⟩ := Option.bind_eq_some_iff.1 h_ending
    dsimp only at h_some
    split at h_some
    · cases h_some
    · rename_i h_stem
      cases h_some
      refine ⟨stem, ending, String.toList_injective ?_, by simpa using h_stem, by simpa using h_java⟩
      simpa using Text.cutLast_eq_some h_cut
  · rintro ⟨stem, ending, rfl, h_stem, h_java⟩
    -- the dot before the ending is the last one
    have h_dot : '.' ∉ ending.toList := by
      intro h_mem
      have h_lower : Char.toLower '.' ∈ ending.toLower.toList := by
        rw [toList_toLower]
        exact List.mem_map_of_mem h_mem
      rw [h_java] at h_lower
      exact absurd h_lower (by decide)
    have h_cut : Text.cutLast '.' (stem ++ "." ++ ending) = some (stem, ending) :=
      Text.cutLast_append_cons (by simp) h_dot
    exact ⟨ending, by simp [h_cut, h_stem], by simp [h_java]⟩

theorem le_append_left (front a b : List String) : le (front ++ a) (front ++ b) = le a b := by
  induction front with
  | nil => rfl
  | cons name front ih =>
    rw [← ih]
    simp [le]

theorem names_foldl_join {names : List String} (h : ∀ name ∈ names, IsFileName name) (base : String) :
    Path.names (names.foldl join base) = Path.names base ++ names := by
  induction names generalizing base with
  | nil => simp
  | cons name names ih =>
    obtain ⟨h_name, h_names⟩ := List.forall_mem_cons.1 h
    rw [List.foldl_cons, ih h_names, names_of_goesOn h_name (goesOn_join h_name base),
      List.append_assoc, List.singleton_append]

end Path

/-- A file that is asked for, by its names from the start of the scan and what it holds. -/
structure ScanOptions.Wants (options : ScanOptions) (names : List String) (data : FileData) : Prop where
  java : ∃ name ∈ names.getLast?, Path.EndsInJava name
  size_le : data.size ≤ options.maxFileSize
  not_ignored : ∀ name ∈ names, ∀ ignored ∈ options.ignoredNames,
    Text.lowercase name ≠ Text.lowercase ignored
  not_hidden : options.includeHidden = false → ∀ name ∈ names, name.toList.head? ≠ some '.'

namespace ScanOptions

theorem leavesOut_eq_false_iff {options : ScanOptions} {name : String} :
    options.leavesOut name = false ↔
      (options.includeHidden = false → name.toList.head? ≠ some '.') ∧
        ∀ ignored ∈ options.ignoredNames, Text.lowercase name ≠ Text.lowercase ignored := by
  have h_hidden : Text.startsWith "." name = false ↔ name.toList.head? ≠ some '.' := by
    rw [Bool.eq_false_iff, Ne, Ne, Text.startsWith_iff]
    cases name.toList <;> simp [eq_comm]
  have h_ignored : options.ignoresName name = false ↔
      ∀ ignored ∈ options.ignoredNames, Text.lowercase name ≠ Text.lowercase ignored := by
    simp [ignoresName, eq_comm]
  rw [leavesOut, Bool.or_eq_false_iff, h_ignored, Bool.and_eq_false_imp, Bool.not_eq_true', h_hidden]

theorem lists_iff {options : ScanOptions} {name : String} {names : List String} {data : FileData}
    (h_ne : names ≠ []) (h_names : ∀ step ∈ names, Path.IsFileName step) :
    options.lists name (names, data) = true ↔ options.Wants names data := by
  obtain ⟨init, last, rfl⟩ : ∃ init last, names = init ++ [last] := by
    simpa using List.eq_nil_or_concat names |>.resolve_left h_ne
  have h_last : Path.isJava last = true ↔ Path.EndsInJava last :=
    Path.isJava_iff (h_names last (by simp))
  rw [lists, selects, Bool.and_eq_true, Bool.and_eq_true, List.all_eq_true, decide_eq_true_iff]
  simp only [Bool.not_eq_true', leavesOut_eq_false_iff, List.getLastD_concat, h_last]
  constructor
  · rintro ⟨h_steps, h_java, h_size⟩
    exact ⟨⟨last, by simp, h_java⟩, h_size, fun step h_step => (h_steps step h_step).2,
      fun h_hidden step h_step => (h_steps step h_step).1 h_hidden⟩
  · rintro ⟨⟨name', h_name', h_java⟩, h_size, h_ignored, h_hidden⟩
    rw [List.getLast?_concat, Option.mem_some_iff] at h_name'
    exact ⟨fun step h_step => ⟨fun h => h_hidden h step h_step, h_ignored step h_step⟩,
      h_name' ▸ h_java, h_size⟩

end ScanOptions

/-! ## The paths of a scan -/

namespace Disk

variable {d : Disk} {place : List String}

theorem FreeOfRules.silent_rulesAbove (h : d.FreeOfRules place) (options : ScanOptions) :
    ∀ folder ∈ options.rulesAbove d.tree place, folder.Silent := by
  intro folder h_folder
  rw [ScanOptions.rulesAbove, List.mem_reverse, List.mem_map] at h_folder
  obtain ⟨depth, -, rfl⟩ := h_folder
  refine FolderRules.silent_ofFolder (fun source h_source data h_at => ?_) options depth
  have h_above := h (place.take depth) (.inl (List.take_prefix _ _)) source h_source data
  rw [FileTree.at?_append] at h_above
  -- above the place there are folders only, but this needs no proof: nothing has no ignore files
  cases h_tree : d.tree.at? (place.take depth) with
  | some t =>
    rw [h_tree] at h_at h_above
    exact h_above h_at
  | none =>
    rw [h_tree] at h_at
    cases source with
    | nil => exact absurd h_source (by decide)
    | cons name names => cases h_at

theorem FreeOfRules.noneAmong_files {t : FileTree} (h : d.FreeOfRules place) (h_named : t.WellNamed)
    (h_at : d.tree.at? place = some t) : FolderRules.NoneAmong t.files := by
  rintro ⟨names, data⟩ h_file source h_source ⟨folder, rfl⟩
  refine h (place ++ folder) (.inr (List.prefix_append _ _)) source h_source data ?_
  rw [List.append_assoc, FileTree.at?_append, h_at]
  exact (FileTree.mem_files_iff h_named).1 h_file

/-- Where no rules hold, a scan finds the files of the listing that are asked for. -/
theorem FreeOfRules.mem_foundBelow_iff (h : d.FreeOfRules place) {t : FileTree} (h_named : t.WellNamed)
    (h_folder : t.isFolder = true) (h_at : d.tree.at? place = some t) {options : ScanOptions}
    {root : String} {file : List String} :
    file ∈ d.foundBelow options root place t ↔ ∃ names data,
      t.at? names = some (.file data) ∧ options.Wants names data ∧ file = place ++ names := by
  have h_wants : ∀ {names : List String} {data : FileData} {name : String},
      t.at? names = some (.file data) →
        (options.lists name (names, data) = true ↔ options.Wants names data) := by
    intro names data name h_file
    refine ScanOptions.lists_iff ?_ (h_named.of_at? h_file).2
    -- a folder stands at the start itself
    rintro rfl
    cases h_file
    cases h_folder
  rw [foundBelow, List.mem_mergeSort, options.walk_eq_listing (h.silent_rulesAbove options) place _
    (h.noneAmong_files h_named h_at), List.mem_map]
  constructor
  · rintro ⟨⟨names, data⟩, h_file, rfl⟩
    obtain ⟨h_file, h_lists⟩ := List.mem_filter.1 h_file
    have h_names := (FileTree.mem_files_iff h_named).1 h_file
    exact ⟨names, data, h_names, (h_wants h_names).1 h_lists, rfl⟩
  · rintro ⟨names, data, h_names, h_file, rfl⟩
    exact ⟨(names, data), List.mem_filter.2 ⟨FileTree.mem_files_of_at? h_names,
      (h_wants h_names).2 h_file⟩, rfl⟩

theorem pathBelow_append (root : String) (place names : List String) :
    pathBelow root place (place ++ names) = names.foldl Path.join root := by
  rw [pathBelow, List.drop_left]

end Disk

/-- What a scan finds in a folder for which there are no ignore files: no path twice, in the order of their
names, and exactly those of the files below the folder that are asked for. -/
theorem scan_eq_filtered_listing {d : Disk} {root : String} {place : List String}
    {entries : List (String × FileTree)} (h_disk : d.WellFormed) (h_root : d.locate root = .ok place)
    (h_at : d.tree.at? place = some (.folder entries)) (h_free : d.FreeOfRules place)
    (options : ScanOptions) :
    (d.scan options root).Nodup ∧
    (d.scan options root).Pairwise (fun path other => Path.le (Path.names path) (Path.names other) = true) ∧
    ∀ path, path ∈ d.scan options root ↔ ∃ names data,
      (FileTree.folder entries).at? names = some (.file data) ∧ options.Wants names data ∧
        path = names.foldl Path.join root := by
  have h_named : (FileTree.folder entries).WellNamed := (h_disk.tree.of_at? h_at).1
  have h_found : ∀ file, file ∈ d.foundBelow options root place (.folder entries) ↔ ∃ names data,
      (FileTree.folder entries).at? names = some (.file data) ∧ options.Wants names data ∧
        file = place ++ names := fun _ => h_free.mem_foundBelow_iff h_named rfl h_at
  refine ⟨Disk.nodup_scan h_disk (Disk.isFolder_iff.2 ⟨place, entries, h_root, h_at⟩), ?_, fun path => ?_⟩
  · rw [Disk.scan_eq h_root h_at, List.pairwise_map]
    refine (Path.pairwise_mergeSort_le _).imp_of_mem fun {file other} h_file h_other h_le => ?_
    obtain ⟨names, data, h_names, -, rfl⟩ := (h_found file).1 h_file
    obtain ⟨names', data', h_names', -, rfl⟩ := (h_found other).1 h_other
    -- both paths go on from the start, whose names do not matter for the order
    rw [Disk.pathBelow_append, Disk.pathBelow_append,
      Path.names_foldl_join (h_named.of_at? h_names).2, Path.names_foldl_join (h_named.of_at? h_names').2,
      Path.le_append_left]
    rwa [Path.le_append_left] at h_le
  · rw [Disk.scan_eq h_root h_at, List.mem_map]
    constructor
    · rintro ⟨file, h_file, rfl⟩
      obtain ⟨names, data, h_names, h_wants, rfl⟩ := (h_found file).1 h_file
      exact ⟨names, data, h_names, h_wants, Disk.pathBelow_append root place names⟩
    · rintro ⟨names, data, h_names, h_wants, rfl⟩
      exact ⟨place ++ names, (h_found _).2 ⟨names, data, h_names, h_wants, rfl⟩,
        Disk.pathBelow_append root place names⟩

namespace Yard

/-- A project below a hidden name that is also an ignored one. -/
def disk : Disk where
  top := "/yard"
  tree := .folder [(".Build", .folder [
    ("src", .folder [
      ("Crane.JAVA", .file (.ofText "class Crane { }\n")),
      (".Draft.java", .file (.ofText "class Draft { }\n"))]),
    ("BUILD", .folder [("Made.java", .file (.ofText "class Made { }\n"))])])]

def options : ScanOptions where
  maxFileSize := 16
  ignoredNames := ["build", ".build"]
  respectGitignore := true
  includeHidden := false

theorem wellFormed_disk : disk.WellFormed where
  top := .inl (by decide +kernel)
  tree := by
    refine ⟨by decide +kernel, by decide +kernel, ?_, trivial⟩
    refine ⟨by decide +kernel, by decide +kernel, ⟨by decide +kernel, ?_⟩, by decide +kernel, ?_, trivial⟩
    · exact ⟨by decide +kernel, trivial, by decide +kernel, trivial, trivial⟩
    · exact ⟨by decide +kernel, by decide +kernel, trivial, trivial⟩

theorem freeOfRules_disk : disk.FreeOfRules [".Build"] := by
  have h_files : FolderRules.NoneAmong disk.tree.files := by
    unfold FolderRules.NoneAmong
    decide +kernel
  intro folder _ source h_source data h_at
  exact h_files _ (FileTree.mem_files_of_at? h_at) source h_source (List.suffix_append _ _)

end Yard

/-- Neither the name of the start nor the case of the ending keeps a file from being found. -/
theorem crane_found :
    Yard.disk.WellFormed ∧ Yard.disk.FreeOfRules [".Build"] ∧
      "/yard/.Build/src/Crane.JAVA" ∈ Yard.disk.scan Yard.options "/yard/.Build" := by
  refine ⟨Yard.wellFormed_disk, Yard.freeOfRules_disk, ?_⟩
  have h_root : Yard.disk.locate "/yard/.Build" = .ok [".Build"] := by rfl
  have h_scan := scan_eq_filtered_listing Yard.wellFormed_disk h_root rfl Yard.freeOfRules_disk Yard.options
  refine (h_scan.2.2 _).2 ⟨["src", "Crane.JAVA"], .ofText "class Crane { }\n", rfl, ?_, by decide +kernel⟩
  exact ⟨⟨_, rfl, "Crane", "JAVA", by decide +kernel⟩, by decide +kernel, by decide +kernel, by decide +kernel⟩

end JavaCallGraph
