import JavaCallGraph.Scan
import JavaCallGraph.Proofs.KeyMap
import JavaCallGraph.Proofs.Path

/-!
# What a scan finds

A scan walks the entries of folders, and the paths that it answers with are read again name by name. The
two meet if the tree is one that a disk can hold: then every path that was found leads to the file that
was walked, and no file is found twice.

* `FileTree.WellNamed` — trees whose folders have proper names, each once.
* `ScanOptions.mem_walk`, `ScanOptions.nodup_walk` — the files of a walk.
* `Disk.WellFormed` — the disks that there are.
* `Disk.scan_eq`, `Disk.exists_of_mem_scan` — the paths of a scan and where they lead.
* `Disk.nodup_scan` — no path is found twice.
-/

namespace JavaCallGraph

/-! ## Order of places -/

namespace Path

theorem le_iff {a b : List String} : le a b = true ↔ ¬ b < a := by
  rw [le, Bool.not_eq_true', decide_eq_false_iff_not]

theorem le_trans {a b c : List String} (h_ab : le a b = true) (h_bc : le b c = true) :
    le a c = true := by
  rw [le_iff, List.not_lt] at *
  exact List.le_trans h_ab h_bc

theorem le_total (a b : List String) : le a b = true ∨ le b a = true := by
  rw [le_iff, le_iff, List.not_lt, List.not_lt]
  exact List.le_total a b

theorem le_antisymm {a b : List String} (h_ab : le a b = true) (h_ba : le b a = true) : a = b := by
  rw [le_iff, List.not_lt] at *
  exact List.le_antisymm h_ab h_ba

theorem pairwise_mergeSort_le (places : List (List String)) :
    (places.mergeSort le).Pairwise fun a b => le a b = true := by
  apply List.pairwise_mergeSort
  · intro a b c h_ab h_bc
    exact le_trans h_ab h_bc
  · intro a b
    rw [Bool.or_eq_true]
    exact le_total a b

/-- Places that are left out before sorting might as well be left out afterwards. -/
theorem mergeSort_filter (keep : List String → Bool) (places : List (List String)) :
    (places.filter keep).mergeSort le = (places.mergeSort le).filter keep := by
  refine List.Perm.eq_of_pairwise ?_ (pairwise_mergeSort_le _) ((pairwise_mergeSort_le _).filter keep) ?_
  · intro a b _ _ h_ab h_ba
    exact le_antisymm h_ab h_ba
  · exact (List.mergeSort_perm _ _).trans ((List.mergeSort_perm _ _).symm.filter keep)

end Path

/-! ## Trees that a disk can hold -/

namespace FileTree

mutual

/-- In every folder the names are names of files, and no two are the same. -/
def WellNamed : FileTree → Prop
  | file _ => True
  | folder entries => (entries.map Prod.fst).Nodup ∧ WellNamedAll entries

/-- Every entry has the name of a file, and its tree is well named. -/
def WellNamedAll : List (String × FileTree) → Prop
  | [] => True
  | (name, t) :: entries => Path.IsFileName name ∧ WellNamed t ∧ WellNamedAll entries

end

theorem WellNamedAll.of_mem {entries : List (String × FileTree)} (h : WellNamedAll entries)
    {e : String × FileTree} (h_mem : e ∈ entries) : Path.IsFileName e.1 ∧ e.2.WellNamed := by
  induction entries with
  | nil => cases h_mem
  | cons head entries ih =>
    obtain ⟨h_name, h_tree, h_rest⟩ := h
    rcases List.mem_cons.1 h_mem with rfl | h_mem
    · exact ⟨h_name, h_tree⟩
    · exact ih h_rest h_mem

theorem WellNamed.of_at? {t x : FileTree} (h : t.WellNamed) {names : List String}
    (h_at : t.at? names = some x) : x.WellNamed ∧ ∀ name ∈ names, Path.IsFileName name := by
  induction names generalizing t with
  | nil =>
    cases h_at
    exact ⟨h, fun _ h_mem => by cases h_mem⟩
  | cons name names ih =>
    cases t with
    | file data => cases h_at
    | folder entries =>
      rw [at?_folder_cons] at h_at
      obtain ⟨child, h_child, h_at⟩ := Option.bind_eq_some_iff.1 h_at
      obtain ⟨h_name, h_named⟩ := h.2.of_mem (KeyMap.mem_of_lookup h_child)
      obtain ⟨h_x, h_names⟩ := ih h_named h_at
      exact ⟨h_x, by simpa using ⟨h_name, h_names⟩⟩

end FileTree

/-! ## The files of a walk -/

namespace ScanOptions

/-- What is said of a file that a walk finds below a tree: the names that lead to it, and the last of
them, which is that of the tree itself if there are none. -/
def Finds (t : FileTree) (name : String) (names : List String) : Prop :=
  (∃ data, t.at? names = some (.file data)) ∧ ((name :: names).getLast?.any Path.isJava) = true

section Walk

variable {options : ScanOptions}

mutual

theorem mem_walk {chain : List FolderRules} {path : List String} {name : String} {file : List String} :
    ∀ {t : FileTree}, t.WellNamed → file ∈ options.walk chain path name t →
      ∃ names, file = path ++ names ∧ Finds t name names
  | .file data, _, h => by
    rw [walk] at h
    split at h
    · rename_i h_selects
      rw [List.mem_singleton] at h
      rw [selects, Bool.and_eq_true] at h_selects
      exact ⟨[], by simpa using h, ⟨data, rfl⟩, h_selects.1⟩
    · cases h
  | .folder entries, h_named, h => by
    rw [walk] at h
    obtain ⟨e, h_e, names, rfl, ⟨data, h_at⟩, h_last⟩ := mem_walkEntries h_named.2 h
    refine ⟨e.1 :: names, rfl, ⟨data, ?_⟩, h_last⟩
    rw [FileTree.at?_folder_cons, KeyMap.lookup_of_mem h_named.1 h_e]
    exact h_at

theorem mem_walkEntries {chain : List FolderRules} {path : List String} {file : List String} :
    ∀ {entries : List (String × FileTree)}, FileTree.WellNamedAll entries →
      file ∈ options.walkEntries chain path entries →
      ∃ e ∈ entries, ∃ names, file = path ++ e.1 :: names ∧ Finds e.2 e.1 names
  | [], _, h => by
    rw [walkEntries] at h
    cases h
  | (name, t) :: entries, ⟨_, h_tree, h_rest⟩, h => by
    rw [walkEntries, List.mem_append] at h
    rcases h with h | h
    · split at h
      · cases h
      · obtain ⟨names, rfl, h_finds⟩ := mem_walk h_tree h
        exact ⟨(name, t), List.mem_cons_self, names, by simp, h_finds⟩
    · obtain ⟨e, h_e, h_file⟩ := mem_walkEntries h_rest h
      exact ⟨e, List.mem_cons_of_mem _ h_e, h_file⟩

end

mutual

theorem nodup_walk {chain : List FolderRules} {path : List String} {name : String} :
    ∀ {t : FileTree}, t.WellNamed → (options.walk chain path name t).Nodup
  | .file data, _ => by
    rw [walk]
    split <;> simp
  | .folder entries, h_named => by
    rw [walk]
    exact nodup_walkEntries h_named.2 h_named.1

theorem nodup_walkEntries {chain : List FolderRules} {path : List String} :
    ∀ {entries : List (String × FileTree)}, FileTree.WellNamedAll entries →
      (entries.map Prod.fst).Nodup → (options.walkEntries chain path entries).Nodup
  | [], _, _ => by
    rw [walkEntries]
    exact List.nodup_nil
  | (name, t) :: entries, ⟨_, h_tree, h_rest⟩, h_nodup => by
    obtain ⟨h_new, h_nodup⟩ := List.nodup_cons.1 h_nodup
    rw [walkEntries, List.nodup_append]
    refine ⟨?_, nodup_walkEntries h_rest h_nodup, ?_⟩
    · split
      · exact List.nodup_nil
      · exact nodup_walk h_tree
    · -- the files below two entries differ in the names of the entries
      rintro file h_file other h_other rfl
      split at h_file
      · cases h_file
      · obtain ⟨names, h_eq, -⟩ := mem_walk h_tree h_file
        obtain ⟨e, h_e, names', h_eq', -⟩ := mem_walkEntries h_rest h_other
        rw [h_eq, List.append_assoc] at h_eq'
        have h_name : name = e.1 := (List.cons.inj (List.append_cancel_left h_eq')).1
        exact h_new (h_name ▸ List.mem_map.2 ⟨e, h_e, rfl⟩)

end

end Walk

end ScanOptions

/-! ## The paths of a scan -/

/-- A disk as there are: its tree is one that a disk can hold, and it stands at a path. -/
structure Disk.WellFormed (d : Disk) : Prop where
  top : Disk.IsTop d.top
  tree : d.tree.WellNamed

namespace Disk

variable {d : Disk} {options : ScanOptions} {root : String}

theorem isFolder_iff {path : String} :
    d.isFolder path = true ↔
      ∃ place entries, d.locate path = .ok place ∧ d.tree.at? place = some (.folder entries) := by
  rw [isFolder, find]
  cases h_locate : d.locate path with
  | error cause => simp [bind, Except.bind, Except.toOption]
  | ok place =>
    simp only [bind, Except.bind, Except.ok.injEq, exists_and_left, exists_eq_left']
    cases h_at : d.tree.at? place with
    | none => simp [throw, throwThe, MonadExceptOf.throw, Except.toOption]
    | some t =>
      cases t with
      | folder entries => simp [pure, Except.pure, Except.toOption, FileTree.isFolder]
      | file data =>
        cases Text.endsWith "/" path <;>
          simp [pure, Except.pure, throw, throwThe, MonadExceptOf.throw, Except.toOption,
            FileTree.isFolder]

/-- The places of the files that a scan of the folder at `place` finds, in order. -/
def foundBelow (d : Disk) (options : ScanOptions) (root : String) (place : List String)
    (t : FileTree) : List (List String) :=
  (options.walk (options.rulesAbove d.tree place) place ((Path.fileName? root).getD "") t).mergeSort
    Path.le

/-- The path of a file that was found below the folder at `place`, whose path is `root`. -/
def pathBelow (root : String) (place file : List String) : String :=
  (file.drop place.length).foldl Path.join root

theorem scan_eq {place : List String} {t : FileTree} (h_locate : d.locate root = .ok place)
    (h_at : d.tree.at? place = some t) :
    d.scan options root = (d.foundBelow options root place t).map (pathBelow root place) := by
  simp only [scan, h_locate, h_at]
  rfl

theorem mem_scan_iff {place : List String} {t : FileTree} (h_locate : d.locate root = .ok place)
    (h_at : d.tree.at? place = some t) {path : String} :
    path ∈ d.scan options root ↔
      ∃ file ∈ options.walk (options.rulesAbove d.tree place) place ((Path.fileName? root).getD "") t,
        pathBelow root place file = path := by
  rw [scan_eq h_locate h_at, List.mem_map]
  simp only [foundBelow, List.mem_mergeSort]

/-- A file that was found is where its path leads. -/
theorem locate_pathBelow (h_disk : d.WellFormed) {place : List String}
    {entries : List (String × FileTree)} (h_locate : d.locate root = .ok place)
    (h_at : d.tree.at? place = some (.folder entries)) {file : List String}
    (h_file : file ∈ d.foundBelow options root place (.folder entries)) :
    d.locate (pathBelow root place file) = .ok file ∧
      (∃ data, d.tree.at? file = some (.file data) ∧
        d.find (pathBelow root place file) = .ok (.file data)) ∧
      (file.getLast?.any Path.isJava) = true := by
  obtain ⟨h_named, -⟩ := h_disk.tree.of_at? h_at
  obtain ⟨names, rfl, ⟨data, h_data⟩, h_java⟩ :=
    ScanOptions.mem_walk h_named (List.mem_mergeSort.1 h_file)
  have h_whole : d.tree.at? (place ++ names) = some (.file data) := by
    rw [FileTree.at?_append, h_at, Option.bind_some, h_data]
  obtain ⟨-, h_names⟩ := h_named.of_at? h_data
  have h_path : pathBelow root place (place ++ names) = names.foldl Path.join root := by
    rw [pathBelow, List.drop_left]
  have h_locate' := locate_foldl_join h_disk.top h_names h_locate h_whole
  rcases List.eq_nil_or_concat names with rfl | ⟨init, last, rfl⟩
  · cases h_data
  · rw [List.concat_eq_append] at *
    refine ⟨h_path ▸ h_locate', ⟨data, h_whole, ?_⟩, ?_⟩
    · rw [h_path]
      refine find_eq_ok_file_iff.2 ⟨_, h_locate', h_whole, ?_⟩
      rw [List.foldl_append]
      exact Path.endsWith_slash_join (h_names last (by simp)) _
    · rw [← List.cons_append, List.getLast?_concat] at h_java
      rw [← List.append_assoc, List.getLast?_concat]
      exact h_java

theorem exists_of_mem_scan (h_disk : d.WellFormed) (h_root : d.isFolder root = true) {path : String}
    (h : path ∈ d.scan options root) :
    ∃ place data, d.locate path = .ok place ∧ d.tree.at? place = some (.file data) ∧
      d.find path = .ok (.file data) ∧ (place.getLast?.any Path.isJava) = true := by
  obtain ⟨place, entries, h_locate, h_at⟩ := isFolder_iff.1 h_root
  rw [scan_eq h_locate h_at] at h
  obtain ⟨file, h_file, rfl⟩ := List.mem_map.1 h
  obtain ⟨h_file, ⟨data, h_data, h_find⟩, h_java⟩ := locate_pathBelow h_disk h_locate h_at h_file
  exact ⟨file, data, h_file, h_data, h_find, h_java⟩

/-- Paths that were found are those of different files. -/
theorem eq_of_locate_eq (h_disk : d.WellFormed) (h_root : d.isFolder root = true) {path other : String}
    (h_path : path ∈ d.scan options root) (h_other : other ∈ d.scan options root)
    (h_same : d.locate path = d.locate other) : path = other := by
  obtain ⟨place, entries, h_locate, h_at⟩ := isFolder_iff.1 h_root
  rw [scan_eq h_locate h_at] at h_path h_other
  obtain ⟨file, h_file, rfl⟩ := List.mem_map.1 h_path
  obtain ⟨file', h_file', rfl⟩ := List.mem_map.1 h_other
  rw [(locate_pathBelow h_disk h_locate h_at h_file).1,
    (locate_pathBelow h_disk h_locate h_at h_file').1] at h_same
  rw [Except.ok.inj h_same]

/-- No path is found twice. -/
theorem nodup_scan (h_disk : d.WellFormed) (h_root : d.isFolder root = true) :
    (d.scan options root).Nodup := by
  obtain ⟨place, entries, h_locate, h_at⟩ := isFolder_iff.1 h_root
  obtain ⟨h_named, -⟩ := h_disk.tree.of_at? h_at
  have h_found : (d.foundBelow options root place (.folder entries)).Nodup :=
    (List.mergeSort_perm _ _).nodup_iff.2 (ScanOptions.nodup_walk h_named)
  rw [scan_eq h_locate h_at, List.Nodup, List.pairwise_map]
  refine List.Pairwise.imp_of_mem ?_ h_found
  intro file other h_file h_other h_ne h_eq
  have h_same := (locate_pathBelow h_disk h_locate h_at h_file).1
  rw [h_eq, (locate_pathBelow h_disk h_locate h_at h_other).1] at h_same
  exact h_ne (Except.ok.inj h_same).symm

end Disk

end JavaCallGraph
