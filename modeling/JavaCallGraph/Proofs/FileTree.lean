import JavaCallGraph.FileTree
import JavaCallGraph.Proofs.KeyMap
import JavaCallGraph.Proofs.Text
import Mathlib.Logic.Basic

/-!
# What writing leaves as it was

Making folders and writing files only add to a tree: what stood at a path of names is still there, a
folder if it was one, and files keep their data except where one was written. So a path that could be
followed before leads to the same place afterwards.

* `FileTree.Grows` — a tree with more folders, and other files at some places only.
* `FileTree.grows_put?`, `FileTree.grows_makeFolders` — writing a file, making folders.
* `Disk.follow_of_grows` — paths in a grown tree.
* `Disk.makeFolders_ok` — the folders of a path after they were made.
* `Disk.write_ok` — a file after it was written.
-/

namespace JavaCallGraph

namespace FileTree

/-! ## Entries of folders -/

theorem lookup_setEntry (name : String) (t : FileTree) (entries : List (String × FileTree))
    (k : String) : (setEntry name t entries).lookup k = if k = name then some t else entries.lookup k := by
  induction entries with
  | nil =>
    by_cases h : k = name
    · simp [setEntry, h]
    · rw [setEntry, KeyMap.lookup_cons_ne h, if_neg h]
  | cons e entries ih =>
    obtain ⟨key, old⟩ := e
    rw [setEntry]
    by_cases h_key : key = name
    · subst h_key
      by_cases h : k = key
      · simp [h]
      · simp only [beq_self_eq_true, if_true, KeyMap.lookup_cons_ne h, if_neg h]
    · rw [if_neg (by simpa using h_key)]
      by_cases h : k = key
      · simp [h, h_key]
      · rw [KeyMap.lookup_cons_ne h, KeyMap.lookup_cons_ne h, ih]

theorem at?_append (t : FileTree) (names more : List String) :
    t.at? (names ++ more) = (t.at? names).bind (·.at? more) := by
  induction names generalizing t with
  | nil => rfl
  | cons name names ih =>
    rw [List.cons_append, at?, at?]
    cases t.child? name with
    | none => rfl
    | some child => exact ih child

theorem at?_folder_cons (entries : List (String × FileTree)) (name : String) (names : List String) :
    (folder entries).at? (name :: names) = (entries.lookup name).bind (·.at? names) := rfl

theorem eq_folder_of_isFolder {t : FileTree} (h : t.isFolder = true) : ∃ entries, t = .folder entries := by
  cases t with
  | file data => cases h
  | folder entries => exact ⟨entries, rfl⟩

/-! ## Growing -/

/-- A tree with more in it: what was there is still there, a folder if it was one, and files are the
same but at the places that were written. -/
structure Grows (written : List String → Prop) (t t' : FileTree) : Prop where
  kept : ∀ names x, t.at? names = some x → ∃ x', t'.at? names = some x' ∧ x'.isFolder = x.isFolder
  same : ∀ names, ¬ written names → ∀ data,
    t'.at? names = some (.file data) ↔ t.at? names = some (.file data)

namespace Grows

variable {written : List String → Prop} {t t' t'' : FileTree}

theorem refl (t : FileTree) : Grows written t t where
  kept := fun _ x h => ⟨x, h, rfl⟩
  same := fun _ _ _ => Iff.rfl

theorem trans (h : Grows written t t') (h' : Grows written t' t'') : Grows written t t'' where
  kept := by
    intro names x h_x
    obtain ⟨x', h_x', h_kind⟩ := h.kept names x h_x
    obtain ⟨x'', h_x'', h_kind'⟩ := h'.kept names x' h_x'
    exact ⟨x'', h_x'', h_kind'.trans h_kind⟩
  same := fun names h_names data => (h'.same names h_names data).trans (h.same names h_names data)

theorem mono {more : List String → Prop} (h : Grows written t t')
    (h_more : ∀ names, written names → more names) : Grows more t t' where
  kept := h.kept
  same := fun names h_names => h.same names (mt (h_more names) h_names)

theorem folder (h : Grows written t t') {names : List String} {entries : List (String × FileTree)}
    (h_folder : t.at? names = some (.folder entries)) :
    ∃ entries', t'.at? names = some (.folder entries') := by
  obtain ⟨x, h_x, h_kind⟩ := h.kept names _ h_folder
  obtain ⟨entries', rfl⟩ := eq_folder_of_isFolder h_kind
  exact ⟨entries', h_x⟩

/-- A folder grows with one of its entries, or by a new one whose files were all written. -/
theorem setEntry {entries : List (String × FileTree)} {name : String} {child' : FileTree}
    (h_old : ∀ child, entries.lookup name = some child →
      Grows (fun names => written (name :: names)) child child')
    (h_new : entries.lookup name = none →
      ∀ names data, child'.at? names = some (.file data) → written (name :: names)) :
    Grows written (.folder entries) (.folder (FileTree.setEntry name child' entries)) where
  kept := by
    intro names x h_x
    cases names with
    | nil =>
      cases h_x
      exact ⟨_, rfl, rfl⟩
    | cons key names =>
      rw [at?_folder_cons] at h_x
      rw [at?_folder_cons, lookup_setEntry]
      by_cases h_key : key = name
      · subst h_key
        obtain ⟨child, h_child, h_x⟩ := Option.bind_eq_some_iff.1 h_x
        rw [if_pos rfl]
        exact (h_old child h_child).kept names x h_x
      · rw [if_neg h_key]
        exact ⟨x, h_x, rfl⟩
  same := by
    intro names h_names data
    cases names with
    | nil => simp [at?]
    | cons key names =>
      rw [at?_folder_cons, at?_folder_cons, lookup_setEntry]
      by_cases h_key : key = name
      · subst h_key
        rw [if_pos rfl]
        cases h_child : entries.lookup key with
        | some child => exact (h_old child h_child).same names h_names data
        | none =>
          -- no file was here, and one that is here now would be a written one
          constructor
          · intro h_file
            exact absurd (h_new h_child names data h_file) h_names
          · intro h_file
            cases h_file
      · rw [if_neg h_key]

end Grows

/-! ## Writing a file -/

theorem at?_branch (data : FileData) (names : List String) :
    (branch data names).at? names = some (.file data) := by
  induction names with
  | nil => rfl
  | cons name names ih => simpa [branch, at?, child?] using ih

/-- In new folders there is no other file. -/
theorem eq_of_at?_branch {data data' : FileData} {names place : List String}
    (h : (branch data names).at? place = some (.file data')) : place = names := by
  induction names generalizing place with
  | nil =>
    cases place with
    | nil => rfl
    | cons key place => cases h
  | cons name names ih =>
    cases place with
    | nil => cases h
    | cons key place =>
      rw [branch, at?_folder_cons] at h
      by_cases h_key : key = name
      · subst h_key
        rw [List.lookup_cons_self, Option.bind_some] at h
        rw [ih h]
      · rw [KeyMap.lookup_cons_ne h_key] at h
        cases h

theorem at?_put? {data : FileData} {names : List String} {t t' : FileTree}
    (h : put? data names t = some t') : t'.at? names = some (.file data) := by
  induction names generalizing t t' with
  | nil =>
    cases t with
    | file old =>
      cases h
      rfl
    | folder entries => cases h
  | cons name names ih =>
    cases t with
    | file old => cases h
    | folder entries =>
      rw [put?] at h
      cases h_child : entries.lookup name with
      | some child =>
        rw [h_child] at h
        obtain ⟨child', h_put, rfl⟩ := Option.map_eq_some_iff.1 h
        rw [at?_folder_cons, lookup_setEntry, if_pos rfl]
        exact ih h_put
      | none =>
        rw [h_child] at h
        cases h
        rw [at?_folder_cons, lookup_setEntry, if_pos rfl]
        exact at?_branch data names

/-- Writing a file changes no other one. -/
theorem grows_put? {data : FileData} {names : List String} {t t' : FileTree}
    (h : put? data names t = some t') : Grows (· = names) t t' := by
  induction names generalizing t t' with
  | nil =>
    cases t with
    | file old =>
      cases h
      constructor
      · intro names x h_x
        cases names with
        | nil =>
          cases h_x
          exact ⟨_, rfl, rfl⟩
        | cons key names => cases h_x
      · intro names h_names data
        cases names with
        | nil => exact absurd rfl h_names
        | cons key names => simp [at?, child?]
    | folder entries => cases h
  | cons name names ih =>
    cases t with
    | file old => cases h
    | folder entries =>
      rw [put?] at h
      cases h_child : entries.lookup name with
      | some child =>
        rw [h_child] at h
        obtain ⟨child', h_put, rfl⟩ := Option.map_eq_some_iff.1 h
        refine .setEntry (fun old h_old => ?_) (fun h_none => ?_)
        · cases h_child.symm.trans h_old
          exact (ih h_put).mono fun place h_place => by rw [h_place]
        · cases h_child.symm.trans h_none
      | none =>
        rw [h_child] at h
        cases h
        refine .setEntry (fun old h_old => ?_) (fun _ place data' h_file => ?_)
        · cases h_child.symm.trans h_old
        · rw [eq_of_at?_branch h_file]

/-! ## Making folders -/

/-- Making folders changes no file. -/
theorem grows_makeFolders (names : List String) (t : FileTree) :
    Grows (fun _ => False) t (makeFolders names t) := by
  induction names generalizing t with
  | nil => exact .refl t
  | cons name names ih =>
    cases t with
    | file data => exact .refl _
    | folder entries =>
      rw [makeFolders]
      refine .setEntry (fun child h_child => ?_) (fun h_none place data h_file => ?_)
      · rw [h_child]
        exact ih child
      · rw [h_none] at h_file
        have h_empty : empty.at? place = some (.file data) := ((ih empty).same place id data).1 h_file
        cases place <;> cases h_empty

theorem at?_makeFolders {parent : List String} {name : String} {t : FileTree}
    {entries : List (String × FileTree)} (h_parent : t.at? parent = some (.folder entries))
    (h_new : entries.lookup name = none) :
    (makeFolders (parent ++ [name]) t).at? (parent ++ [name]) = some empty := by
  induction parent generalizing t with
  | nil =>
    cases h_parent
    rw [List.nil_append, makeFolders, at?_folder_cons, lookup_setEntry, if_pos rfl, h_new]
    rfl
  | cons key parent ih =>
    cases t with
    | file data => cases h_parent
    | folder outer =>
      rw [at?_folder_cons] at h_parent
      obtain ⟨child, h_child, h_parent⟩ := Option.bind_eq_some_iff.1 h_parent
      rw [List.cons_append, makeFolders, at?_folder_cons, lookup_setEntry, if_pos rfl, h_child]
      exact ih h_parent

end FileTree

namespace Disk

/-! ## Following paths -/

variable {written : List String → Prop} {d d' : Disk}

theorem follow_append (d : Disk) (seen names more : List String) :
    d.follow seen (names ++ more) =
      (d.follow seen names).bind fun place => d.follow place.reverse more := by
  induction names generalizing seen with
  | nil => simp [follow, Except.bind]
  | cons name names ih =>
    rw [List.cons_append, follow.eq_def, follow.eq_def d seen (name :: names)]
    dsimp only
    split
    · split
      · split
        · rfl
        · exact ih _
      · split
        · exact ih _
        · rfl
    · rfl
    · rfl

theorem follow_cons {seen names : List String} {name : String}
    {entries : List (String × FileTree)} (h_name : name ≠ "..")
    (h_folder : d.tree.at? seen.reverse = some (.folder entries))
    (h_entry : (entries.lookup name).isSome = true) :
    d.follow seen (name :: names) = d.follow (name :: seen) names := by
  rw [follow.eq_def]
  simp [h_folder, h_name, h_entry]

theorem follow_back {seen names : List String} {last : String} {entries : List (String × FileTree)}
    (h_folder : d.tree.at? (last :: seen).reverse = some (.folder entries)) :
    d.follow (last :: seen) (".." :: names) = d.follow seen names := by
  rw [follow, h_folder]
  rfl

theorem at?_snoc {t : FileTree} {names : List String} {entries : List (String × FileTree)}
    (h : t.at? names = some (.folder entries)) (name : String) :
    t.at? (names ++ [name]) = entries.lookup name := by
  rw [FileTree.at?_append, h, Option.bind_some, FileTree.at?_folder_cons]
  cases entries.lookup name <;> rfl

/-- What one name does: it leads back, or to an entry that is there. -/
theorem follow_cons_eq_ok_iff {seen names place : List String} {name : String} :
    d.follow seen (name :: names) = .ok place ↔
      (d.tree.at? seen.reverse).any FileTree.isFolder = true ∧
        ((name = ".." ∧ ∃ last before, seen = last :: before ∧ d.follow before names = .ok place) ∨
          (name ≠ ".." ∧ (d.tree.at? (seen.reverse ++ [name])).isSome = true ∧
            d.follow (name :: seen) names = .ok place)) := by
  rw [follow.eq_def]
  dsimp only
  cases h_at : d.tree.at? seen.reverse with
  | none => simp
  | some t =>
    cases t with
    | file data => simp [FileTree.isFolder]
    | folder entries =>
      rw [at?_snoc h_at]
      by_cases h_name : name = ".."
      · subst h_name
        cases seen with
        | nil => simp
        | cons last before => simp [FileTree.isFolder]
      · by_cases h_entry : (entries.lookup name).isSome = true
        · simp [FileTree.isFolder, h_name, h_entry]
        · simp [h_name, h_entry]

/-- An entry of a folder is still there when the tree has grown. -/
theorem isSome_lookup_of_grows (h : FileTree.Grows written d.tree d'.tree) {names : List String}
    {entries entries' : List (String × FileTree)} {name : String}
    (h_folder : d.tree.at? names = some (.folder entries))
    (h_folder' : d'.tree.at? names = some (.folder entries'))
    (h_entry : (entries.lookup name).isSome = true) : (entries'.lookup name).isSome = true := by
  rw [← at?_snoc h_folder] at h_entry
  rw [← at?_snoc h_folder']
  obtain ⟨x, h_x⟩ := Option.isSome_iff_exists.1 h_entry
  obtain ⟨x', h_x', -⟩ := h.kept _ x h_x
  rw [h_x']
  rfl

/-- What can be followed leads to the same place when the tree has grown. -/
theorem follow_of_grows (h : FileTree.Grows written d.tree d'.tree) {seen names place : List String}
    (h_follow : d.follow seen names = .ok place) : d'.follow seen names = .ok place := by
  induction names generalizing seen with
  | nil => exact h_follow
  | cons name names ih =>
    rw [follow_cons_eq_ok_iff] at h_follow ⊢
    obtain ⟨h_folder, h_step⟩ := h_follow
    obtain ⟨t, h_t, h_kind⟩ := (Option.any_eq_true _ _).1 h_folder
    obtain ⟨t', h_t', h_kind'⟩ := h.kept _ t h_t
    refine ⟨(Option.any_eq_true _ _).2 ⟨t', h_t', h_kind'.trans h_kind⟩, ?_⟩
    rcases h_step with ⟨h_back, last, before, rfl, h_follow⟩ | ⟨h_name, h_entry, h_follow⟩
    · exact .inl ⟨h_back, last, before, rfl, ih h_follow⟩
    · obtain ⟨x, h_x⟩ := Option.isSome_iff_exists.1 h_entry
      obtain ⟨x', h_x', -⟩ := h.kept _ x h_x
      exact .inr ⟨h_name, Option.isSome_iff_exists.2 ⟨x', h_x'⟩, ih h_follow⟩

/-! ## Making folders and writing -/

/-- A disk with more on it, seen from the same folder. -/
structure Grows (written : List String → Prop) (d d' : Disk) : Prop where
  top : d'.top = d.top
  here : d'.here = d.here
  tree : FileTree.Grows written d.tree d'.tree

namespace Grows

variable {d'' : Disk}

theorem refl (d : Disk) : Grows written d d := ⟨rfl, rfl, .refl _⟩

theorem trans (h : Grows written d d') (h' : Grows written d' d'') : Grows written d d'' :=
  ⟨h'.top.trans h.top, h'.here.trans h.here, h.tree.trans h'.tree⟩

theorem mono {more : List String → Prop} (h : Grows written d d')
    (h_more : ∀ names, written names → more names) : Grows more d d' :=
  ⟨h.top, h.here, h.tree.mono h_more⟩

theorem names? (h : Grows written d d') (path : String) : d'.names? path = d.names? path := by
  simp only [Disk.names?, Disk.belowTop?, h.top, h.here]

theorem locate (h : Grows written d d') {path : String} {place : List String}
    (h_locate : d.locate path = .ok place) : d'.locate path = .ok place := by
  rw [Disk.locate] at h_locate ⊢
  rw [h.names?]
  split at h_locate
  · exact follow_of_grows h.tree h_locate
  · cases h_locate

end Grows

/-- Folders that were made can be followed; no file has changed. -/
theorem makeFolders_ok {made : Bool} {seen names place : List String} {d d' : Disk}
    (h : makeFolders made seen names d = (d', .ok place)) :
    Grows (fun _ => False) d d' ∧ d'.follow seen names = .ok place ∧
      ∃ entries, d'.tree.at? place = some (.folder entries) := by
  induction names generalizing made seen d with
  | nil =>
    rw [makeFolders.eq_def] at h
    dsimp only at h
    split at h
    · rename_i entries h_folder
      cases h
      exact ⟨.refl _, rfl, entries, h_folder⟩
    · cases h
    · cases h
  | cons name names ih =>
    rw [makeFolders.eq_def] at h
    dsimp only at h
    split at h
    · rename_i entries h_folder
      by_cases h_back : name = ".."
      · subst h_back
        cases seen with
        | nil => cases h
        | cons last seen =>
          obtain ⟨h_grows, h_follow, h_place⟩ := ih h
          obtain ⟨entries', h_folder'⟩ := h_grows.tree.folder h_folder
          exact ⟨h_grows, (follow_back h_folder').trans h_follow, h_place⟩
      · rw [if_neg (by simpa using h_back)] at h
        split at h
        · rename_i h_entry
          obtain ⟨h_grows, h_follow, h_place⟩ := ih h
          obtain ⟨entries', h_folder'⟩ := h_grows.tree.folder h_folder
          have h_entry' := isSome_lookup_of_grows h_grows.tree h_folder h_folder' h_entry
          exact ⟨h_grows, (follow_cons h_back h_folder' h_entry').trans h_follow, h_place⟩
        · -- the missing folder is made, and is there from then on
          rename_i h_entry
          obtain ⟨h_later, h_follow, h_place⟩ := ih h
          have h_made := FileTree.at?_makeFolders h_folder
            (Option.not_isSome_iff_eq_none.1 (by simpa using h_entry))
          have h_grows : Grows (fun _ => False) d d' :=
            ⟨h_later.top, h_later.here, (FileTree.grows_makeFolders _ d.tree).trans h_later.tree⟩
          obtain ⟨entries', h_folder'⟩ := h_grows.tree.folder h_folder
          obtain ⟨x, h_x, -⟩ := h_later.tree.kept _ _ h_made
          have h_entry' : (entries'.lookup name).isSome = true := by
            rw [← at?_snoc h_folder', h_x]
            rfl
          exact ⟨h_grows, (follow_cons h_back h_folder' h_entry').trans h_follow, h_place⟩
    · cases h
    · cases h

theorem follow_file {base : List String} {name : String} {data : FileData} (h_name : name ≠ "..")
    (h : d.tree.at? (base ++ [name]) = some (.file data)) :
    d.follow base.reverse [name] = .ok (base ++ [name]) := by
  rw [FileTree.at?_append] at h
  obtain ⟨x, h_base, h_entry⟩ := Option.bind_eq_some_iff.1 h
  cases x with
  | file old => cases h_entry
  | folder entries =>
    rw [FileTree.at?_folder_cons] at h_entry
    obtain ⟨child, h_child, -⟩ := Option.bind_eq_some_iff.1 h_entry
    rw [follow_cons h_name (by rwa [List.reverse_reverse]) (by rw [h_child]; rfl), follow]
    simp

/-- A file that was written is where its path leads, and no other file has changed. -/
theorem write_ok {path text : String} (h : d.write path text = .ok d') :
    ∃ place, Grows (· = place) d d' ∧ d'.locate path = .ok place ∧
      d'.tree.at? place = some (.file (.ofText text)) := by
  rw [write] at h
  cases h_names : d.names? path with
  | none =>
    rw [h_names] at h
    cases h
  | some names =>
    rw [h_names] at h
    dsimp only at h
    split at h
    · cases h
    · rename_i h_last
      cases h_base : d.follow [] names.dropLast with
      | error cause =>
        rw [h_base] at h
        cases h
      | ok base =>
        rw [h_base] at h
        cases h_put : FileTree.put? (.ofText text) (base ++ names.getLast?.toList) d.tree with
        | none => simp [bind, Except.bind, h_put] at h
        | some tree =>
          simp only [bind, Except.bind, h_put, Except.ok.injEq] at h
          subst h
          have h_grows : Grows (· = base ++ names.getLast?.toList) d { d with tree } :=
            ⟨rfl, rfl, FileTree.grows_put? h_put⟩
          have h_file := FileTree.at?_put? h_put
          refine ⟨_, h_grows, ?_, h_file⟩
          have h_follow := follow_of_grows h_grows.tree h_base
          rw [locate, h_grows.names?, h_names]
          rcases List.eq_nil_or_concat names with rfl | ⟨init, last, rfl⟩
          · simpa using h_follow
          · -- the folder is followed as before, and from there the name leads to the new file
            simp only [List.concat_eq_append, List.getLast?_concat, Option.toList_some,
              List.dropLast_concat, Option.some.injEq, beq_iff_eq] at h_last h_file h_follow ⊢
            rw [follow_append, h_follow]
            exact follow_file h_last h_file

/-! ## Reading -/

theorem find_eq_ok_file_iff {path : String} {data : FileData} :
    d.find path = .ok (.file data) ↔ ∃ place, d.locate path = .ok place ∧
      d.tree.at? place = some (.file data) ∧ Text.endsWith "/" path = false := by
  rw [find]
  cases h_locate : d.locate path with
  | error cause => simp [bind, Except.bind]
  | ok place =>
    simp only [bind, Except.bind, Except.ok.injEq, exists_eq_left']
    cases h_at : d.tree.at? place with
    | none => simp [throw, throwThe, MonadExceptOf.throw]
    | some t =>
      cases t with
      | folder entries => simp [pure, Except.pure]
      | file old =>
        cases h_slash : Text.endsWith "/" path with
        | true => simp [throw, throwThe, MonadExceptOf.throw]
        | false => simp [pure, Except.pure]

theorem isFile_iff {path : String} : d.isFile path = true ↔ ∃ data, d.find path = .ok (.file data) := by
  rw [isFile]
  cases d.find path with
  | error cause => simp [Except.toOption]
  | ok t => cases t <;> simp [Except.toOption, FileTree.isFile]

theorem readText_eq {path : String} {data : FileData} (h : d.find path = .ok (.file data)) :
    d.readText path = (data.text?.map Except.ok).getD (.error .notText) := by
  rw [readText, readFile, h]
  cases h_text : data.text? <;> simp [bind, Except.bind, pure, Except.pure, h_text, throw, throwThe,
    MonadExceptOf.throw]

theorem readText_of_find {path text : String} (h : d.find path = .ok (.file (.ofText text))) :
    d.readText path = .ok text := readText_eq h

/-- A file is still found where nothing was written. -/
theorem Grows.find (h : Grows written d d') {path : String} {data : FileData}
    (h_place : ∀ place, d.locate path = .ok place → ¬ written place)
    (h_find : d.find path = .ok (.file data)) : d'.find path = .ok (.file data) := by
  obtain ⟨place, h_locate, h_file, h_slash⟩ := find_eq_ok_file_iff.1 h_find
  exact find_eq_ok_file_iff.2 ⟨place, h.locate h_locate,
    (h.tree.same place (h_place place h_locate) data).2 h_file, h_slash⟩

end Disk

end JavaCallGraph
