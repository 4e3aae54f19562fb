import JavaCallGraph.Proofs.ResultFiles

/-!
# Writing that may fail

Files are written into folders that are made on the way, and either may fail halfway. However far it
gets, no other file changes and every new folder leads to one of the files. It fails only where a file or
a folder is in the way, or a path leads out of the disk; never because a folder is missing.

* `Path.resolve?` — where names lead, whatever the disk holds.
* `FileTree.MakesOnly` — the folders that a change of a tree makes.
* `Disk.Adds` — a disk with other files and new folders at some places only.
* `Disk.adds_makeFolders`, `Disk.obstructed_of_makeFolders` — making folders.
* `Disk.Blocked` — paths that nothing can be written to.
* `Disk.writeFile_spec`, `Disk.writeFiles_spec`, `Disk.writeAnalysis_spec` — writing files.
-/

namespace JavaCallGraph

/-! ## Where names lead -/

namespace Path

/-- The place that names lead to from `seen`, nearest name first, once every name on the way is that of
a folder; none if `..` leads above the top. -/
def resolve? : (seen names : List String) → Option (List String)
  | seen, [] => some seen.reverse
  | seen, name :: names =>
    if name == ".." then
      match seen with
      | [] => none
      | _ :: seen => resolve? seen names
    else resolve? (name :: seen) names

variable {seen names place : List String} {name last : String}

theorem resolve?_cons (h_name : name ≠ "..") :
    resolve? seen (name :: names) = resolve? (name :: seen) names := by
  rw [resolve?.eq_def]
  exact if_neg (by simpa using h_name)

theorem resolve?_snoc (h_name : name ≠ "..") (h : resolve? seen names = some place) :
    resolve? seen (names ++ [name]) = some (place ++ [name]) := by
  induction names generalizing seen with
  | nil =>
    cases h
    rw [List.nil_append, resolve?_cons h_name, resolve?, List.reverse_cons]
  | cons first names ih =>
    by_cases h_back : first = ".."
    · subst h_back
      cases seen with
      | nil => cases h
      | cons last seen => exact ih h
    · rw [resolve?_cons h_back] at h
      rw [List.cons_append, resolve?_cons h_back]
      exact ih h

/-- A place that names lead through or to. -/
def LeadsThrough (seen names place : List String) : Prop :=
  ∃ before, before <+: names ∧ resolve? seen before = some place

namespace LeadsThrough

theorem start (seen names : List String) : LeadsThrough seen names seen.reverse :=
  ⟨[], List.nil_prefix, rfl⟩

theorem back (h : LeadsThrough seen names place) : LeadsThrough (last :: seen) (".." :: names) place := by
  obtain ⟨before, h_before, h_place⟩ := h
  exact ⟨".." :: before, List.prefix_cons_inj _ |>.2 h_before, h_place⟩

theorem cons (h_name : name ≠ "..") (h : LeadsThrough (name :: seen) names place) :
    LeadsThrough seen (name :: names) place := by
  obtain ⟨before, h_before, h_place⟩ := h
  exact ⟨name :: before, List.prefix_cons_inj _ |>.2 h_before, (resolve?_cons h_name).trans h_place⟩

end LeadsThrough

end Path

/-! ## Folders that are made -/

namespace FileTree

theorem isSome_at?_of_isPrefix {t : FileTree} {place names : List String} (h : place <+: names)
    (h_names : (t.at? names).isSome = true) : (t.at? place).isSome = true := by
  obtain ⟨more, rfl⟩ := h
  rw [at?_append] at h_names
  exact Option.isSome_of_isSome_bind h_names

/-- Every folder was there before, or is one of those made. -/
def MakesOnly (made : List String → Prop) (t t' : FileTree) : Prop :=
  ∀ place entries, t'.at? place = some (.folder entries) → (t.at? place).isSome = true ∨ made place

/-- A folder has new folders where one of its entries has, or where the whole entry is new. -/
theorem MakesOnly.setEntry {made : List String → Prop} {entries : List (String × FileTree)}
    {name : String} {child' : FileTree}
    (h_old : ∀ child, entries.lookup name = some child →
      MakesOnly (fun names => made (name :: names)) child child')
    (h_new : entries.lookup name = none →
      ∀ names inner, child'.at? names = some (.folder inner) → made (name :: names)) :
    MakesOnly made (.folder entries) (.folder (FileTree.setEntry name child' entries)) := by
  intro place inner h_place
  cases place with
  | nil => exact .inl rfl
  | cons key place =>
    rw [at?_folder_cons, lookup_setEntry] at h_place
    rw [at?_folder_cons]
    by_cases h_key : key = name
    · subst h_key
      rw [if_pos rfl] at h_place
      cases h_child : entries.lookup key with
      | some child => exact h_old child h_child place inner h_place
      | none => exact .inr (h_new h_child place inner h_place)
    · rw [if_neg h_key] at h_place
      rw [h_place]
      exact .inl rfl

theorem isPrefix_of_at?_branch {data : FileData} {names place : List String}
    {entries : List (String × FileTree)}
    (h : (branch data names).at? place = some (.folder entries)) : place <+: names ∧ place ≠ names := by
  induction names generalizing place with
  | nil => cases place <;> cases h
  | cons name names ih =>
    cases place with
    | nil => exact ⟨List.nil_prefix, by simp⟩
    | cons key place =>
      rw [branch, at?_folder_cons] at h
      by_cases h_key : key = name
      · subst h_key
        rw [List.lookup_cons_self, Option.bind_some] at h
        simpa using ih h
      · rw [KeyMap.lookup_cons_ne h_key] at h
        cases h

/-- Writing a file makes folders above it only. -/
theorem makesOnly_put? {data : FileData} {names : List String} {t t' : FileTree}
    (h : put? data names t = some t') :
    MakesOnly (fun place => place <+: names ∧ place ≠ names) t t' := by
  induction names generalizing t t' with
  | nil =>
    cases t with
    | folder entries => cases h
    | file old =>
      cases h
      intro place entries h_place
      cases place <;> cases h_place
  | cons name names ih =>
    cases t with
    | file old => cases h
    | folder entries =>
      rw [put?] at h
      cases h_child : entries.lookup name with
      | some child =>
        rw [h_child] at h
        obtain ⟨child', h_put, rfl⟩ := Option.map_eq_some_iff.1 h
        refine .setEntry (fun old h_old place inner h_place => ?_) (fun h_none => ?_)
        · cases h_child.symm.trans h_old
          simpa using ih h_put place inner h_place
        · cases h_child.symm.trans h_none
      | none =>
        rw [h_child] at h
        cases h
        refine .setEntry (fun old h_old => ?_) (fun _ place inner h_place => ?_)
        · cases h_child.symm.trans h_old
        · simpa using isPrefix_of_at?_branch h_place

/-- Making the folders of a path makes no others. -/
theorem makesOnly_makeFolders (names : List String) (t : FileTree) :
    MakesOnly (· <+: names) t (makeFolders names t) := by
  induction names generalizing t with
  | nil =>
    intro place entries h_place
    exact .inl (by rw [makeFolders] at h_place; rw [h_place]; rfl)
  | cons name names ih =>
    cases t with
    | file data =>
      intro place entries h_place
      exact .inl (by rw [makeFolders] at h_place; rw [h_place]; rfl)
    | folder entries =>
      rw [makeFolders]
      refine .setEntry (fun child h_child place inner h_place => ?_) (fun h_none place inner h_place => ?_)
      · rw [h_child] at h_place
        simpa using ih child place inner h_place
      · rw [h_none] at h_place
        rcases ih empty place inner h_place with h_empty | h_made
        · cases place with
          | nil => simp
          | cons key place => cases h_empty
        · simpa using h_made

/-- In a folder that is there, only a folder is in the way of a file. -/
theorem at?_of_put?_eq_none {data : FileData} {base : List String} {name : String} {t : FileTree}
    {entries : List (String × FileTree)} (h_base : t.at? base = some (.folder entries))
    (h : put? data (base ++ [name]) t = none) :
    ∃ inner, t.at? (base ++ [name]) = some (.folder inner) := by
  induction base generalizing t with
  | nil =>
    cases h_base
    rw [List.nil_append, put?] at h
    rw [List.nil_append, at?_folder_cons]
    cases h_child : entries.lookup name with
    | none =>
      rw [h_child] at h
      cases h
    | some child =>
      rw [h_child] at h
      cases child with
      | file old => cases h
      | folder inner => exact ⟨inner, rfl⟩
  | cons key base ih =>
    cases t with
    | file old => cases h_base
    | folder outer =>
      rw [at?_folder_cons] at h_base
      obtain ⟨child, h_child, h_base⟩ := Option.bind_eq_some_iff.1 h_base
      rw [List.cons_append, put?, h_child] at h
      rw [List.cons_append, at?_folder_cons, h_child]
      exact ih h_base (Option.map_eq_none_iff.1 h)

end FileTree

namespace Disk

variable {written made : List String → Prop} {d d' d'' : Disk}

/-- A disk with more on it: other files at some places only, and new folders at some places only. -/
structure Adds (written made : List String → Prop) (d d' : Disk) : Prop where
  grows : Grows written d d'
  folders : FileTree.MakesOnly made d.tree d'.tree

namespace Adds

theorem refl (d : Disk) : Adds written made d d where
  grows := .refl d
  folders := fun place entries h_place => .inl (by rw [h_place]; rfl)

theorem trans (h : Adds written made d d') (h' : Adds written made d' d'') : Adds written made d d'' where
  grows := h.grows.trans h'.grows
  folders := by
    intro place entries h_place
    rcases h'.folders place entries h_place with h_some | h_made
    · obtain ⟨x, h_x⟩ := Option.isSome_iff_exists.1 h_some
      -- what was there is of the same kind
      obtain ⟨x', h_x', h_kind⟩ := h'.grows.tree.kept place x h_x
      rw [h_place] at h_x'
      cases h_x'
      obtain ⟨inner, rfl⟩ := FileTree.eq_folder_of_isFolder h_kind.symm
      exact h.folders place inner h_x
    · exact .inr h_made

theorem mono {written' made' : List String → Prop} (h : Adds written made d d')
    (h_written : ∀ place, written place → written' place) (h_made : ∀ place, made place → made' place) :
    Adds written' made' d d' where
  grows := h.grows.mono h_written
  folders := fun place entries h_place => (h.folders place entries h_place).imp_right (h_made place)

end Adds

/-! ## Making folders -/

/-- Names lead above the top or through a file. -/
def Obstructed (d : Disk) (seen names : List String) : Prop :=
  Path.resolve? seen names = none ∨
    ∃ place data, Path.LeadsThrough seen names place ∧ d.tree.at? place = some (.file data)

theorem Obstructed.back {seen names : List String} {last : String} (h : d.Obstructed seen names) :
    d.Obstructed (last :: seen) (".." :: names) := by
  rcases h with h_above | ⟨place, data, h_place, h_file⟩
  · exact .inl h_above
  · exact .inr ⟨place, data, h_place.back, h_file⟩

theorem Obstructed.cons {seen names : List String} {name : String} (h_name : name ≠ "..")
    (h : d.Obstructed (name :: seen) names) : d.Obstructed seen (name :: names) := by
  rcases h with h_above | ⟨place, data, h_place, h_file⟩
  · exact .inl ((Path.resolve?_cons h_name).trans h_above)
  · exact .inr ⟨place, data, h_place.cons h_name, h_file⟩

/-- One missing folder is made. -/
theorem adds_folder {seen : List String} {name : String} {entries : List (String × FileTree)}
    (h_folder : d.tree.at? seen.reverse = some (.folder entries)) :
    Adds (fun _ => False) (· = (name :: seen).reverse) d
      { d with tree := d.tree.makeFolders (seen.reverse ++ [name]) } where
  grows := ⟨rfl, rfl, FileTree.grows_makeFolders _ _⟩
  folders := by
    intro place inner h_place
    rcases FileTree.makesOnly_makeFolders _ _ place inner h_place with h_some | h_made
    · exact .inl h_some
    · rcases List.prefix_concat_iff.1 h_made with rfl | h_above
      · exact .inr (List.reverse_cons ..).symm
      · exact .inl (FileTree.isSome_at?_of_isPrefix h_above (by rw [h_folder]; rfl))

/-- However far the making of folders gets, no file changes, and every new folder is one that the names
lead through. -/
theorem adds_makeFolders (begun : Bool) (seen names : List String) (d : Disk) :
    Adds (fun _ => False) (Path.LeadsThrough seen names) d (makeFolders begun seen names d).1 := by
  induction names generalizing begun seen d with
  | nil =>
    rw [makeFolders.eq_def]
    dsimp only
    split <;> exact .refl _
  | cons name names ih =>
    -- the first name leads back, to a folder that is there, or to one that is made; the rest goes on from it
    rw [makeFolders.eq_def]
    dsimp only
    split
    · rename_i entries h_folder
      by_cases h_back : name = ".."
      · subst h_back
        cases seen with
        | nil => exact .refl _
        | cons last seen => exact (ih begun seen d).mono (fun _ => id) fun _ h => h.back
      · rw [if_neg (by simpa using h_back)]
        split
        · exact (ih begun (name :: seen) d).mono (fun _ => id) fun _ h => h.cons h_back
        · refine .trans ((adds_folder h_folder).mono (fun _ => id) ?_)
            ((ih true (name :: seen) _).mono (fun _ => id) fun _ h => h.cons h_back)
          rintro place rfl
          exact (Path.LeadsThrough.start _ _).cons h_back
    · exact .refl _
    · exact .refl _

/-- Folders that could not be made lie above the top or below a file. -/
theorem obstructed_of_makeFolders {begun : Bool} {seen names : List String} {cause : AccessError}
    (h_seen : (d.tree.at? seen.reverse).isSome = true)
    (h : makeFolders begun seen names d = (d', .error cause)) : d'.Obstructed seen names := by
  induction names generalizing begun seen d with
  | nil =>
    rw [makeFolders.eq_def] at h
    dsimp only at h
    split at h
    · cases h
    · rename_i data h_file
      cases h
      exact .inr ⟨_, data, .start _ _, h_file⟩
    · rename_i h_none
      rw [h_none] at h_seen
      cases h_seen
  | cons name names ih =>
    -- what the names have led to so far is there, so nothing can be missing
    rw [makeFolders.eq_def] at h
    dsimp only at h
    split at h
    · rename_i entries h_folder
      by_cases h_back : name = ".."
      · subst h_back
        cases seen with
        | nil => exact .inl rfl
        | cons last seen =>
          rw [List.reverse_cons] at h_seen
          exact (ih (FileTree.isSome_at?_of_isPrefix (List.prefix_append _ _) h_seen) h).back
      · rw [if_neg (by simpa using h_back)] at h
        split at h
        · rename_i h_entry
          refine (ih ?_ h).cons h_back
          rwa [List.reverse_cons, at?_snoc h_folder]
        · rename_i h_entry
          refine (ih ?_ h).cons h_back
          rw [List.reverse_cons, FileTree.at?_makeFolders h_folder
            (Option.not_isSome_iff_eq_none.1 (by simpa using h_entry))]
          rfl
    · rename_i data h_file
      cases h
      exact .inr ⟨_, data, .start _ _, h_file⟩
    · rename_i h_none
      rw [h_none] at h_seen
      cases h_seen

/-! ## Writing files -/

/-- The place that a path leads to, once every name on the way is that of a folder. -/
def placeOf? (d : Disk) (path : String) : Option (List String) :=
  (d.names? path).bind (Path.resolve? [])

/-- A path leads through the folder at this place. -/
def LiesAbove (d : Disk) (path : String) (place : List String) : Prop :=
  ∃ names, d.names? path = some names ∧ Path.LeadsThrough [] names.dropLast place

/-- Why no file can be written to a path, however many folders are made. -/
inductive Blocked (d : Disk) (path : String) : Prop
  /-- The path leads out of the disk. -/
  | outside (h : d.names? path = none)
  /-- It leads through a file, or above the top. -/
  | way {names : List String} (h_names : d.names? path = some names)
      (h : d.Obstructed [] names.dropLast)
  /-- A folder stands where it leads. -/
  | folder {place : List String} {entries : List (String × FileTree)}
      (h_place : d.placeOf? path = some place) (h : d.tree.at? place = some (.folder entries))

theorem Grows.placeOf? (h : Grows written d d') (path : String) : d'.placeOf? path = d.placeOf? path := by
  rw [Disk.placeOf?, Disk.placeOf?, h.names?]

theorem Grows.liesAbove (h : Grows written d d') {path : String} {place : List String}
    (h_above : d'.LiesAbove path place) : d.LiesAbove path place := by
  rwa [LiesAbove, h.names?] at h_above

theorem resolve?_of_follow {seen names place : List String} (h : d.follow seen names = .ok place) :
    Path.resolve? seen names = some place := by
  induction names generalizing seen with
  | nil =>
    rw [follow] at h
    rw [Path.resolve?, Except.ok.inj h]
  | cons name names ih =>
    obtain ⟨-, ⟨rfl, last, before, rfl, h_rest⟩ | ⟨h_name, -, h_rest⟩⟩ := follow_cons_eq_ok_iff.1 h
    · exact ih h_rest
    · exact (Path.resolve?_cons h_name).trans (ih h_rest)

/-- A file is written into a folder that is there, unless a folder has its name. -/
theorem write_spec {path : String} (text : String) {names base : List String}
    {entries : List (String × FileTree)} (h_names : d.names? path = some names)
    (h_last : names.getLast? ≠ some "..") (h_base : d.follow [] names.dropLast = .ok base)
    (h_folder : d.tree.at? base = some (.folder entries)) :
    (∃ d', d.write path text = .ok d' ∧
      Adds (fun place => d.placeOf? path = some place) (fun _ => False) d d') ∨
    (∃ cause, d.write path text = .error cause) ∧ d.Blocked path := by
  rw [write, h_names]
  dsimp only
  rw [if_neg (by simpa using h_last), h_base]
  simp only [bind, Except.bind]
  have h_place := resolve?_of_follow h_base
  rcases List.eq_nil_or_concat names with rfl | ⟨init, last, rfl⟩
  · -- the path is that of the top, which is a folder
    cases h_base
    obtain ⟨tree, h_tree⟩ : ∃ tree, d.tree = .folder tree := ⟨entries, Option.some.inj h_folder⟩
    refine .inr ⟨?_, .folder (by rw [placeOf?, h_names]; rfl) h_folder⟩
    simp [h_tree, FileTree.put?]
  · simp only [List.concat_eq_append, List.getLast?_concat, Option.toList_some,
      List.dropLast_concat, ne_eq, Option.some.injEq] at h_last h_place h_names ⊢
    have h_leads : d.placeOf? path = some (base ++ [last]) := by
      rw [placeOf?, h_names]
      exact Path.resolve?_snoc h_last h_place
    cases h_put : FileTree.put? (.ofText text) (base ++ [last]) d.tree with
    | none =>
      obtain ⟨inner, h_inner⟩ := FileTree.at?_of_put?_eq_none h_folder h_put
      exact .inr ⟨⟨_, rfl⟩, .folder h_leads h_inner⟩
    | some tree =>
      refine .inl ⟨_, rfl, ⟨rfl, rfl, (FileTree.grows_put? h_put).mono ?_⟩, ?_⟩
      · rintro place rfl
        exact h_leads
      · intro place inner h_inner
        rcases FileTree.makesOnly_put? h_put place inner h_inner with h_some | ⟨h_above, h_ne⟩
        · exact .inl h_some
        · have h_above := (List.prefix_concat_iff.1 h_above).resolve_left h_ne
          exact .inl (FileTree.isSome_at?_of_isPrefix h_above (by rw [h_folder]; rfl))

/-- However far the writing of a file gets, no other file changes, and every new folder leads to it. It
fails only at a blocked path. -/
theorem writeFile_spec {folder name text : String} (h_name : Path.IsFileName name)
    {path? : Except AnalysisError String} (h : d.writeFile folder name text = (d', path?)) :
    Adds (fun place => d.placeOf? (Path.join folder name) = some place)
        (d.LiesAbove (Path.join folder name)) d d' ∧
      ∀ e, path? = .error e → d'.Blocked (Path.join folder name) := by
  rw [writeFile] at h
  cases h_names : d.names? (Path.join folder name) with
  | none =>
    rw [makeFoldersTo, h_names] at h
    cases h
    exact ⟨.refl _, fun _ _ => .outside h_names⟩
  | some names =>
    rw [makeFoldersTo, h_names] at h
    dsimp only at h
    have h_adds := adds_makeFolders false [] names.dropLast d
    cases h_made : makeFolders false [] names.dropLast d with
    | mk d₁ base? =>
      rw [h_made] at h h_adds
      replace h_adds : Adds (fun place => d.placeOf? (Path.join folder name) = some place)
          (d.LiesAbove (Path.join folder name)) d d₁ :=
        h_adds.mono (fun _ h => h.elim) fun place h_place => ⟨names, h_names, h_place⟩
      have h_names₁ := (h_adds.grows.names? (Path.join folder name)).trans h_names
      cases base? with
      | error cause =>
        cases h
        exact ⟨h_adds, fun _ _ => .way h_names₁ (obstructed_of_makeFolders rfl h_made)⟩
      | ok base =>
        obtain ⟨-, h_follow, entries, h_folder⟩ := makeFolders_ok h_made
        have h_last : names.getLast? ≠ some ".." := by
          rcases names?_join h_name h_names with rfl | ⟨before, rfl⟩
          · simp
          · simpa using h_name.2.2.1
        dsimp only at h
        obtain ⟨d₂, h_write, h_file⟩ | ⟨⟨cause, h_write⟩, h_blocked⟩ :=
          write_spec text h_names₁ h_last h_follow h_folder
        · rw [h_write] at h
          cases h
          refine ⟨h_adds.trans (h_file.mono (fun place h_place => ?_) fun _ h => h.elim), ?_⟩
          · rwa [h_adds.grows.placeOf?] at h_place
          · rintro e ⟨⟩
        · rw [h_write] at h
          cases h
          exact ⟨h_adds, fun _ _ => h_blocked⟩

/-- However many files get written, no other file changes, and every new folder leads to one of them.
The writing stops only at a blocked path. -/
theorem writeFiles_spec {folder : String} {files : List (String × String)}
    (h_names : ∀ name ∈ files.map Prod.fst, Path.IsFileName name)
    {paths? : Except AnalysisError (List String)} (h : d.writeFiles folder files = (d', paths?)) :
    Adds (fun place => ∃ name ∈ files.map Prod.fst, d.placeOf? (Path.join folder name) = some place)
        (fun place => ∃ name ∈ files.map Prod.fst, d.LiesAbove (Path.join folder name) place) d d' ∧
      ∀ e, paths? = .error e → ∃ name ∈ files.map Prod.fst, d'.Blocked (Path.join folder name) := by
  induction files generalizing d paths? with
  | nil =>
    cases h
    exact ⟨.refl _, fun _ h_e => by cases h_e⟩
  | cons f files ih =>
    obtain ⟨name, text⟩ := f
    obtain ⟨h_name, h_later_names⟩ := List.forall_mem_cons.1 h_names
    rw [writeFiles] at h
    cases h_file : d.writeFile folder name text with
    | mk d₁ path? =>
      obtain ⟨h_adds, h_blocked⟩ := writeFile_spec h_name h_file
      replace h_adds : Adds
          (fun place => ∃ name' ∈ name :: files.map Prod.fst,
            d.placeOf? (Path.join folder name') = some place)
          (fun place => ∃ name' ∈ name :: files.map Prod.fst,
            d.LiesAbove (Path.join folder name') place) d d₁ :=
        h_adds.mono (fun place h_place => ⟨name, List.mem_cons_self, h_place⟩)
          fun place h_place => ⟨name, List.mem_cons_self, h_place⟩
      rw [h_file] at h
      cases path? with
      | error e =>
        cases h
        exact ⟨h_adds, fun _ _ => ⟨name, List.mem_cons_self, h_blocked e rfl⟩⟩
      | ok path =>
        cases h_rest : d₁.writeFiles folder files with
        | mk d₂ rest? =>
          dsimp only at h
          rw [h_rest] at h
          cases h
          obtain ⟨h_later, h_stop⟩ := ih h_later_names h_rest
          refine ⟨h_adds.trans (h_later.mono ?_ ?_), ?_⟩
          -- paths lead to the same places as before the first file was written
          · rintro place ⟨other, h_other, h_place⟩
            rw [h_adds.grows.placeOf?] at h_place
            exact ⟨other, List.mem_cons_of_mem _ h_other, h_place⟩
          · rintro place ⟨other, h_other, h_place⟩
            exact ⟨other, List.mem_cons_of_mem _ h_other, h_adds.grows.liesAbove h_place⟩
          · intro e h_e
            cases rest? with
            | ok rest => cases h_e
            | error cause =>
              obtain ⟨other, h_other, h_blocked⟩ := h_stop cause rfl
              exact ⟨other, List.mem_cons_of_mem _ h_other, h_blocked⟩

/-- An analysis is written to all of its files, or up to one whose path is blocked. -/
theorem writeAnalysis_spec {a : Analysis} {folder : String} {output : OutputOptions}
    {paths? : Except AnalysisError (List String)}
    (h : d.writeAnalysis a folder output = (d', paths?)) :
    Adds (fun place => ∃ name ∈ output.fileNames, d.placeOf? (Path.join folder name) = some place)
        (fun place => ∃ name ∈ output.fileNames, d.LiesAbove (Path.join folder name) place) d d' ∧
      (∀ paths, paths? = .ok paths → ∀ name ∈ output.fileNames, d'.isFile (Path.join folder name) = true) ∧
      ∀ e, paths? = .error e → ∃ name ∈ output.fileNames, d'.Blocked (Path.join folder name) := by
  rw [writeAnalysis] at h
  have h_names := output.isFileName_fileNames
  have h_nodup := output.nodup_fileNames
  rw [← a.map_fst_files output] at h_names h_nodup ⊢
  obtain ⟨h_adds, h_stop⟩ := writeFiles_spec h_names h
  refine ⟨h_adds, ?_, h_stop⟩
  rintro paths rfl name h_name
  obtain ⟨f, h_f, rfl⟩ := List.mem_map.1 h_name
  exact isFile_iff.2 ⟨_, (writeFiles_ok h_names h_nodup h).2 f h_f⟩

end Disk

end JavaCallGraph
