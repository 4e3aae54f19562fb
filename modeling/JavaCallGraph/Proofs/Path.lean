import JavaCallGraph.Proofs.FileTree

/-!
# Paths of files in a folder

The path of a file in a folder ends in the file's name, and so do the names that it is read as, however
the path of the folder is written. Files with different names are therefore at different places, and
the names below a folder, put after its path one by one, lead to where they stand.

* `Path.IsFileName` — names of files.
* `Path.EndsIn` — texts whose last name is known.
* `Disk.locate_join` — where the path of a file in a folder leads.
* `Path.GoesOn` — paths with one name more.
* `Disk.locate_foldl_join` — where a path leads that is put together from names.
-/

namespace JavaCallGraph

namespace Path

/-- A name that a file in a folder can have. -/
def IsFileName (name : String) : Prop :=
  name ≠ "" ∧ name ≠ "." ∧ name ≠ ".." ∧ '/' ∉ name.toList

instance (name : String) : Decidable (IsFileName name) := inferInstanceAs (Decidable (_ ∧ _))

/-- A text is a name, or ends in a slash and the name. -/
def EndsIn (name : String) (cs : List Char) : Prop :=
  cs = name.toList ∨ ∃ before, cs = before ++ '/' :: name.toList

variable {name : String}

theorem names_of_endsIn (h_name : IsFileName name) {path : String} (h : EndsIn name path.toList) :
    ∃ before, names path = before ++ [name] := by
  obtain ⟨h_empty, h_dot, -, h_slash⟩ := h_name
  have h_pieces : ∃ before, Text.splitChars '/' path.toList = before ++ [name.toList] := by
    rcases h with h | ⟨before, h⟩
    · exact ⟨[], by rw [h, Text.splitChars_of_notMem h_slash]; rfl⟩
    · exact ⟨_, by rw [h, Text.splitChars_append_cons, Text.splitChars_of_notMem h_slash]⟩
  obtain ⟨before, h_pieces⟩ := h_pieces
  refine ⟨(before.map String.ofList).filter fun name => !name.isEmpty && name != ".", ?_⟩
  simp [names, Text.split, h_pieces, List.filter_append, h_dot, h_empty]

/-- The path of a file in a folder ends in the name of the file. -/
theorem endsIn_join (folder name : String) : EndsIn name (join folder name).toList := by
  rw [join]
  split
  · exact .inl rfl
  · split
    · rename_i h_ends
      obtain ⟨before, h_before⟩ := Text.endsWith_iff.1 h_ends
      refine .inr ⟨before, ?_⟩
      rw [String.toList_append, ← h_before]
      simp
    · exact .inr ⟨folder.toList, by simp⟩

/-- What is left of a path when it is cut at a slash. -/
theorem endsIn_rest (h_name : IsFileName name) {top rest : List Char} (h : EndsIn name (top ++ rest))
    (h_cut : ['/'] <+: rest ∨ ['/'] <:+ top) : EndsIn name rest := by
  obtain ⟨-, -, -, h_slash⟩ := h_name
  -- a cut inside the name would put a slash there
  have h_inside : ∀ part, name.toList = part ++ rest → part <:+ top → part = [] := by
    intro part h_eq h_part
    rcases h_cut with ⟨more, h_more⟩ | h_top
    · rw [h_eq, ← h_more] at h_slash
      simp at h_slash
    · rcases List.eq_nil_or_concat part with rfl | ⟨init, last, rfl⟩
      · rfl
      · have h_last : last = '/' := by
          obtain ⟨a, h_a⟩ := h_part
          obtain ⟨b, h_b⟩ := h_top
          have h_both := h_a.trans h_b.symm
          simp only [List.concat_eq_append, ← List.append_assoc] at h_both
          exact (List.append_inj_right' h_both rfl |> List.cons.inj).1
        rw [h_eq, h_last] at h_slash
        simp at h_slash
  rcases h with h | ⟨before, h⟩
  · rw [h_inside top h.symm (List.suffix_refl _)] at h
    exact .inl h
  · rcases List.append_eq_append_iff.1 h with ⟨more, -, h_rest⟩ | ⟨part, h_top, h_rest⟩
    · exact .inr ⟨more, h_rest⟩
    · cases part with
      | nil => exact .inr ⟨[], h_rest.symm⟩
      | cons c part =>
        obtain ⟨rfl, h_name⟩ := List.cons.inj h_rest
        have h_nil := h_inside part h_name ⟨before ++ ['/'], by rw [h_top]; simp⟩
        rw [h_nil] at h_name
        exact .inl h_name.symm

theorem endsWith_slash_join (h_name : IsFileName name) (folder : String) :
    Text.endsWith "/" (join folder name) = false := by
  obtain ⟨h_empty, -, -, h_slash⟩ := h_name
  have h_suffix : name.toList <:+ (join folder name).toList := by
    rcases endsIn_join folder name with h | ⟨before, h⟩
    · exact h ▸ List.suffix_refl _
    · exact ⟨before ++ ['/'], by rw [h]; simp⟩
  have h_length : 1 ≤ name.toList.length :=
    List.length_pos_iff.2 fun h_nil => h_empty (String.toList_eq_nil_iff.1 h_nil)
  rw [Bool.eq_false_iff]
  intro h_ends
  have h_last := List.suffix_of_suffix_length_le (Text.endsWith_iff.1 h_ends) h_suffix h_length
  exact h_slash (h_last.subset List.mem_cons_self)

/-! ## Paths that go on by a name -/

/-- The path `path` goes on from `base` by a name: a slash stands between them, unless `base` ends in one
or is empty. -/
def GoesOn (base name path : String) : Prop :=
  ∃ sep, path.toList = base.toList ++ (sep ++ name.toList) ∧
    (sep = ['/'] ∨ sep = [] ∧ (base = "" ∨ ['/'] <:+ base.toList))

theorem isAbsolute_iff {path : String} : isAbsolute path = true ↔ ['/'] <+: path.toList :=
  Text.startsWith_iff

theorem not_isAbsolute_of_isFileName (h_name : IsFileName name) : isAbsolute name = false := by
  rw [Bool.eq_false_iff, Ne, isAbsolute_iff]
  intro h_start
  exact h_name.2.2.2 (h_start.subset List.mem_cons_self)

theorem goesOn_join (h_name : IsFileName name) (base : String) : GoesOn base name (join base name) := by
  rw [join, not_isAbsolute_of_isFileName h_name, Bool.false_or]
  split
  · rename_i h_empty
    have h_base : base = "" := by simpa using h_empty
    exact ⟨[], by simp [h_base], .inr ⟨rfl, .inl h_base⟩⟩
  · split
    · rename_i h_ends
      exact ⟨[], by simp, .inr ⟨rfl, .inr (Text.endsWith_iff.1 h_ends)⟩⟩
    · exact ⟨['/'], by simp, .inl rfl⟩

theorem not_isAbsolute_of_goesOn {base path : String} (h_base : base ≠ "")
    (h_relative : isAbsolute base = false) (h : GoesOn base name path) :
    isAbsolute path = false ∧ path ≠ "" := by
  obtain ⟨sep, h_path, -⟩ := h
  obtain ⟨c, cs, h_cons⟩ := List.exists_cons_of_ne_nil fun h_nil =>
    h_base (String.toList_eq_nil_iff.1 h_nil)
  rw [Bool.eq_false_iff, Ne, isAbsolute_iff, h_cons] at h_relative
  rw [Bool.eq_false_iff, Ne, isAbsolute_iff, h_path, h_cons]
  constructor
  · simpa using h_relative
  · rintro rfl
    simp [h_cons] at h_path

theorem names_append_slash {path before after : String}
    (h : path.toList = before.toList ++ '/' :: after.toList) : names path = names before ++ names after := by
  simp [names, Text.split, h, Text.splitChars_append_cons]

theorem names_of_isFileName (h_name : IsFileName name) : names name = [name] := by
  have h_split : Text.splitChars '/' name.toList = [name.toList] :=
    Text.splitChars_of_notMem h_name.2.2.2
  simp [names, Text.split, h_split, h_name.1, h_name.2.1]

theorem names_of_goesOn (h_name : IsFileName name) {base path : String} (h : GoesOn base name path) :
    names path = names base ++ [name] := by
  obtain ⟨sep, h_path, rfl | ⟨rfl, rfl | ⟨before, h_before⟩⟩⟩ := h
  · rw [names_append_slash h_path, names_of_isFileName h_name]
  · obtain rfl : path = name := String.toList_injective (by simpa using h_path)
    exact names_of_isFileName h_name
  · -- the slash at the end of `base` adds no name to it
    have h_base : names base = names (String.ofList before) ++ names "" :=
      names_append_slash (by simp [← h_before])
    have h_whole : names path = names (String.ofList before) ++ names name :=
      names_append_slash (by simp [h_path, ← h_before])
    rw [h_whole, h_base, names_of_isFileName h_name]
    simp [names, Text.split, Text.splitChars]

end Path

namespace Disk

variable {d : Disk} {name : String}

/-- The names that the path of a file in a folder is read as end in its own, unless the path is that of
the top. -/
theorem names?_join (h_name : Path.IsFileName name) {folder : String} {names : List String}
    (h : d.names? (Path.join folder name) = some names) :
    names = [] ∨ ∃ before, names = before ++ [name] := by
  have h_path := Path.endsIn_join folder name
  rw [Disk.names?] at h
  cases h_below : d.belowTop? (Path.join folder name) with
  | some rest =>
    rw [h_below] at h
    cases h
    obtain ⟨h_drop, h_cut⟩ := Option.filter_eq_some_iff.1 h_below
    obtain ⟨chars, h_chars, rfl⟩ := Option.map_eq_some_iff.1 h_drop
    rw [Text.dropStartChars?_eq_some_iff] at h_chars
    by_cases h_empty : chars = []
    · subst h_empty
      exact .inl rfl
    · -- the top ends at a slash of the path, so the rest has the same last name
      refine .inr (Path.names_of_endsIn h_name ?_)
      rw [String.toList_ofList]
      refine Path.endsIn_rest h_name (h_chars ▸ h_path) ?_
      simp only [Bool.or_eq_true, Text.startsWith_iff, Text.endsWith_iff, String.toList_ofList] at h_cut
      rcases h_cut with (h_nil | h_start) | h_end
      · exact absurd (by simpa using h_nil) h_empty
      · exact .inl h_start
      · exact .inr h_end
  | none =>
    rw [h_below] at h
    dsimp only at h
    split at h
    · cases h
    · cases h
      obtain ⟨before, h_names⟩ := Path.names_of_endsIn h_name h_path
      exact .inr ⟨d.here ++ before, by rw [h_names, List.append_assoc]⟩

theorem eq_of_follow_singleton {seen place : List String} (h_name : name ≠ "..")
    (h : d.follow seen [name] = .ok place) : place = (name :: seen).reverse := by
  obtain ⟨-, ⟨h_back, -⟩ | ⟨-, -, h_place⟩⟩ := follow_cons_eq_ok_iff.1 h
  · exact absurd h_back h_name
  · rw [follow.eq_def] at h_place
    exact (Except.ok.inj h_place).symm

/-- The place of a file in a folder has the file's name last, unless it is the top. -/
theorem locate_join (h_name : Path.IsFileName name) {folder : String} {place : List String}
    (h : d.locate (Path.join folder name) = .ok place) :
    place = [] ∨ place.getLast? = some name := by
  rw [locate] at h
  cases h_names : d.names? (Path.join folder name) with
  | none =>
    rw [h_names] at h
    cases h
  | some names =>
    rw [h_names] at h
    rcases names?_join h_name h_names with rfl | ⟨before, rfl⟩
    · cases h
      exact .inl rfl
    · have h_follow : d.follow [] (before ++ [name]) = .ok place := h
      rw [follow_append] at h_follow
      cases h_before : d.follow [] before with
      | error cause =>
        rw [h_before] at h_follow
        cases h_follow
      | ok base =>
        rw [h_before] at h_follow
        rw [eq_of_follow_singleton h_name.2.2.1 h_follow]
        exact .inr (by simp)

/-! ## Where paths that go on lead -/

/-- The top of a disk: a path from the root, or one name that stands for such a path. -/
def IsTop (top : String) : Prop := Path.isAbsolute top = true ∨ top ≠ "" ∧ '/' ∉ top.toList

theorem belowTop?_eq_some_iff {path rest : String} :
    d.belowTop? path = some rest ↔ path.toList = d.top.toList ++ rest.toList ∧
      (rest = "" ∨ ['/'] <+: rest.toList ∨ ['/'] <:+ d.top.toList) := by
  rw [belowTop?, Option.filter_eq_some_iff, Text.dropStart?, Option.map_eq_some_iff]
  simp only [Text.dropStartChars?_eq_some_iff, Bool.or_eq_true, Text.startsWith_iff, Text.endsWith_iff,
    String.isEmpty_iff, or_assoc]
  constructor
  · rintro ⟨⟨chars, h_chars, rfl⟩, h_cut⟩
    exact ⟨by simpa using h_chars, h_cut⟩
  · rintro ⟨h_path, h_cut⟩
    exact ⟨⟨rest.toList, h_path, by simp⟩, h_cut⟩

theorem belowTop?_of_goesOn {base path rest : String} (h_base : base ≠ "")
    (h_path : Path.GoesOn base name path) (h : d.belowTop? base = some rest) :
    ∃ rest', d.belowTop? path = some rest' ∧ Path.GoesOn rest name rest' := by
  obtain ⟨h_eq, h_cut⟩ := belowTop?_eq_some_iff.1 h
  obtain ⟨sep, h_path, h_sep⟩ := h_path
  refine ⟨String.ofList (rest.toList ++ (sep ++ name.toList)), belowTop?_eq_some_iff.2 ⟨?_, ?_⟩,
    sep, by simp, ?_⟩
  · simp [h_path, h_eq]
  · refine .inr ?_
    rcases h_cut with rfl | h_start | h_end
    · rcases h_sep with rfl | ⟨rfl, rfl | h_slash⟩
      · exact .inl (by simp)
      · exact absurd rfl h_base
      · exact .inr (by simpa [h_eq] using h_slash)
    · exact .inl (by simpa using h_start.trans (List.prefix_append _ _))
    · exact .inr h_end
  · refine h_sep.imp_right fun ⟨h_nil, h_slash⟩ => ⟨h_nil, ?_⟩
    by_cases h_rest : rest = ""
    · exact .inl h_rest
    · -- the last character of `base` is that of `rest`
      refine .inr ?_
      rcases h_slash with h_empty | h_slash
      · exact absurd h_empty h_base
      · rw [h_eq] at h_slash
        refine List.suffix_of_suffix_length_le h_slash (List.suffix_append _ _) ?_
        exact List.length_pos_iff.2 fun h_nil => h_rest (String.toList_eq_nil_iff.1 h_nil)

/-- A path does not get below the top by a name alone. -/
theorem belowTop?_eq_none_of_goesOn (h_top : IsTop d.top) {base path : String} (h_base : base ≠ "")
    (h_relative : Path.isAbsolute base = false) (h_path : Path.GoesOn base name path)
    (h : d.belowTop? base = none) : d.belowTop? path = none := by
  rw [Option.eq_none_iff_forall_ne_some]
  intro rest h_rest
  obtain ⟨h_eq, h_cut⟩ := belowTop?_eq_some_iff.1 h_rest
  obtain ⟨sep, h_path, h_sep⟩ := h_path
  have h_chars : base.toList ≠ [] := fun h_nil => h_base (String.toList_eq_nil_iff.1 h_nil)
  rw [h_path] at h_eq
  rcases h_top with h_absolute | ⟨-, h_slash⟩
  · -- a path from the root cannot start as a relative one
    obtain ⟨more, h_more⟩ := Path.isAbsolute_iff.1 h_absolute
    obtain ⟨c, cs, h_cons⟩ := List.exists_cons_of_ne_nil h_chars
    rw [h_cons, ← h_more] at h_eq
    obtain ⟨rfl, -⟩ := List.cons.inj h_eq
    rw [Path.isAbsolute_iff.2 ⟨cs, h_cons.symm⟩] at h_relative
    cases h_relative
  · rcases List.append_eq_append_iff.1 h_eq with ⟨more, h_more, h_tail⟩ | ⟨more, h_more, h_tail⟩
    · -- the top would end inside the slash or the name
      rcases h_sep with rfl | ⟨rfl, h_empty | h_ends⟩
      · cases more with
        | nil =>
          have h_below : d.belowTop? base = some "" :=
            belowTop?_eq_some_iff.2 ⟨by simpa using h_more.symm, .inl rfl⟩
          rw [h] at h_below
          cases h_below
        | cons c more =>
          have h_c : c = '/' := (List.cons.inj h_tail).1.symm
          rw [h_more, h_c] at h_slash
          simp at h_slash
      · exact absurd h_empty h_base
      · rw [h_more] at h_slash
        exact h_slash (List.mem_append_left _ (h_ends.subset List.mem_cons_self))
    · -- the top ends in `base`, which is below it then
      have h_below : d.belowTop? base = some (String.ofList more) := by
        refine belowTop?_eq_some_iff.2 ⟨by simpa using h_more, ?_⟩
        cases more with
        | nil => exact .inl rfl
        | cons c more =>
          refine .inr ?_
          rcases h_cut with rfl | h_start | h_end
          · simp at h_tail
          · rw [h_tail] at h_start
            exact .inl (by simpa using h_start)
          · exact .inr h_end
      rw [h] at h_below
      cases h_below

theorem names?_join_eq (h_top : IsTop d.top) (h_name : Path.IsFileName name) {base : String}
    {names : List String} (h : d.names? base = some names) :
    d.names? (Path.join base name) = some (names ++ [name]) := by
  have h_path := Path.goesOn_join h_name base
  rw [Disk.names?] at h
  cases h_below : d.belowTop? base with
  | some rest =>
    rw [h_below] at h
    cases h
    have h_base : base ≠ "" := by
      rintro rfl
      have h_nil := (belowTop?_eq_some_iff.1 h_below).1
      simp only [String.toList_empty, List.nil_eq, List.append_eq_nil_iff, String.toList_eq_nil_iff]
        at h_nil
      rcases h_top with h_absolute | ⟨h_ne, -⟩
      · rw [h_nil.1] at h_absolute
        cases h_absolute
      · exact h_ne h_nil.1
    obtain ⟨rest', h_below', h_goes⟩ := belowTop?_of_goesOn h_base h_path h_below
    rw [Disk.names?, h_below', ← Path.names_of_goesOn h_name h_goes]
  | none =>
    rw [h_below] at h
    dsimp only at h
    split at h
    · cases h
    · rename_i h_plain
      cases h
      simp only [Bool.or_eq_true, not_or, Bool.not_eq_true, String.isEmpty_eq_false_iff] at h_plain
      obtain ⟨h_relative, h_base⟩ := h_plain
      obtain ⟨h_relative', h_ne⟩ := Path.not_isAbsolute_of_goesOn h_base h_relative h_path
      rw [Disk.names?, belowTop?_eq_none_of_goesOn h_top h_base h_relative h_path h_below,
        Path.names_of_goesOn h_name h_path]
      simp [h_relative', h_ne]

/-- A name that a folder has leads from the folder to its entry. -/
theorem locate_join_eq (h_top : IsTop d.top) (h_name : Path.IsFileName name) {base : String}
    {place : List String} {entries : List (String × FileTree)} (h : d.locate base = .ok place)
    (h_folder : d.tree.at? place = some (.folder entries))
    (h_entry : (entries.lookup name).isSome = true) :
    d.locate (Path.join base name) = .ok (place ++ [name]) := by
  rw [locate] at h ⊢
  cases h_names : d.names? base with
  | none =>
    rw [h_names] at h
    cases h
  | some names =>
    rw [h_names] at h
    dsimp only at h
    rw [names?_join_eq h_top h_name h_names]
    dsimp only
    rw [follow_append, h]
    have h_step : d.follow place.reverse [name] = d.follow (name :: place.reverse) [] :=
      follow_cons h_name.2.2.1 (by rwa [List.reverse_reverse]) h_entry
    refine h_step.trans ?_
    rw [follow, List.reverse_cons, List.reverse_reverse]

/-- Names that lead somewhere from a folder lead there from its path. -/
theorem locate_foldl_join (h_top : IsTop d.top) {base : String} {place names : List String}
    {t : FileTree} (h_names : ∀ name ∈ names, Path.IsFileName name) (h : d.locate base = .ok place)
    (h_at : d.tree.at? (place ++ names) = some t) :
    d.locate (names.foldl Path.join base) = .ok (place ++ names) := by
  induction names generalizing base place with
  | nil => simpa using h
  | cons name names ih =>
    obtain ⟨x, h_x, h_rest⟩ := Option.bind_eq_some_iff.1 (FileTree.at?_append _ _ _ ▸ h_at)
    cases x with
    | file data => cases h_rest
    | folder entries =>
      rw [FileTree.at?_folder_cons] at h_rest
      obtain ⟨child, h_child, -⟩ := Option.bind_eq_some_iff.1 h_rest
      have h_step := locate_join_eq h_top (h_names name List.mem_cons_self) h h_x (by rw [h_child]; rfl)
      have h_split : place ++ name :: names = (place ++ [name]) ++ names := by simp
      rw [h_split] at h_at ⊢
      exact ih (fun other h_other => h_names other (List.mem_cons_of_mem _ h_other)) h_step h_at

end Disk

end JavaCallGraph
