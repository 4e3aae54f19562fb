import JavaCallGraph.Proofs.Scan

/-!
# Disks without some files

What is left when files are deleted: folders stay, other files stay as they are, and every path leads to
where it led before, unless it led to a deleted file. If only Java files are deleted, the ignore files are
all there, and a scan finds what it found before without the deleted files.

* `FileTree.without`, `Disk.without` — a tree and a disk without some files.
* `FileTree.at?_without` — what stands at a path of names afterwards.
* `Disk.Deletable` — Java files that a disk has.
* `Disk.locate_without_iff`, `Disk.find_without_iff`, `Disk.isFolder_without` — paths afterwards.
* `Disk.scan_without` — a scan afterwards.
-/

namespace JavaCallGraph

variable {gone : List String → Bool}

/-! ## Trees -/

namespace FileTree

mutual

/-- The tree at `place` without the files at places that are `gone`. -/
def without (gone : List String → Bool) (place : List String) : FileTree → FileTree
  | file data => .file data
  | folder entries => .folder (withoutAll gone place entries)

/-- The entries of the folder at `place` without the files at places that are `gone`. -/
def withoutAll (gone : List String → Bool) (place : List String) :
    List (String × FileTree) → List (String × FileTree)
  | [] => []
  | (name, t) :: entries =>
    if t.isFile && gone (place ++ [name]) then withoutAll gone place entries
    else (name, without gone (place ++ [name]) t) :: withoutAll gone place entries

end

@[simp] theorem isFolder_without (place : List String) (t : FileTree) :
    (t.without gone place).isFolder = t.isFolder := by
  cases t with
  | file data => rw [without]
  | folder entries =>
    rw [without]
    rfl

theorem without_eq_file_iff {place : List String} {t : FileTree} {data : FileData} :
    t.without gone place = .file data ↔ t = .file data := by
  cases t with
  | file data => rw [without]
  | folder entries => simp [without]

theorem lookup_withoutAll (place : List String) {entries : List (String × FileTree)}
    (h_nodup : (entries.map Prod.fst).Nodup) (k : String) :
    (withoutAll gone place entries).lookup k =
      (entries.lookup k).bind fun t =>
        if t.isFile && gone (place ++ [k]) then none else some (t.without gone (place ++ [k])) := by
  induction entries with
  | nil => rw [withoutAll]; rfl
  | cons head entries ih =>
    obtain ⟨name, t⟩ := head
    obtain ⟨h_new, h_rest⟩ := List.nodup_cons.1 h_nodup
    rw [withoutAll]
    by_cases h_k : k = name
    · subst h_k
      rw [List.lookup_cons_self, Option.bind_some]
      split
      · -- no later entry has the name of the deleted file
        have h_none : entries.lookup k = none := KeyMap.lookup_eq_none_of_ne fun e h_e h_eq =>
          h_new (h_eq ▸ List.mem_map.2 ⟨e, h_e, rfl⟩)
        rw [ih h_rest, h_none, Option.bind_none]
      · rw [List.lookup_cons_self]
    · rw [KeyMap.lookup_cons_ne h_k, ← ih h_rest]
      split
      · rfl
      · rw [KeyMap.lookup_cons_ne h_k]

/-- What stands at a path of names when files were deleted. -/
theorem at?_without {t : FileTree} (h_named : t.WellNamed) {place : List String}
    (h_kept : (t.isFile && gone place) = false) (names : List String) :
    (t.without gone place).at? names =
      (t.at? names).bind fun x =>
        if x.isFile && gone (place ++ names) then none else some (x.without gone (place ++ names)) := by
  induction names generalizing t place with
  | nil => rw [List.append_nil, at?, at?, Option.bind_some, h_kept, if_neg Bool.false_ne_true]
  | cons name names ih =>
    cases t with
    | file data => rw [without]; rfl
    | folder entries =>
      rw [without, at?_folder_cons, at?_folder_cons, lookup_withoutAll place h_named.1]
      cases h_child : entries.lookup name with
      | none => rfl
      | some child =>
        have h_split : place ++ name :: names = (place ++ [name]) ++ names := by simp
        rw [Option.bind_some, Option.bind_some, h_split]
        by_cases h_gone : (child.isFile && gone (place ++ [name])) = true
        · rw [if_pos h_gone, Option.bind_none]
          -- a deleted file had nothing below it
          cases child with
          | folder entries => cases h_gone
          | file data =>
            cases names with
            | nil => rw [List.append_nil, at?, Option.bind_some, if_pos h_gone]
            | cons key names => rfl
        · rw [if_neg h_gone, Option.bind_some]
          exact ih (h_named.2.of_mem (KeyMap.mem_of_lookup h_child)).2 (Bool.eq_false_iff.2 h_gone)

end FileTree

/-! ## Walks -/

def OnlyJava (gone : List String → Bool) : Prop :=
  ∀ place, gone place = true → (place.getLast?.any Path.isJava) = true

namespace OnlyJava

open FileTree ScanOptions

theorem not_gone (h_java : OnlyJava gone) {place names : List String}
    (h_names : names.getLast?.any (fun name => !Path.isJava name) = true) :
    gone (place ++ names) = false := by
  rw [Bool.eq_false_iff]
  intro h_gone
  have h_last := h_java _ h_gone
  rcases List.eq_nil_or_concat names with rfl | ⟨init, name, rfl⟩
  · cases h_names
  · rw [List.concat_eq_append] at h_names h_last
    rw [← List.append_assoc, List.getLast?_concat, Option.any_some] at h_last
    rw [List.getLast?_concat, Option.any_some, h_last] at h_names
    cases h_names

section Tree

variable {t : FileTree} {place : List String}

theorem rulesAt_without (h_java : OnlyJava gone) (h_named : t.WellNamed)
    (h_kept : (t.isFile && gone place) = false) (names : List String)
    (h_names : names.getLast?.any (fun name => !Path.isJava name) = true) :
    FolderRules.rulesAt (t.without gone place) names = FolderRules.rulesAt t names := by
  rw [FolderRules.rulesAt, FolderRules.rulesAt, at?_without h_named h_kept, h_java.not_gone h_names]
  cases t.at? names with
  | none => rfl
  | some x => cases x <;> simp [without]

/-- The ignore files of a folder are no Java files, so its rules are the same afterwards. -/
theorem ofFolder_without (h_java : OnlyJava gone) (h_named : t.WellNamed)
    (h_kept : (t.isFile && gone place) = false) (options : ScanOptions) (depth : Nat) :
    FolderRules.ofFolder options depth (t.without gone place) = .ofFolder options depth t := by
  rw [FolderRules.ofFolder, FolderRules.ofFolder,
    h_java.rulesAt_without h_named h_kept [".ignore"] (by decide +kernel),
    h_java.rulesAt_without h_named h_kept [".gitignore"] (by decide +kernel),
    h_java.rulesAt_without h_named h_kept [".git", "info", "exclude"] (by decide +kernel)]

end Tree

section Walk

variable {options : ScanOptions}

mutual

/-- A walk finds the files that are left. -/
theorem walk_without (h_java : OnlyJava gone) {chain : List FolderRules} {place : List String}
    {name : String} :
    ∀ {t : FileTree}, t.WellNamed → (t.isFile && gone place) = false →
      options.walk chain place name (t.without gone place) =
        (options.walk chain place name t).filter (!gone ·)
  | .file data, _, h_kept => by
    have h_place : gone place = false := h_kept
    rw [without, walk]
    split <;> simp [h_place]
  | .folder entries, h_named, h_kept => by
    have h_rules := h_java.ofFolder_without h_named h_kept options place.length
    rw [without] at h_rules ⊢
    rw [walk, walk, h_rules]
    exact walkEntries_without h_java h_named.2

theorem walkEntries_without (h_java : OnlyJava gone) {chain : List FolderRules}
    {place : List String} :
    ∀ {entries : List (String × FileTree)}, WellNamedAll entries →
      options.walkEntries chain place (withoutAll gone place entries) =
        (options.walkEntries chain place entries).filter (!gone ·)
  | [], _ => by
    rw [withoutAll, walkEntries]
    rfl
  | (name, t) :: entries, ⟨_, h_tree, h_rest⟩ => by
    rw [withoutAll, walkEntries, List.filter_append]
    by_cases h_gone : (t.isFile && gone (place ++ [name])) = true
    · -- the entry is a deleted file, which is all that the walk could find there
      rw [if_pos h_gone, walkEntries_without h_java h_rest]
      cases t with
      | folder entries => cases h_gone
      | file data =>
        have h_place : gone (place ++ [name]) = true := h_gone
        rw [walk]
        split
        · rfl
        · split <;> simp [h_place]
    · rw [if_neg h_gone, walkEntries, isFolder_without, walkEntries_without h_java h_rest,
        walk_without h_java h_tree (Bool.eq_false_iff.2 h_gone)]
      split <;> rfl

end

theorem rulesAbove_without (h_java : OnlyJava gone) {t : FileTree} (h_named : t.WellNamed)
    (h_kept : (t.isFile && gone []) = false) (place : List String) :
    options.rulesAbove (t.without gone []) place = options.rulesAbove t place := by
  rw [rulesAbove, rulesAbove]
  refine congrArg List.reverse (List.map_congr_left fun depth _ => ?_)
  rw [at?_without h_named h_kept, List.nil_append]
  cases h_at : t.at? (place.take depth) with
  | none => rfl
  | some x =>
    rw [Option.bind_some]
    split
    · -- a file has no rules, and nothing has none either
      cases x with
      | file data => rfl
      | folder entries => simp_all [isFile]
    · rename_i h_stays
      exact h_java.ofFolder_without (h_named.of_at? h_at).1 (Bool.eq_false_iff.2 h_stays) options depth

end Walk

end OnlyJava

/-! ## Disks -/

def Disk.without (d : Disk) (gone : List String → Bool) : Disk :=
  { d with tree := d.tree.without gone [] }

/-- Java files that a disk has. -/
structure Disk.Deletable (d : Disk) (gone : List String → Bool) : Prop where
  file : ∀ place, gone place = true → ∃ data, d.tree.at? place = some (.file data)
  java : OnlyJava gone

namespace Disk

variable {d : Disk}

/-- Where a path leads from a file: nowhere else. -/
theorem eq_of_follow_file {seen names place : List String} {data : FileData}
    (h_file : d.tree.at? seen.reverse = some (.file data)) (h : d.follow seen names = .ok place) :
    place = seen.reverse := by
  cases names with
  | nil =>
    rw [follow.eq_def] at h
    exact (Except.ok.inj h).symm
  | cons name names =>
    rw [follow_cons_eq_ok_iff, h_file] at h
    cases h.1

namespace Deletable

theorem not_gone_nil (h_gone : d.Deletable gone) : gone [] = false := by
  rw [Bool.eq_false_iff]
  intro h_nil
  cases h_gone.java _ h_nil

theorem not_gone_of_folder (h_gone : d.Deletable gone) {place : List String}
    {entries : List (String × FileTree)} (h_at : d.tree.at? place = some (.folder entries)) :
    gone place = false := by
  rw [Bool.eq_false_iff]
  intro h_place
  obtain ⟨data, h_data⟩ := h_gone.file place h_place
  cases h_at.symm.trans h_data

/-- The folder of what is there is not deleted. -/
theorem not_gone_of_snoc (h_gone : d.Deletable gone) {place : List String} {name : String}
    {t : FileTree} (h_at : d.tree.at? (place ++ [name]) = some t) : gone place = false := by
  rw [FileTree.at?_append] at h_at
  obtain ⟨x, h_x, h_t⟩ := Option.bind_eq_some_iff.1 h_at
  cases x with
  | file data => cases h_t
  | folder entries => exact h_gone.not_gone_of_folder h_x

section Without

variable (h_disk : d.WellFormed) (h_gone : d.Deletable gone)

include h_disk h_gone

theorem at?_without {place : List String} (h_place : gone place = false) :
    (d.without gone).tree.at? place = (d.tree.at? place).map (·.without gone place) := by
  rw [Disk.without, FileTree.at?_without h_disk.tree (by simp [h_gone.not_gone_nil]), List.nil_append,
    h_place]
  cases d.tree.at? place <;> simp

theorem at?_without_of_gone {place : List String} (h_place : gone place = true) :
    (d.without gone).tree.at? place = none := by
  obtain ⟨data, h_data⟩ := h_gone.file place h_place
  rw [Disk.without, FileTree.at?_without h_disk.tree (by simp [h_gone.not_gone_nil]), List.nil_append,
    h_data, Option.bind_some, h_place]
  rfl

theorem follow_without_iff {seen names place : List String} (h_seen : gone seen.reverse = false) :
    (d.without gone).follow seen names = .ok place ↔
      d.follow seen names = .ok place ∧ gone place = false := by
  induction names generalizing seen with
  | nil =>
    rw [follow.eq_def, follow.eq_def d]
    constructor
    · intro h
      cases h
      exact ⟨rfl, h_seen⟩
    · exact And.left
  | cons name names ih =>
    rw [follow_cons_eq_ok_iff, follow_cons_eq_ok_iff, at?_without h_disk h_gone h_seen]
    cases h_at : d.tree.at? seen.reverse with
    | none => simp
    | some t =>
      simp only [Option.map_some, Option.any_some, FileTree.isFolder_without, and_assoc]
      refine and_congr_right fun h_folder => ?_
      rw [or_and_right]
      refine or_congr ?_ ?_
      · -- back to the folder that holds this one
        constructor
        · rintro ⟨h_name, last, before, rfl, h⟩
          rw [List.reverse_cons] at h_at
          obtain ⟨h, h_place⟩ := (ih (h_gone.not_gone_of_snoc h_at)).1 h
          exact ⟨⟨h_name, last, before, rfl, h⟩, h_place⟩
        · rintro ⟨⟨h_name, last, before, rfl, h⟩, h_place⟩
          rw [List.reverse_cons] at h_at
          exact ⟨h_name, last, before, rfl, (ih (h_gone.not_gone_of_snoc h_at)).2 ⟨h, h_place⟩⟩
      · by_cases h_entry : gone (seen.reverse ++ [name]) = true
        · -- a path that led on from a deleted file ended there
          obtain ⟨data, h_data⟩ := h_gone.file _ h_entry
          rw [h_gone.at?_without_of_gone h_disk h_entry]
          constructor
          · rintro ⟨-, h_none, -⟩
            cases h_none
          · rintro ⟨⟨-, -, h⟩, h_place⟩
            rw [← List.reverse_cons] at h_data h_entry
            rw [eq_of_follow_file h_data h, h_entry] at h_place
            cases h_place
        · rw [Bool.not_eq_true] at h_entry
          rw [at?_without h_disk h_gone h_entry, Option.isSome_map,
            ih (by rwa [List.reverse_cons]), and_assoc, and_assoc]

theorem locate_without_iff {path : String}
    {place : List String} :
    (d.without gone).locate path = .ok place ↔ d.locate path = .ok place ∧ gone place = false := by
  have h_names : (d.without gone).names? path = d.names? path := rfl
  rw [locate, locate, h_names]
  cases d.names? path with
  | none => simp
  | some names => exact follow_without_iff h_disk h_gone h_gone.not_gone_nil

/-- The folders are all there. -/
theorem isFolder_without (path : String) :
    (d.without gone).isFolder path = d.isFolder path := by
  rw [Bool.eq_iff_iff, isFolder_iff, isFolder_iff]
  constructor
  · rintro ⟨place, entries, h_locate, h_at⟩
    obtain ⟨h_locate, h_place⟩ := (h_gone.locate_without_iff h_disk).1 h_locate
    rw [at?_without h_disk h_gone h_place] at h_at
    obtain ⟨t, h_t, h_without⟩ := Option.map_eq_some_iff.1 h_at
    have h_folder : t.isFolder = true := by
      rw [← FileTree.isFolder_without, h_without]
      rfl
    obtain ⟨entries', rfl⟩ := FileTree.eq_folder_of_isFolder h_folder
    exact ⟨place, entries', h_locate, h_t⟩
  · rintro ⟨place, entries, h_locate, h_at⟩
    have h_place := h_gone.not_gone_of_folder h_at
    refine ⟨place, FileTree.withoutAll gone place entries,
      (h_gone.locate_without_iff h_disk).2 ⟨h_locate, h_place⟩, ?_⟩
    rw [at?_without h_disk h_gone h_place, h_at, Option.map_some, FileTree.without]

/-- The files that are not deleted are as they were. -/
theorem find_without_iff {path : String}
    {data : FileData} :
    (d.without gone).find path = .ok (.file data) ↔
      d.find path = .ok (.file data) ∧ (d.locate path).toOption.any gone = false := by
  rw [find_eq_ok_file_iff, find_eq_ok_file_iff]
  constructor
  · rintro ⟨place, h_locate, h_at, h_slash⟩
    obtain ⟨h_locate, h_place⟩ := (h_gone.locate_without_iff h_disk).1 h_locate
    rw [at?_without h_disk h_gone h_place] at h_at
    obtain ⟨t, h_t, h_without⟩ := Option.map_eq_some_iff.1 h_at
    rw [FileTree.without_eq_file_iff.1 h_without] at h_t
    exact ⟨⟨place, h_locate, h_t, h_slash⟩, by rw [h_locate]; exact h_place⟩
  · rintro ⟨⟨place, h_locate, h_at, h_slash⟩, h_kept⟩
    rw [h_locate] at h_kept
    refine ⟨place, (h_gone.locate_without_iff h_disk).2 ⟨h_locate, h_kept⟩, ?_, h_slash⟩
    rw [at?_without h_disk h_gone h_kept, h_at, Option.map_some, FileTree.without]

/-- A scan finds what it found before, without the deleted files. -/
theorem scan_without {root : String}
    (h_root : d.isFolder root = true) (options : ScanOptions) :
    (d.without gone).scan options root =
      (d.scan options root).filter fun path => !(d.locate path).toOption.any gone := by
  obtain ⟨place, entries, h_locate, h_at⟩ := isFolder_iff.1 h_root
  have h_place := h_gone.not_gone_of_folder h_at
  have h_at' : (d.without gone).tree.at? place = some ((FileTree.folder entries).without gone place) := by
    rw [at?_without h_disk h_gone h_place, h_at, Option.map_some]
  have h_found : (d.without gone).foundBelow options root place
      ((FileTree.folder entries).without gone place) =
      (d.foundBelow options root place (.folder entries)).filter (!gone ·) := by
    rw [foundBelow, foundBelow, ← Path.mergeSort_filter, Disk.without,
      h_gone.java.rulesAbove_without h_disk.tree (by simp [h_gone.not_gone_nil]),
      h_gone.java.walk_without (h_disk.tree.of_at? h_at).1 (by simp [h_place])]
  rw [scan_eq ((h_gone.locate_without_iff h_disk).2 ⟨h_locate, h_place⟩) h_at', h_found,
    scan_eq h_locate h_at, List.filter_map]
  refine congrArg _ (List.filter_congr fun file h_file => ?_)
  rw [Function.comp_apply, (locate_pathBelow h_disk h_locate h_at h_file).1]
  rfl

end Without

end Deletable

end Disk

end JavaCallGraph
