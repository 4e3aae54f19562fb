import JavaCallGraph.SymbolStore.Archive
import JavaCallGraph.Proofs.Text

/-!
# Names of class files

An archive holds a class under the names of its packages, divided by slashes, and the names of the
classes around it and its own, divided by dollar signs. The entry is read as the same names divided by
dots, also where it stands in the folder of a version. Classes without a name of their own are numbered
and left out.

* `BinaryName` — the names of a class in an archive.
* `BinaryName.split_path`, `BinaryName.split_fileName` — the names of a path.
* `BinaryName.dotted_path` — the path with dots for its marks.
* `class_entries_decode` — what an entry is read as.
-/

namespace JavaCallGraph

/-! ## Names and paths -/

/-- A part of the name of a class, without the marks that stand between parts. -/
def IsNamePart (name : String) : Prop := name ≠ "" ∧ '/' ∉ name.toList ∧ '$' ∉ name.toList

instance (name : String) : Decidable (IsNamePart name) := inferInstanceAs (Decidable (_ ∧ _))

/-- The names of a class in an archive: its packages, then the classes around it and the class itself,
all from the outside in. -/
structure BinaryName where
  packages : List String
  classes : List String
  classes_ne_nil : classes ≠ []
  parts : ∀ name ∈ packages ++ classes, IsNamePart name

namespace BinaryName

def fileName (b : BinaryName) : String := "$".intercalate b.classes

/-- The path of the class file, without its ending. -/
def path (b : BinaryName) : String := "/".intercalate (b.packages ++ [b.fileName])

/-- The name that programs use. -/
def dotted (b : BinaryName) : String := ".".intercalate (b.packages ++ b.classes)

/-- The classes inside others have names of their own: none starts with a number. -/
def IsNamed (b : BinaryName) : Prop :=
  ∀ name ∈ b.classes.tail, ∀ c ∈ name.toList.head?, c.isDigit = false

instance (b : BinaryName) : Decidable b.IsNamed :=
  decidable_of_iff ((b.classes.tail.all fun name => name.toList.head?.all fun c => !c.isDigit) = true)
    (by simp [IsNamed, Option.all_eq_true])

def IsDescription (b : BinaryName) : Prop := b.classes = ["module-info"] ∨ b.classes = ["package-info"]

instance (b : BinaryName) : Decidable b.IsDescription := inferInstanceAs (Decidable (_ ∨ _))

variable (b : BinaryName)

theorem split_fileName : Text.split '$' b.fileName = b.classes :=
  Text.split_intercalate rfl b.classes_ne_nil fun name h_name =>
    (b.parts name (List.mem_append_right _ h_name)).2.2

theorem slash_notMem_fileName : '/' ∉ b.fileName.toList := by
  rw [fileName, String.toList_intercalate]
  refine Text.notMem_intercalate (by simp) ?_
  intro piece h_piece
  obtain ⟨name, h_name, rfl⟩ := List.mem_map.1 h_piece
  exact (b.parts name (List.mem_append_right _ h_name)).2.1

theorem split_path : Text.split '/' b.path = b.packages ++ [b.fileName] := by
  refine Text.split_intercalate rfl (by simp) ?_
  intro name h_name
  rcases List.mem_append.1 h_name with h_name | h_name
  · exact (b.parts name (List.mem_append_left _ h_name)).2.1
  · rw [List.mem_singleton.1 h_name]
    exact b.slash_notMem_fileName

/-- What follows the last slash is the file name, with or without packages. -/
theorem afterLast_path : Text.afterLast '/' b.path = b.fileName := by
  by_cases h_packages : b.packages = []
  · have h_path : b.path = b.fileName := by
      rw [path, h_packages, List.nil_append, String.intercalate_singleton]
    rw [h_path]
    exact Text.afterLast_of_notMem b.slash_notMem_fileName
  · have h_path : b.path = "/".intercalate b.packages ++ "/" ++ b.fileName := by
      rw [path, String.intercalate_append_of_ne_nil h_packages (by simp), String.intercalate_singleton]
    have h_cut : b.path.toList = ("/".intercalate b.packages).toList ++ '/' :: b.fileName.toList := by
      rw [h_path]
      simp
    exact Text.afterLast_append_cons h_cut b.slash_notMem_fileName

theorem startsWith_metadata (h : b.packages.head? ≠ some "META-INF") :
    Text.startsWith "META-INF/" b.path = false := by
  rw [Bool.eq_false_iff, Ne, Text.startsWith_iff]
  rintro ⟨rest, h_rest⟩
  have h_cut : b.path.toList = "META-INF".toList ++ '/' :: rest := by
    rw [← h_rest]
    simp
  have h_split : b.packages ++ [b.fileName] =
      "META-INF" :: (Text.splitChars '/' rest).map String.ofList := by
    rw [← split_path, Text.split, h_cut, Text.splitChars_append_cons,
      Text.splitChars_of_notMem (by simp)]
    simp
  cases h_packages : b.packages with
  | nil =>
    -- a file name alone is one piece, and here are two
    obtain ⟨first, others, h_others⟩ := Text.exists_splitChars_eq_cons '/' rest
    simp [h_packages, h_others] at h_split
  | cons package packages =>
    rw [h_packages] at h h_split
    exact h (congrArg some (List.cons.inj h_split).1)

/-! ## Dots for marks -/

def dotFor (c : Char) : Char := if c == '/' || c == '$' then '.' else c

theorem map_dotFor {name : String} (h : IsNamePart name) : name.toList.map dotFor = name.toList := by
  have h_same : ∀ c ∈ name.toList, dotFor c = c := by
    intro c h_c
    have h_slash : c ≠ '/' := fun h_eq => h.2.1 (h_eq ▸ h_c)
    have h_dollar : c ≠ '$' := fun h_eq => h.2.2 (h_eq ▸ h_c)
    simp [dotFor, h_slash, h_dollar]
  rw [List.map_congr_left h_same, List.map_id']

theorem map_map_dotFor {names : List String} (h : ∀ name ∈ names, IsNamePart name) :
    (names.map String.toList).map (List.map dotFor) = names.map String.toList := by
  rw [List.map_map]
  exact List.map_congr_left fun name h_name => map_dotFor (h name h_name)

/-- Names that are joined in two steps might as well be joined in one. -/
theorem intercalate_append_intercalate {sep : String} {names more : List String} (h : more ≠ []) :
    sep.intercalate (names ++ [sep.intercalate more]) = sep.intercalate (names ++ more) := by
  by_cases h_names : names = []
  · rw [h_names, List.nil_append, List.nil_append, String.intercalate_singleton]
  · rw [String.intercalate_append_of_ne_nil h_names (by simp), String.intercalate_singleton,
      String.intercalate_append_of_ne_nil h_names h]

theorem dotted_fileName : b.fileName.toList.map dotFor = (".".intercalate b.classes).toList := by
  have h_classes : (b.classes.map String.toList).map (List.map dotFor) = b.classes.map String.toList :=
    map_map_dotFor fun name h_name => b.parts name (List.mem_append_right _ h_name)
  have h_mark : "$".toList.map dotFor = ".".toList := by decide
  rw [fileName, String.toList_intercalate, Text.map_intercalate, h_classes, h_mark,
    String.toList_intercalate]

/-- The path with dots for its marks is the dotted name. -/
theorem dotted_path : b.path.toList.map dotFor = b.dotted.toList := by
  have h_packages : (b.packages.map String.toList).map (List.map dotFor) =
      b.packages.map String.toList :=
    map_map_dotFor fun name h_name => b.parts name (List.mem_append_left _ h_name)
  have h_mark : "/".toList.map dotFor = ".".toList := by decide
  calc b.path.toList.map dotFor
      = ".".toList.intercalate (b.packages.map String.toList ++ [b.fileName.toList.map dotFor]) := by
        rw [path, String.toList_intercalate, Text.map_intercalate, List.map_append, List.map_append,
          h_packages, h_mark]
        rfl
    _ = (".".intercalate (b.packages ++ [".".intercalate b.classes])).toList := by
        simp [dotted_fileName]
    _ = b.dotted.toList := by rw [intercalate_append_intercalate b.classes_ne_nil, dotted]

/-! ## Reading entries -/

theorem isAnonymousSegment_iff {name : String} (h : name ≠ "") :
    isAnonymousSegment name = true ↔ ∃ c ∈ name.toList.head?, c.isDigit = true := by
  obtain ⟨c, cs, h_cons⟩ := List.exists_cons_of_ne_nil fun h_nil => h (String.toList_eq_nil_iff.1 h_nil)
  simp [isAnonymousSegment, h_cons]

theorem any_isAnonymousSegment :
    (((Text.split '$' b.fileName).drop 1).any isAnonymousSegment) = !decide b.IsNamed := by
  have h_parts : ∀ name ∈ b.classes.tail, name ≠ "" := fun name h_name =>
    (b.parts name (List.mem_append_right _ (List.mem_of_mem_tail h_name))).1
  rw [split_fileName, List.drop_one, Bool.eq_iff_iff, List.any_eq_true, Bool.not_eq_true', decide_eq_false_iff_not,
    IsNamed]
  constructor
  · rintro ⟨name, h_name, h_anonymous⟩ h_named
    obtain ⟨c, h_c, h_digit⟩ := (isAnonymousSegment_iff (h_parts name h_name)).1 h_anonymous
    rw [h_named name h_name c h_c] at h_digit
    cases h_digit
  · intro h_named
    push Not at h_named
    obtain ⟨name, h_name, c, h_c, h_digit⟩ := h_named
    exact ⟨name, h_name, (isAnonymousSegment_iff (h_parts name h_name)).2
      ⟨c, h_c, Bool.of_not_eq_false h_digit⟩⟩

theorem fileName_eq_iff {name : String} (h : '$' ∉ name.toList) :
    b.fileName = name ↔ b.classes = [name] := by
  constructor
  · intro h_eq
    have h_split := b.split_fileName
    rw [h_eq, Text.split, Text.splitChars_of_notMem h, List.map_singleton, String.ofList_toList] at h_split
    exact h_split.symm
  · intro h_eq
    rw [fileName, h_eq, String.intercalate_singleton]

theorem classEntryName?_of_classPath? {entry : String} (h_path : classPath? entry = some b.path)
    (h_class : ¬ b.IsDescription) :
    classEntryName? entry = if b.IsNamed then some b.dotted else none := by
  have h_info : (b.fileName == "module-info" || b.fileName == "package-info") = false := by
    rw [Bool.or_eq_false_iff, beq_eq_false_iff_ne, beq_eq_false_iff_ne, Ne, Ne,
      b.fileName_eq_iff (by simp), b.fileName_eq_iff (by simp)]
    exact not_or.1 h_class
  have h_dots : String.ofList (b.path.toList.map dotFor) = b.dotted := by
    rw [dotted_path, String.ofList_toList]
  unfold classEntryName?
  rw [h_path]
  simp only [Option.bind_eq_bind, Option.bind_some, afterLast_path, h_info, any_isAnonymousSegment]
  by_cases h_named : b.IsNamed
  · simp only [h_named]
    exact congrArg some h_dots
  · simp [h_named]

end BinaryName

/-- What stands below the folder of versions stands below the folder of metadata. -/
theorem startsWith_metadata_of_versions {path : String}
    (h : Text.startsWith "META-INF/versions/" path = true) : Text.startsWith "META-INF/" path = true := by
  rw [Text.startsWith_iff] at *
  exact List.IsPrefix.trans (by decide) h

theorem classPath?_of_not_metadata {path : String} (h : Text.startsWith "META-INF/" path = false) :
    classPath? (path ++ ".class") = some path := by
  have h_end : Text.dropEnd? ".class" (path ++ ".class") = some path := Text.dropEnd?_eq_some_iff.2 rfl
  have h_start : Text.dropStart? "META-INF/versions/" path = none := by
    rw [Text.dropStart?_eq_none_iff, Bool.eq_false_iff]
    intro h_versions
    rw [startsWith_metadata_of_versions h_versions] at h
    cases h
  simp [classPath?, h_end, h_start, h]

theorem classPath?_of_version {path version : String} (h : '/' ∉ version.toList) :
    classPath? ("META-INF/versions/" ++ version ++ "/" ++ path ++ ".class") = some path := by
  have h_end : Text.dropEnd? ".class" ("META-INF/versions/" ++ version ++ "/" ++ path ++ ".class") =
      some ("META-INF/versions/" ++ version ++ "/" ++ path) := Text.dropEnd?_eq_some_iff.2 rfl
  have h_start : Text.dropStart? "META-INF/versions/" ("META-INF/versions/" ++ version ++ "/" ++ path) =
      some (version ++ "/" ++ path) :=
    Text.dropStart?_eq_some_iff.2 (by simp only [String.append_assoc])
  have h_cut : Text.cutFirst '/' (version ++ "/" ++ path) = some (version, path) :=
    Text.cutFirst_eq_some_iff.2 ⟨by simp, h⟩
  simp [classPath?, h_end, h_start, h_cut]

theorem classPath?_of_other_ending {entry : String} (h : Text.endsWith ".class" entry = false) :
    classPath? entry = none := by
  simp [classPath?, Text.dropEnd?_eq_none_iff.2 h]

theorem classPath?_of_metadata {entry : String} (h : Text.startsWith "META-INF/" entry = true)
    (h_version : Text.startsWith "META-INF/versions/" entry = false) : classPath? entry = none := by
  cases h_end : Text.dropEnd? ".class" entry with
  | none => simp [classPath?, h_end]
  | some path =>
    have h_entry : entry.toList = path.toList ++ ".class".toList := by
      rw [Text.dropEnd?_eq_some_iff.1 h_end, String.toList_append]
    -- without its ending the entry still stands in the folder of metadata, and in no version
    have h_path : Text.startsWith "META-INF/" path = true := by
      rw [Text.startsWith_iff, h_entry] at h
      have h_front : "META-INF".toList ++ ['/'] <+: path.toList ++ ".class".toList := by simpa using h
      exact Text.startsWith_iff.2 (by simpa using Text.isPrefix_of_isPrefix_append h_front (by decide))
    have h_start : Text.dropStart? "META-INF/versions/" path = none := by
      rw [Text.dropStart?_eq_none_iff, Bool.eq_false_iff, Ne, Text.startsWith_iff]
      intro h_versions
      rw [Bool.eq_false_iff, Ne, Text.startsWith_iff, h_entry] at h_version
      exact h_version (h_versions.trans (List.prefix_append _ _))
    simp [classPath?, h_end, h_start, h_path]

theorem classEntryName?_of_classPath?_eq_none {entry : String} (h : classPath? entry = none) :
    classEntryName? entry = none := by
  simp [classEntryName?, h]

/-- What the entries of an archive are read as. A class file is read as the name of its class with dots,
unless it or a class around it is numbered, and so is one in the folder of a version. Other files, and all
that stands in the folder of metadata outside the versions, hold no class. -/
theorem class_entries_decode :
    (∀ (b : BinaryName) (version : String), b.packages.head? ≠ some "META-INF" → ¬ b.IsDescription →
      '/' ∉ version.toList →
      ∀ entry ∈ [b.path ++ ".class", "META-INF/versions/" ++ version ++ "/" ++ b.path ++ ".class"],
        (b.IsNamed → classEntryName? entry = some b.dotted) ∧
        (¬ b.IsNamed → classEntryName? entry = none)) ∧
    (∀ entry, Text.endsWith ".class" entry = false → classEntryName? entry = none) ∧
    ∀ entry, Text.startsWith "META-INF/" entry = true → Text.startsWith "META-INF/versions/" entry = false →
      classEntryName? entry = none := by
  refine ⟨fun b version h_package h_class h_version entry h_entry => ?_, fun entry h_end => ?_,
    fun entry h_start h_version => ?_⟩
  · have h_path : classPath? entry = some b.path := by
      simp only [List.mem_cons, List.not_mem_nil, or_false] at h_entry
      rcases h_entry with rfl | rfl
      · exact classPath?_of_not_metadata (b.startsWith_metadata h_package)
      · exact classPath?_of_version h_version
    rw [b.classEntryName?_of_classPath? h_path h_class]
    exact ⟨fun h_named => if_pos h_named, fun h_named => if_neg h_named⟩
  · exact classEntryName?_of_classPath?_eq_none (classPath?_of_other_ending h_end)
  · exact classEntryName?_of_classPath?_eq_none (classPath?_of_metadata h_start h_version)

namespace BinaryName

/-- The entry of a map and a class in it without a name. -/
def mapEntry : BinaryName := ⟨["java", "util"], ["Map", "Entry"], by decide, by decide +kernel⟩

def mapEntryFirst : BinaryName := ⟨["java", "util"], ["Map", "Entry", "1"], by decide, by decide +kernel⟩

end BinaryName

theorem map_entry_decodes :
    classEntryName? "java/util/Map$Entry.class" = some "java.util.Map.Entry" ∧
    classEntryName? "META-INF/versions/11/java/util/Map$Entry.class" = some "java.util.Map.Entry" ∧
    classEntryName? "java/util/Map$Entry$1.class" = none ∧
    classEntryName? "META-INF/MANIFEST.MF" = none ∧ classEntryName? "META-INF/extra/A.class" = none := by
  obtain ⟨h_class, h_end, h_metadata⟩ := class_entries_decode
  have h_entry := h_class BinaryName.mapEntry "11" (by decide) (by decide) (by decide)
  have h_first := h_class BinaryName.mapEntryFirst "11" (by decide) (by decide) (by decide)
  have h_dotted : some BinaryName.mapEntry.dotted = some "java.util.Map.Entry" := by decide +kernel
  refine ⟨?_, ?_, ?_, ?_, ?_⟩
  · exact ((h_entry _ (by decide +kernel)).1 (by decide +kernel)).trans h_dotted
  · exact ((h_entry _ (by decide +kernel)).1 (by decide +kernel)).trans h_dotted
  · exact (h_first _ (by decide +kernel)).2 (by decide +kernel)
  · exact h_end _ (by decide +kernel)
  · exact h_metadata _ (by decide +kernel) (by decide +kernel)

end JavaCallGraph
