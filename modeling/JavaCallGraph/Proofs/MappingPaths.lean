import JavaCallGraph.Endpoint
import JavaCallGraph.Proofs.Text

/-!
# Paths of mappings

A mapping gives its path as a literal or as an array of literals, of which the first counts. The array is
cut at its first comma, wherever that stands: a path that has a comma itself, as in the bounds of a
pattern, is cut short.

* `PathElement`, `arrayText` — arrays of paths as they are written.
* `pathIn_quoted`, `pathIn_arrayText` — what is read from a literal and from an array.
* `first_array_path_iff` — when an array gives its first path.
-/

namespace JavaCallGraph

open Java

/-! ## Arrays of paths -/

def quoted (path : String) : String := "\"" ++ path ++ "\""

/-- A path as it stands in an array: in quotes, with blanks around it. -/
structure PathElement where
  before : String
  path : String
  after : String
  blank : ∀ c ∈ before.toList ++ after.toList, Text.isBlank c = true
  quote_notMem : '"' ∉ path.toList

def PathElement.text (e : PathElement) : String := e.before ++ quoted e.path ++ e.after

/-- The elements of an array, with the commas between them. -/
def elementsText (elements : List PathElement) : String :=
  ",".intercalate (elements.map PathElement.text)

def arrayText (elements : List PathElement) : String := "\x7b" ++ elementsText elements ++ "\x7d"

def pathIn (raw : String) : String := unquote (firstElement (Text.trimText raw))

/-! ## Quotes -/

theorem unquote_quoted (path : String) : unquote (quoted path) = path := by
  have h_start : Text.dropStart? "\"" (quoted path) = some (path ++ "\"") :=
    Text.dropStart?_eq_some_iff.2 (by rw [quoted, String.append_assoc])
  have h_end : Text.dropEnd? "\"" (path ++ "\"") = some path := Text.dropEnd?_eq_some_iff.2 rfl
  simp [unquote, h_start, h_end]

/-- Where the closing quote is missing, the opening one is taken off alone. -/
theorem unquote_open {path : String} (h : '"' ∉ path.toList) : unquote ("\"" ++ path) = path := by
  have h_start : Text.dropStart? "\"" ("\"" ++ path) = some path := Text.dropStart?_eq_some_iff.2 rfl
  have h_end : Text.dropEnd? "\"" path = none := by
    rw [Text.dropEnd?_eq_none_iff, Bool.eq_false_iff, Ne, Text.endsWith_iff]
    intro h_suffix
    exact h (h_suffix.subset List.mem_cons_self)
  simp [unquote, h_start, h_end]

theorem toList_quoted (path : String) : (quoted path).toList = '"' :: path.toList ++ ['"'] := by
  simp [quoted]

theorem trimText_quoted (path : String) : Text.trimText (quoted path) = quoted path := by
  have h_trim : Text.trim (quoted path).toList = (quoted path).toList := by
    rw [toList_quoted, Text.trim_eq_self_iff, List.getLast?_concat]
    simp [Text.isBlank]
  rw [Text.trimText, h_trim, String.ofList_toList]

theorem pathIn_quoted (path : String) : pathIn (quoted path) = path := by
  have h_start : Text.dropStart? "\x7b" (quoted path) = none := by
    rw [Text.dropStart?_eq_none_iff, Bool.eq_false_iff, Ne, Text.startsWith_iff]
    simp [quoted]
  rw [pathIn, trimText_quoted, firstElement, h_start, unquote_quoted]

/-! ## The first element -/

namespace PathElement

variable (e : PathElement)

theorem blank_before : ∀ c ∈ e.before.toList, Text.isBlank c = true := fun c h_c =>
  e.blank c (List.mem_append_left _ h_c)

theorem blank_after : ∀ c ∈ e.after.toList, Text.isBlank c = true := fun c h_c =>
  e.blank c (List.mem_append_right _ h_c)

theorem toList_text : e.text.toList =
    e.before.toList ++ '"' :: (e.path.toList ++ '"' :: e.after.toList) := by
  simp [text, quoted]

/-- An element ends in its closing quote or in a blank. -/
theorem getLast?_append_text {front : List Char} {c : Char}
    (h_c : c ∈ (front ++ e.text.toList).getLast?) : c = '"' ∨ Text.isBlank c = true := by
  have h_split : front ++ e.text.toList =
      (front ++ e.before.toList ++ '"' :: e.path.toList) ++ '"' :: e.after.toList := by
    simp [toList_text]
  rw [h_split, List.getLast?_append_cons] at h_c
  rcases List.mem_cons.1 (List.mem_of_getLast? h_c) with h_quote | h_after
  · exact .inl h_quote
  · exact .inr (e.blank_after c h_after)

theorem takeWhile_text (h : ',' ∉ e.path.toList) : e.text.toList.takeWhile (· != ',') = e.text.toList := by
  rw [List.takeWhile_eq_self_iff, toList_text]
  intro c h_c
  have h_ne : c ≠ ',' := by
    rintro rfl
    simp only [List.mem_append, List.mem_cons, h, false_or] at h_c
    rcases h_c with h_c | h_c | h_c | h_c
    · exact absurd (e.blank_before _ h_c) (by decide)
    · exact absurd h_c (by decide)
    · exact absurd h_c (by decide)
    · exact absurd (e.blank_after _ h_c) (by decide)
  simpa using h_ne

theorem takeWhile_text_of_comma (h : ',' ∈ e.path.toList) : e.text.toList.takeWhile (· != ',') =
    e.before.toList ++ '"' :: e.path.toList.takeWhile (· != ',') := by
  have h_before : ∀ c ∈ e.before.toList, (c != ',') = true := by
    intro c h_c
    have h_ne : c ≠ ',' := by
      rintro rfl
      exact absurd (e.blank_before _ h_c) (by decide)
    simpa using h_ne
  rw [toList_text, List.takeWhile_append_of_pos h_before, List.takeWhile_cons_of_pos (by decide),
    Text.takeWhile_append_of_mem h]

end PathElement

theorem elementsText_cons (e : PathElement) (es : List PathElement) :
    elementsText (e :: es) = e.text ∨ ∃ more, elementsText (e :: es) = e.text ++ "," ++ more := by
  cases es with
  | nil =>
    left
    rw [elementsText, List.map_singleton, String.intercalate_singleton]
  | cons e' es =>
    right
    exact ⟨elementsText (e' :: es), by rw [elementsText, List.map_cons, List.map_cons,
      String.intercalate_cons_cons, elementsText, List.map_cons]⟩

theorem takeWhile_elementsText (e : PathElement) (es : List PathElement) :
    (elementsText (e :: es)).toList.takeWhile (· != ',') = e.text.toList.takeWhile (· != ',') := by
  rcases elementsText_cons e es with h | ⟨more, h⟩
  · rw [h]
  · rw [h, String.toList_append, String.toList_append, List.append_assoc]
    exact Text.takeWhile_append_cons ',' _ more.toList

/-- The elements end as the last of them does. -/
theorem getLast?_elementsText {elements : List PathElement} {c : Char}
    (h_c : c ∈ (elementsText elements).toList.getLast?) : c = '"' ∨ Text.isBlank c = true := by
  rcases List.eq_nil_or_concat elements with rfl | ⟨init, last, rfl⟩
  · simp [elementsText] at h_c
  · have h_end : ∃ front, (elementsText (init ++ [last])).toList = front ++ last.text.toList := by
      by_cases h_init : init = []
      · exact ⟨[], by simp [elementsText, h_init]⟩
      · refine ⟨(elementsText init ++ ",").toList, ?_⟩
        rw [elementsText, List.map_append, String.intercalate_append_of_ne_nil (by simpa using h_init)
          (by simp), List.map_singleton, String.intercalate_singleton, String.toList_append, elementsText]
    obtain ⟨front, h_front⟩ := h_end
    rw [List.concat_eq_append, h_front] at h_c
    exact last.getLast?_append_text h_c

theorem firstElement_arrayText (e : PathElement) (es : List PathElement) :
    firstElement (Text.trimText (arrayText (e :: es))) =
      Text.trimText (String.ofList (e.text.toList.takeWhile (· != ','))) := by
  have h_trim : Text.trimText (arrayText (e :: es)) = arrayText (e :: es) := by
    have h_chars : (arrayText (e :: es)).toList =
        '\x7b' :: (elementsText (e :: es)).toList ++ ['\x7d'] := by
      simp [arrayText]
    rw [Text.trimText, h_chars, Text.trim_eq_self_iff.2, ← h_chars, String.ofList_toList]
    rw [List.getLast?_concat]
    simp [Text.isBlank]
  have h_start : Text.dropStart? "\x7b" (arrayText (e :: es)) =
      some (elementsText (e :: es) ++ "\x7d") :=
    Text.dropStart?_eq_some_iff.2 (by rw [arrayText, String.append_assoc])
  have h_inner : Text.dropTrailing '\x7d' (elementsText (e :: es) ++ "\x7d").toList =
      (elementsText (e :: es)).toList := by
    -- the last element does not end in a brace, so only the closing one is taken off
    have h_last : ∀ c ∈ (elementsText (e :: es)).toList.getLast?, c ≠ '\x7d' := by
      rintro c h_c rfl
      rcases getLast?_elementsText h_c with h_quote | h_blank
      · exact absurd h_quote (by decide)
      · exact absurd h_blank (by decide)
    rw [String.toList_append]
    exact (Text.dropTrailing_append_self '\x7d' _).trans (Text.dropTrailing_eq_self h_last)
  rw [h_trim, firstElement, h_start]
  simp only [h_inner, String.ofList_toList, Text.fst_cutFirst_getD, takeWhile_elementsText]

/-- The front part of a path, up to its first comma and without blanks at the end. -/
def upToComma (path : String) : String :=
  String.ofList (Text.trimEnd (path.toList.takeWhile (· != ',')))

theorem of_mem_upToComma {path : String} {c : Char} (h : c ∈ (upToComma path).toList) :
    c ∈ path.toList ∧ c ≠ ',' := by
  rw [upToComma, String.toList_ofList, Text.trimEnd, List.mem_reverse] at h
  have h_take := List.mem_reverse.1 ((List.dropWhile_sublist _).subset h)
  exact ⟨(List.takeWhile_sublist _).subset h_take, by simpa using List.mem_takeWhile_imp h_take⟩

theorem upToComma_ne {path : String} (h : ',' ∈ path.toList) : upToComma path ≠ path := by
  intro h_eq
  rw [← h_eq] at h
  exact (of_mem_upToComma h).2 rfl

theorem pathIn_arrayText {e : PathElement} (h : ',' ∉ e.path.toList) (es : List PathElement) :
    pathIn (arrayText (e :: es)) = e.path := by
  have h_text : e.text.toList = e.before.toList ++ (quoted e.path).toList ++ e.after.toList := by
    simp [PathElement.text]
  have h_trim : Text.trimText e.text = quoted e.path := by
    rw [Text.trimText, h_text, Text.trim_of_blanks e.blank_before e.blank_after]
    exact trimText_quoted e.path
  rw [pathIn, firstElement_arrayText, e.takeWhile_text h, String.ofList_toList, h_trim, unquote_quoted]

/-- A path with a comma is cut there, and the opening quote taken off. -/
theorem pathIn_arrayText_of_comma {e : PathElement} (h : ',' ∈ e.path.toList) (es : List PathElement) :
    pathIn (arrayText (e :: es)) = upToComma e.path := by
  -- the closing quote is cut off with the rest, so trimming works on the path itself
  have h_trim : Text.trim (e.before.toList ++ '"' :: e.path.toList.takeWhile (· != ',')) =
      ("\"" ++ upToComma e.path).toList := by
    rw [Text.trim, Text.trimStart_append_of_blank e.blank_before, Text.trimStart,
      List.dropWhile_cons_of_neg (by decide), Text.trimEnd_cons (by decide)]
    simp [upToComma]
  have h_quote : '"' ∉ (upToComma e.path).toList := fun h_mem =>
    e.quote_notMem (of_mem_upToComma h_mem).1
  rw [pathIn, firstElement_arrayText, e.takeWhile_text_of_comma h, Text.trimText, String.toList_ofList,
    h_trim, String.ofList_toList, unquote_open h_quote]

theorem pathIn_arrayText_eq_iff (e : PathElement) (es : List PathElement) :
    pathIn (arrayText (e :: es)) = e.path ↔ ',' ∉ e.path.toList := by
  constructor
  · intro h_eq h_comma
    rw [pathIn_arrayText_of_comma h_comma] at h_eq
    exact upToComma_ne h_comma h_eq
  · intro h_comma
    exact pathIn_arrayText h_comma es

/-! ## Endpoints -/

theorem mappingPath?_eq (mapping : Annotation) :
    mappingPath? mapping = (mapping.valueOf ["path", "value"]).map pathIn := rfl

def methodMapping? (m : Method) : Option Annotation := m.annotations.find? fun a => (verbOf? a).isSome

def controllerMapping? (d : TypeDecl) : Option Annotation :=
  d.annotations.find? (·.name == requestMapping)

theorem exists_verb {annotations : List Annotation} {mapping : Annotation}
    (h : annotations.find? (fun a => (verbOf? a).isSome) = some mapping) :
    ∃ verb, annotations.findSome? (fun a => (verbOf? a).map (·, a)) = some (verb, mapping) := by
  induction annotations with
  | nil => cases h
  | cons a annotations ih =>
    rw [List.find?_cons] at h
    rw [List.findSome?_cons]
    cases h_verb : verbOf? a with
    | none =>
      rw [h_verb] at h
      exact ih h
    | some verb =>
      rw [h_verb] at h
      cases h
      exact ⟨verb, rfl⟩

/-- A method of a controller with a mapping is an endpoint, with the paths that the mappings give. -/
theorem exists_endpoint {u : CompilationUnit} {scope : Scope} {mapping : Annotation}
    (h_scope : scope ∈ Scope.callables u) (h_controller : isController scope.owner = true)
    (h_mapping : methodMapping? scope.method = some mapping) :
    ∃ endpoint ∈ Endpoint.ofUnit u, endpoint.method = scope.caller.text ∧
      endpoint.methodPath = (mappingPath? mapping).getD "" ∧
      endpoint.classPath = ((controllerMapping? scope.owner).bind mappingPath?).getD "" := by
  obtain ⟨verb, h_verb⟩ := exists_verb h_mapping
  refine ⟨⟨scope.caller.text, verb, (mappingPath? mapping).getD "", controllerPath scope.owner,
    joinPaths (controllerPath scope.owner) ((mappingPath? mapping).getD "")⟩, ?_, rfl, rfl, rfl⟩
  rw [Endpoint.ofUnit, List.mem_filterMap]
  refine ⟨scope, List.mem_filter.2 ⟨h_scope, h_controller⟩, ?_⟩
  rw [Endpoint.ofScope?, h_verb]
  rfl

theorem getD_mappingPath?_quoted {mapping : Annotation} {path : String}
    (h : mapping.valueOf ["path", "value"] = some (quoted path)) : (mappingPath? mapping).getD "" = path := by
  rw [mappingPath?_eq, h, Option.map_some, pathIn_quoted, Option.getD_some]

theorem getD_mappingPath?_arrayText {mapping : Annotation} {e : PathElement} {es : List PathElement}
    (h : mapping.valueOf ["path", "value"] = some (arrayText (e :: es))) :
    ((mappingPath? mapping).getD "" = e.path ↔ ',' ∉ e.path.toList) ∧
      (',' ∈ e.path.toList → (mappingPath? mapping).getD "" = upToComma e.path) := by
  rw [mappingPath?_eq, h, Option.map_some, Option.getD_some]
  exact ⟨pathIn_arrayText_eq_iff e es, fun h_comma => pathIn_arrayText_of_comma h_comma es⟩

/-- A mapping with a literal gives the path in it, at a method as at a controller. One with an array gives
the first path of the array exactly if that has no comma, and else what stands before the comma. -/
theorem first_array_path_iff {u : CompilationUnit} {scope : Scope} {mapping : Annotation}
    (h_scope : scope ∈ Scope.callables u) (h_controller : isController scope.owner = true)
    (h_mapping : methodMapping? scope.method = some mapping) (e : PathElement) (es : List PathElement) :
    ∃ endpoint ∈ Endpoint.ofUnit u, endpoint.method = scope.caller.text ∧
      (mapping.valueOf ["path", "value"] = some (quoted e.path) → endpoint.methodPath = e.path) ∧
      (mapping.valueOf ["path", "value"] = some (arrayText (e :: es)) →
        (endpoint.methodPath = e.path ↔ ',' ∉ e.path.toList) ∧
        (',' ∈ e.path.toList → endpoint.methodPath = upToComma e.path)) ∧
      ∀ above, controllerMapping? scope.owner = some above →
        (above.valueOf ["path", "value"] = some (quoted e.path) → endpoint.classPath = e.path) ∧
        (above.valueOf ["path", "value"] = some (arrayText (e :: es)) →
          (endpoint.classPath = e.path ↔ ',' ∉ e.path.toList) ∧
          (',' ∈ e.path.toList → endpoint.classPath = upToComma e.path)) := by
  obtain ⟨endpoint, h_endpoint, h_method, h_path, h_class⟩ :=
    exists_endpoint h_scope h_controller h_mapping
  refine ⟨endpoint, h_endpoint, h_method, fun h_value => ?_, fun h_value => ?_, fun above h_above => ?_⟩
  · rw [h_path, getD_mappingPath?_quoted h_value]
  · rw [h_path]
    exact getD_mappingPath?_arrayText h_value
  · rw [h_class, h_above, Option.bind_some]
    exact ⟨getD_mappingPath?_quoted, getD_mappingPath?_arrayText⟩

/-! ## A controller -/

namespace Owners

def method (name : String) (value : String) : Method where
  name
  returnType := none
  params := []
  locals := []
  calls := []
  annotations := [⟨"GetMapping", [⟨none, value⟩]⟩]
  isConstructor := false
  hasBody := true
  startLine := 1
  endLine := 1

def controller (path : String) (methods : List Method) : TypeDecl where
  name := "Owners"
  qualifiedName := "Owners"
  kind := .classType
  superclass := none
  interfaces := []
  annotations := [⟨"RestController", []⟩, ⟨"RequestMapping", [⟨some "path", path⟩]⟩]
  fields := []
  methods
  types := []
  startLine := 1
  endLine := 1

def unitWith (path : String) (methods : List Method) : CompilationUnit where
  path := "Owners.java"
  source := ""
  package := none
  imports := []
  types := [controller path methods]

/-- The paths of the endpoints, after those of their controllers. -/
def paths (u : CompilationUnit) : List (String × String) :=
  (Endpoint.ofUnit u).map fun endpoint => (endpoint.classPath, endpoint.methodPath)

def byId : PathElement := ⟨" ", "/\x7bid\x7d", "\t", List.all_eq_true.1 (by decide), by decide⟩

def byName : PathElement := ⟨"\n", "/name, first", "", List.all_eq_true.1 (by decide), by decide⟩

def byNumber : PathElement := ⟨"", "/\x7bid:[0-9]\x7b1,3\x7d\x7d", "", List.all_eq_true.1 (by decide), by decide⟩

/-- A controller with the same array of paths as its method `show`. -/
def unit : CompilationUnit := unitWith (arrayText [byId, byName]) [method "show" (arrayText [byId, byName])]

def scope : Scope :=
  ⟨ImportTable.ofUnit unit, controller (arrayText [byId, byName]) [method "show" (arrayText [byId, byName])],
    method "show" (arrayText [byId, byName])⟩

end Owners

theorem owner_shown_by_first_path :
    ∃ endpoint ∈ Endpoint.ofUnit Owners.unit, endpoint.method = "default.Owners.show()" ∧
      endpoint.methodPath = "/\x7bid\x7d" ∧ endpoint.classPath = "/\x7bid\x7d" := by
  have h_scope : Owners.scope ∈ Scope.callables Owners.unit := List.mem_singleton.2 rfl
  have h_mapping : methodMapping? Owners.scope.method =
      some ⟨"GetMapping", [⟨none, arrayText [Owners.byId, Owners.byName]⟩]⟩ := by decide +kernel
  have h_above : controllerMapping? Owners.scope.owner =
      some ⟨"RequestMapping", [⟨some "path", arrayText [Owners.byId, Owners.byName]⟩]⟩ := by decide +kernel
  have h_comma : ',' ∉ Owners.byId.path.toList := by decide
  obtain ⟨endpoint, h_endpoint, h_method, -, h_array, h_class⟩ :=
    first_array_path_iff h_scope (by decide +kernel) h_mapping Owners.byId [Owners.byName]
  refine ⟨endpoint, h_endpoint, h_method.trans (by decide +kernel), (h_array rfl).1.2 h_comma, ?_⟩
  exact ((h_class _ h_above).2 rfl).1.2 h_comma

/-- A path whose pattern has bounds is cut between them, unless it is given as a literal. -/
theorem bounds_in_array_are_cut :
    Owners.paths (Owners.unitWith (quoted "/owners") [
      Owners.method "show" (arrayText [Owners.byNumber, Owners.byId]),
      Owners.method "find" (quoted Owners.byNumber.path)]) =
      [("/owners", "/\x7bid:[0-9]\x7b1"), ("/owners", Owners.byNumber.path)] := by
  decide +kernel

end JavaCallGraph
