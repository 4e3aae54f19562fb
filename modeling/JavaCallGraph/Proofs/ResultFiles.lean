import JavaCallGraph.MethodContext
import JavaCallGraph.Proofs.Json
import JavaCallGraph.Proofs.Path

/-!
# Reading an analysis back

What was written to a folder is found there, whatever the folder held before. The context of a method is
therefore that of the analysis, with one exception: a graph is looked for in a JSON file first, and one
from an earlier run stays when a graph is written as YAML.

* `Disk.writeFile_ok`, `Disk.writeFiles_ok` — files after they were written.
* `Disk.readGraph_graphPath`, `Disk.readSnippets_of_find` — their contents.
* `Disk.loadContext_writeAnalysis` — contexts after an analysis was written.
* `Disk.json_files_read_back` — graphs and snippets that were written as JSON, at any path.
-/

namespace JavaCallGraph

namespace Disk

variable {d d' : Disk} {folder : String}

/-! ## Writing files -/

theorem isFolder_of_at? {t : FileTree} {names : List String} {entries : List (String × FileTree)}
    (h : t.at? names = some (.folder entries)) : t.isFolder = true := by
  cases t with
  | folder outer => rfl
  | file data => cases names <;> cases h

/-- A file that was written is found, and only places with its name have changed. -/
theorem writeFile_ok {name text path : String} (h_name : Path.IsFileName name)
    (h : d.writeFile folder name text = (d', .ok path)) :
    Grows (fun place => place.getLast? = some name) d d' ∧
      d'.find (Path.join folder name) = .ok (.file (.ofText text)) := by
  rw [writeFile] at h
  split at h
  · cases h
  · rename_i d₁ base h_folders
    split at h
    · cases h
    · rename_i h_write
      cases h
      obtain ⟨place, h_grows, h_locate, h_file⟩ := write_ok h_write
      have h_made : Grows (fun _ => False) d d₁ ∧ d₁.tree.isFolder = true := by
        rw [makeFoldersTo] at h_folders
        split at h_folders
        · obtain ⟨h_made, -, entries, h_base⟩ := makeFolders_ok h_folders
          exact ⟨h_made, isFolder_of_at? h_base⟩
        · cases h_folders
      -- the top is a folder, so the file is below it
      have h_last : place.getLast? = some name := by
        rcases locate_join h_name h_locate with rfl | h_last
        · obtain ⟨x, h_x, h_kind⟩ := h_grows.tree.kept [] d₁.tree rfl
          rw [h_file] at h_x
          cases h_x
          rw [h_made.2] at h_kind
          cases h_kind
        · exact h_last
      refine ⟨(h_made.1.mono fun _ h => h.elim).trans (h_grows.mono ?_), ?_⟩
      · rintro names rfl
        exact h_last
      · exact find_eq_ok_file_iff.2 ⟨place, h_locate, h_file, Path.endsWith_slash_join h_name folder⟩

theorem eq_join_of_writeFile {name text path : String}
    (h : d.writeFile folder name text = (d', .ok path)) : path = Path.join folder name := by
  rw [writeFile] at h
  split at h
  · cases h
  · split at h
    · cases h
    · cases h
      rfl

/-- A file with another name is at none of the places that were written. -/
theorem not_written_of_locate {names : List String} {name : String} {place : List String}
    (h_name : Path.IsFileName name) (h_new : name ∉ names)
    (h_locate : d.locate (Path.join folder name) = .ok place) :
    ¬ ∃ other ∈ names, place.getLast? = some other := by
  rintro ⟨other, h_other, h_last⟩
  rcases locate_join h_name h_locate with rfl | h_place
  · cases h_last
  · rw [h_place] at h_last
    cases h_last
    exact h_new h_other

/-- Files that were written are found, and only places with their names have changed. -/
theorem writeFiles_ok {files : List (String × String)} {paths : List String}
    (h_names : ∀ name ∈ files.map Prod.fst, Path.IsFileName name)
    (h_nodup : (files.map Prod.fst).Nodup) (h : d.writeFiles folder files = (d', .ok paths)) :
    Grows (fun place => ∃ name ∈ files.map Prod.fst, place.getLast? = some name) d d' ∧
      ∀ f ∈ files, d'.find (Path.join folder f.1) = .ok (.file (.ofText f.2)) := by
  induction files generalizing d paths with
  | nil =>
    cases h
    exact ⟨.refl _, nofun⟩
  | cons f files ih =>
    obtain ⟨name, text⟩ := f
    obtain ⟨h_name, h_later_names⟩ := List.forall_mem_cons.1 h_names
    obtain ⟨h_new, h_later_nodup⟩ := List.nodup_cons.1 h_nodup
    rw [writeFiles] at h
    split at h
    · cases h
    · rename_i d₁ path h_file
      obtain ⟨h_grows, h_find⟩ := writeFile_ok h_name h_file
      cases h_rest : d₁.writeFiles folder files with
      | mk d₂ result =>
        rw [h_rest] at h
        cases result with
        | error e => cases h
        | ok rest =>
          cases h
          obtain ⟨h_later, h_found⟩ := ih h_later_names h_later_nodup h_rest
          refine ⟨(h_grows.mono fun place h_last => ⟨name, List.mem_cons_self, h_last⟩).trans
            (h_later.mono ?_), ?_⟩
          · rintro place ⟨other, h_other, h_last⟩
            exact ⟨other, List.mem_cons_of_mem _ h_other, h_last⟩
          · intro f h_f
            rcases List.mem_cons.1 h_f with rfl | h_f
            · -- the files after this one have other names
              exact h_later.find (fun place => not_written_of_locate h_name h_new) h_find
            · exact h_found f h_f

end Disk

/-! ## Files of an analysis -/

def OutputOptions.fileNames (output : OutputOptions) : List String :=
  (if output.dependencies then [graphFile output.format] else []) ++
  (if output.snippets then [snippetsFile] else []) ++
  (if output.endpoints then [endpointsFile] else [])

theorem Analysis.map_fst_files (a : Analysis) (output : OutputOptions) :
    (a.files output).map Prod.fst = output.fileNames := by
  obtain ⟨format, dependencies, snippets, endpoints⟩ := output
  cases dependencies <;> cases snippets <;> cases endpoints <;> rfl

theorem OutputOptions.isFileName_fileNames (output : OutputOptions) :
    ∀ name ∈ output.fileNames, Path.IsFileName name := by
  obtain ⟨format, dependencies, snippets, endpoints⟩ := output
  cases format <;> cases dependencies <;> cases snippets <;> cases endpoints <;> decide

theorem OutputOptions.nodup_fileNames (output : OutputOptions) : output.fileNames.Nodup := by
  obtain ⟨format, dependencies, snippets, endpoints⟩ := output
  cases format <;> cases dependencies <;> cases snippets <;> cases endpoints <;> decide

/-- A run that writes YAML writes no JSON graph. -/
theorem OutputOptions.json_notMem_fileNames {output : OutputOptions} (h : output.format = .yaml) :
    graphFile .json ∉ output.fileNames := by
  obtain ⟨format, dependencies, snippets, endpoints⟩ := output
  cases h
  cases dependencies <;> cases snippets <;> cases endpoints <;> decide

/-! ## Reading -/

/-- The name of a graph file tells its format, in any folder. -/
theorem OutputFormat.ofPath?_join (folder : String) (format : OutputFormat) :
    ofPath? (Path.join folder (graphFile format)) = some format := by
  have h_name : Path.IsFileName (graphFile format) := by cases format <;> decide
  obtain ⟨before, h_names⟩ := Path.names_of_endsIn h_name (Path.endsIn_join folder _)
  have h_file : Path.fileName? (Path.join folder (graphFile format)) = some (graphFile format) := by
    rw [Path.fileName?, h_names, List.getLast?_concat]
    cases format <;> rfl
  rw [ofPath?, Path.extension?, h_file]
  cases format <;> decide +kernel

theorem CallGraph.parse_eq_ok_of_toList {format : OutputFormat} {text : String} {g : CallGraph}
    (h : (parse format text).toOption.map (·.entries.toList) = some g.entries.toList) :
    parse format text = .ok g := by
  cases h_parse : parse format text with
  | error e => simp [h_parse, Except.toOption] at h
  | ok g' =>
    rw [h_parse] at h
    obtain ⟨⟨entries', ascend'⟩⟩ := g'
    obtain ⟨⟨entries, ascend⟩⟩ := g
    cases h
    rfl

namespace Disk

variable {d d' : Disk} {folder : String}

theorem text_of_readText {path text : String} (h : d.readText path = .ok text) :
    d.text path = .ok text := by
  delta Disk.text
  rw [h]

theorem text_of_find {path text : String} (h : d.find path = .ok (.file (.ofText text))) :
    d.text path = .ok text :=
  text_of_readText (readText_of_find h)

theorem readGraph_of_find {format : OutputFormat} {text : String}
    (h : d.find (Path.join folder (graphFile format)) = .ok (.file (.ofText text))) :
    d.readGraph (Path.join folder (graphFile format)) = CallGraph.parse format text := by
  rw [readGraph, text_of_find h, OutputFormat.ofPath?_join]
  rfl

theorem readSnippets_of_text {snippets : SnippetMap} {path : String}
    (h : d.text path = .ok ((snippetsJson snippets).pretty ++ "\n")) :
    d.readSnippets path = .ok snippets := by
  simp only [readSnippets, h, bind, Except.bind, Json.parse?_pretty (textual_snippetsJson snippets),
    Option.bind_some, snippetsOfJson?_snippetsJson]
  rfl

theorem readSnippets_of_find {snippets : SnippetMap} {path : String}
    (h : d.find path = .ok (.file (.ofText ((snippetsJson snippets).pretty ++ "\n")))) :
    d.readSnippets path = .ok snippets :=
  readSnippets_of_text (text_of_find h)

/-- A path that does not end like a YAML file is read as JSON. -/
theorem readGraph_of_text {g : CallGraph} {path : String}
    (h_format : OutputFormat.ofPath? path ≠ some .yaml) (h : d.text path = .ok (g.render .json)) :
    d.readGraph path = .ok g := by
  have h_json : (OutputFormat.ofPath? path).getD .json = .json := by
    cases h_path : OutputFormat.ofPath? path with
    | none => rfl
    | some format =>
      cases format with
      | json => rfl
      | yaml => exact absurd h_path h_format
  rw [readGraph, h_json, h]
  exact g.parse_render_json

/-- Where a graph file is, the graph in it is read, but for a YAML file with a JSON file next to it. -/
theorem readGraph_graphPath {format : OutputFormat} {text : String}
    (h : d.find (Path.join folder (graphFile format)) = .ok (.file (.ofText text))) :
    d.readGraph (d.graphPath folder) =
      if format = .yaml ∧ d.isFile (Path.join folder (graphFile .json)) = true then
        d.readGraph (Path.join folder (graphFile .json))
      else CallGraph.parse format text := by
  have h_isFile := isFile_iff.2 ⟨_, h⟩
  rw [← readGraph_of_find h, graphPath]
  cases format with
  | json => simp [h_isFile]
  | yaml => cases h_json : d.isFile (Path.join folder (graphFile .json)) <;> simp [h_isFile]

/-- The context that is read after an analysis was written is the context in the analysis, but for a
graph that was written as YAML next to an older JSON file: then the older graph is read. -/
theorem loadContext_writeAnalysis {a : Analysis} {output : OutputOptions} {paths : List String}
    (h_dependencies : output.dependencies = true) (h_snippets : output.snippets = true)
    (h_yaml : output.format = .yaml → CallGraph.parse .yaml (a.graph.render .yaml) = .ok a.graph)
    (h_write : d.writeAnalysis a folder output = (d', .ok paths)) (signature : String) :
    d'.loadContext folder signature =
      (if output.format = .yaml ∧ d'.isFile (Path.join folder (graphFile .json)) = true then
        d'.readGraph (Path.join folder (graphFile .json))
      else .ok a.graph).bind (MethodContext.build signature · a.snippets) ∧
    (output.format = .yaml →
      ∀ place data, d'.locate (Path.join folder (graphFile .json)) = .ok place →
        (d'.tree.at? place = some (.file data) ↔ d.tree.at? place = some (.file data))) := by
  have h_names := a.map_fst_files output
  obtain ⟨h_grows, h_found⟩ := writeFiles_ok (h_names ▸ output.isFileName_fileNames)
    (h_names ▸ output.nodup_fileNames) h_write
  constructor
  · have h_graph := h_found (graphFile output.format, a.graph.render output.format)
      (by simp [Analysis.files, h_dependencies])
    have h_code := h_found (snippetsFile, (snippetsJson a.snippets).pretty ++ "\n")
      (by simp [Analysis.files, h_snippets])
    have h_parse : CallGraph.parse output.format (a.graph.render output.format) = .ok a.graph := by
      cases h_format : output.format with
      | json => exact a.graph.parse_render_json
      | yaml => exact h_yaml h_format
    rw [loadContext, readGraph_graphPath h_graph, h_parse, readSnippets_of_find h_code]
    rfl
  · intro h_format place data h_locate
    refine h_grows.tree.same place ?_ data
    rw [h_names]
    exact not_written_of_locate (by decide) (output.json_notMem_fileNames h_format) h_locate

namespace Samples

/-- A method and the one method that it calls. -/
def analysis : Analysis where
  graph := .ofEntries [("A.f()", ["A.g()"]), ("A.g()", [])]
  snippets := .ofList [("A.f()", "f"), ("A.g()", "g")]

/-- The analysis written as YAML to a new folder, which is reached by a detour over another one. -/
def firstRun : Disk × Except AnalysisError (List String) :=
  writeAnalysis ⟨"/work", .empty, []⟩ analysis "x/../out" { format := .yaml }

/-- The analysis written as YAML where an earlier one left a graph without calls. -/
def laterRun : Disk × Except AnalysisError (List String) :=
  writeAnalysis ⟨"/work", .ofListing [("out/dependencies.json",
    some (.ofText "\x7b\"A.f()\": []\x7d"))], []⟩ analysis "out" { format := .yaml }

end Samples

/-- The graph that was written is read. -/
theorem first_run_context :
    Samples.firstRun.2 = .ok ["x/../out/dependencies.yaml", "x/../out/code.json",
      "x/../out/api_endpoints.json"] ∧
    CallGraph.parse .yaml (Samples.analysis.graph.render .yaml) = .ok Samples.analysis.graph ∧
    Samples.firstRun.1.loadContext "x/../out" "A.f()" =
      MethodContext.build "A.f()" Samples.analysis.graph Samples.analysis.snippets := by
  have h_paths : Samples.firstRun.2 = .ok ["x/../out/dependencies.yaml", "x/../out/code.json",
      "x/../out/api_endpoints.json"] := by decide +kernel
  have h_yaml : CallGraph.parse .yaml (Samples.analysis.graph.render .yaml) =
      .ok Samples.analysis.graph := CallGraph.parse_eq_ok_of_toList (by decide +kernel)
  have h_json : Samples.firstRun.1.isFile (Path.join "x/../out" (graphFile .json)) = false := by
    decide +kernel
  have h_write : Samples.firstRun = (Samples.firstRun.1, .ok _) := Prod.ext rfl h_paths
  obtain ⟨h_context, -⟩ := loadContext_writeAnalysis rfl rfl (fun _ => h_yaml) h_write "A.f()"
  simp only [h_json, Bool.false_eq_true, and_false, if_false] at h_context
  exact ⟨h_paths, h_yaml, h_context⟩

/-- The graph of the earlier run is read, in which nothing is called. -/
theorem later_run_reads_older_graph :
    Samples.laterRun.2 = .ok ["out/dependencies.yaml", "out/code.json", "out/api_endpoints.json"] ∧
    CallGraph.parse .yaml (Samples.analysis.graph.render .yaml) = .ok Samples.analysis.graph ∧
    (Samples.laterRun.1.loadContext "out" "A.f()").toOption.map (·.dependencies.toList) = some [] ∧
    (MethodContext.build "A.f()" Samples.analysis.graph Samples.analysis.snippets).toOption.map
      (·.dependencies.toList) = some [("A.g()", "g")] := by
  refine ⟨by decide +kernel, CallGraph.parse_eq_ok_of_toList (by decide +kernel), by decide +kernel,
    by decide +kernel⟩

/-- A file with the JSON text of a graph is read as this graph, unless its path ends like that of a YAML
file, and a file with the text of snippets as these snippets. Files that were written have these texts. -/
theorem json_files_read_back (g : CallGraph) (snippets : SnippetMap) :
    (∀ (d : Disk) (path : String), OutputFormat.ofPath? path ≠ some .yaml →
      d.readText path = .ok (g.render .json) → d.readGraph path = .ok g) ∧
    (∀ (d : Disk) (path : String),
      d.readText path = .ok ((snippetsJson snippets).pretty ++ "\n") →
        d.readSnippets path = .ok snippets) ∧
    (∀ (d d' : Disk) (folder name path : String), Path.IsFileName name →
      OutputFormat.ofPath? path ≠ some .yaml →
        d.writeFile folder name (g.render .json) = (d', .ok path) → d'.readGraph path = .ok g) ∧
    ∀ (d d' : Disk) (folder name path : String), Path.IsFileName name →
      d.writeFile folder name ((snippetsJson snippets).pretty ++ "\n") = (d', .ok path) →
        d'.readSnippets path = .ok snippets := by
  refine ⟨?_, ?_, ?_, ?_⟩
  · intro d path h_format h_text
    exact readGraph_of_text h_format (text_of_readText h_text)
  · intro d path h_text
    exact readSnippets_of_text (text_of_readText h_text)
  · intro d d' folder name path h_name h_format h_write
    obtain rfl := eq_join_of_writeFile h_write
    exact readGraph_of_text h_format (text_of_find (writeFile_ok h_name h_write).2)
  · intro d d' folder name path h_name h_write
    obtain rfl := eq_join_of_writeFile h_write
    exact readSnippets_of_find (writeFile_ok h_name h_write).2

-- the layout of the text
example : (CallGraph.ofEntries [("A.f()", ["A.g()", "B.h()"]), ("A.g()", [])]).render .json =
    "\x7b\n  \"A.f()\": [\n    \"A.g()\",\n    \"B.h()\"\n  ],\n  \"A.g()\": []\n\x7d\n" := by
  decide +kernel

namespace Samples

/-- A graph with characters that are escaped, a callee that stands twice and one without callees. -/
def oddGraph : CallGraph :=
  .ofEntries [("a.\"B\"\\.f(λ)", ["g\n\t", "😀", "g\n\t"]), ("", []), ("\x01\x1f\x7f", [""])]

def oddSnippets : SnippetMap :=
  .ofList [("f()", "void f() \x7b\r\n\tprint(\"\\u0000 é\"); // /\n\x7d"), ("", "\x00")]

def graphRun : Disk × Except AnalysisError String :=
  writeFile ⟨"/work", .empty, []⟩ "out/graphs" "calls.json" (oddGraph.render .json)

def snippetsRun : Disk × Except AnalysisError String :=
  writeFile ⟨"/work", .empty, []⟩ "out" "code" ((snippetsJson oddSnippets).pretty ++ "\n")

end Samples

/-- The files of an odd graph and odd snippets are written and read back. -/
theorem odd_files_read_back :
    Samples.graphRun.2 = .ok "out/graphs/calls.json" ∧
    OutputFormat.ofPath? "out/graphs/calls.json" = some .json ∧
    Samples.graphRun.1.readGraph "out/graphs/calls.json" = .ok Samples.oddGraph ∧
    Samples.snippetsRun.2 = .ok "out/code" ∧
    Samples.snippetsRun.1.readSnippets "out/code" = .ok Samples.oddSnippets := by
  have h_format : OutputFormat.ofPath? "out/graphs/calls.json" = some .json := by decide +kernel
  have h_graph : Samples.graphRun.2 = .ok "out/graphs/calls.json" := by decide +kernel
  have h_snippets : Samples.snippetsRun.2 = .ok "out/code" := by decide +kernel
  obtain ⟨-, -, h_graphs, h_codes⟩ := json_files_read_back Samples.oddGraph Samples.oddSnippets
  refine ⟨h_graph, h_format, ?_, h_snippets, ?_⟩
  · exact h_graphs _ _ "out/graphs" "calls.json" _ (by decide) (by simp [h_format])
      (Prod.ext rfl h_graph)
  · exact h_codes _ _ "out" "code" _ (by decide) (Prod.ext rfl h_snippets)

end Disk

end JavaCallGraph
