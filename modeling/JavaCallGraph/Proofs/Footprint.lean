import JavaCallGraph.Command
import JavaCallGraph.Proofs.Scan
import JavaCallGraph.Proofs.Writing

/-!
# What a run leaves on the disk

A run that analyzes a project changes no file but the ones it is told to write, and makes no folder but
those that lead to them, however far it gets. What can be wrong before the analysis is found before
anything is written: the root, the settings, and the settings with the options on top. The options come
last, so settings that are valid in their file may still be refused.

* `AnalyzeOptions.Writes`, `Disk.Outputs` — the files that a run is told to write.
* `Disk.givenSettings?`, `Disk.settingsFor_eq_ok_iff` — the settings of a run.
* `Disk.isFolder_of_canonical` — roots.
* `Disk.Refuses` — the runs that fail before they write.
* `Disk.analyze_touches_outputs_only` — runs as a whole.
-/

namespace JavaCallGraph

/-! ## What a run is told -/

/-- The names of the files that a run writes, if settings and options say so. -/
def AnalyzeOptions.Writes (o : AnalyzeOptions) (given : Settings) (name : String) : Prop :=
  (given.output.dependencies = true ∧
    name = "dependencies." ++ (o.format.getD given.output.format).name) ∨
  (given.output.snippets = true ∧ o.noSnippets = false ∧ name = "code.json") ∨
  (given.output.endpoints = true ∧ o.noEndpoints = false ∧ name = "api_endpoints.json")

theorem AnalyzeOptions.mem_fileNames_adjust {o : AnalyzeOptions} {given : Settings} {name : String} :
    name ∈ (o.adjust given).output.fileNames ↔ o.Writes given name := by
  rw [OutputOptions.fileNames, adjust]
  simp only [List.mem_append, List.mem_ite_nil_right, List.mem_singleton, Bool.and_eq_true,
    Bool.not_eq_true', and_assoc, or_assoc]
  exact Iff.rfl

namespace Disk

/-- The file that settings are read from: the one that the options name, or else that of the project if
it has one. -/
def settingsPath? (d : Disk) (o : AnalyzeOptions) : Option String :=
  match o.settings with
  | some path => some path
  | none => ((d.canonical o.root).toOption.map fun root => Path.join root settingsFile).filter d.isFile

/-- The settings before those of the options are put on top, the defaults if there is no file; none if
the file cannot be read or is not one of settings. -/
def givenSettings? (d : Disk) (o : AnalyzeOptions) : Option Settings :=
  match d.settingsPath? o with
  | some path => (d.readText path).toOption.bind Settings.ofToml?
  | none => some {}

/-- Why a run fails before it writes anything. -/
inductive Refuses (d : Disk) (o : AnalyzeOptions) : Prop
  | root (h : d.isFolder o.root = false)
  | unreadable (h : d.givenSettings? o = none)
  | given {given : Settings} {fault : Settings.Fault} (h : d.givenSettings? o = some given)
      (h_fault : given.fault? = some fault)
  /-- The settings get their fault from the options. -/
  | adjusted {given : Settings} {fault : Settings.Fault} (h : d.givenSettings? o = some given)
      (h_fault : (o.adjust given).fault? = some fault)

variable {d d' : Disk} {o : AnalyzeOptions} {root : String}

theorem loadSettings_eq_ok_iff {path : String} {settings : Settings} :
    d.loadSettings path = .ok settings ↔
      (d.readText path).toOption.bind Settings.ofToml? = some settings ∧ settings.fault? = none := by
  rw [loadSettings, text]
  cases d.readText path with
  | error cause => simp [bind, Except.bind, Except.toOption]
  | ok text =>
    simp only [bind, Except.bind, Except.toOption, Option.bind_some]
    cases Settings.ofToml? text with
    | none => simp [throw, throwThe, MonadExceptOf.throw]
    | some found =>
      cases h_fault : found.fault? with
      | some fault =>
        simp only [h_fault, throw, throwThe, MonadExceptOf.throw, reduceCtorEq, Option.some.injEq,
          false_iff, not_and]
        rintro rfl
        simp [h_fault]
      | none =>
        simp only [h_fault, pure, Except.pure, Except.ok.injEq, Option.some.injEq, iff_self_and]
        rintro rfl
        exact h_fault

theorem map_adjust_loadSettings_eq_ok_iff {path : String} {wrap : AnalysisError → CommandError}
    {settings : Settings} :
    ((d.loadSettings path).mapError wrap).map o.adjust = .ok settings ↔
      ∃ given, (d.readText path).toOption.bind Settings.ofToml? = some given ∧
        given.fault? = none ∧ settings = o.adjust given := by
  simp only [← and_assoc, ← loadSettings_eq_ok_iff]
  cases d.loadSettings path with
  | error e => simp [Except.mapError, Except.map]
  | ok given => simp [Except.mapError, Except.map, eq_comm]

/-- A run has the settings that it is given, if they are valid, with the options on top. -/
theorem settingsFor_eq_ok_iff (h_root : d.canonical o.root = .ok root) {settings : Settings} :
    d.settingsFor o root = .ok settings ↔
      ∃ given, d.givenSettings? o = some given ∧ given.fault? = none ∧ settings = o.adjust given := by
  rw [settingsFor, givenSettings?, settingsPath?]
  cases o.settings with
  | some path => exact map_adjust_loadSettings_eq_ok_iff
  | none =>
    simp only [discoverSettings, h_root, Except.toOption, Option.map_some, Option.filter_some]
    cases h_file : d.isFile (Path.join root settingsFile) with
    | true => exact map_adjust_loadSettings_eq_ok_iff
    | false =>
      -- the defaults are given, and they are valid
      have h_valid : ({} : Settings).fault? = none := by decide
      simp [Except.mapError, Except.map, h_valid, eq_comm]

/-! ## Roots -/

theorem locate_top (d : Disk) : d.locate d.top = .ok [] := by
  have h_below : d.belowTop? d.top = some "" := belowTop?_eq_some_iff.2 ⟨by simp, .inl rfl⟩
  rw [locate, names?, h_below]
  rfl

theorem exists_at?_of_canonical {path : String} (h : d.canonical path = .ok root) :
    ∃ place t, d.locate path = .ok place ∧ d.tree.at? place = some t ∧ d.pathOf place = root := by
  rw [canonical] at h
  cases h_locate : d.locate path with
  | error cause =>
    rw [find, h_locate] at h
    cases h
  | ok place =>
    cases h_at : d.tree.at? place with
    | none =>
      simp only [find, h_locate, bind, Except.bind, h_at] at h
      cases h
    | some t =>
      refine ⟨place, t, rfl, h_at, ?_⟩
      cases h_find : d.find path with
      | error cause =>
        rw [h_find] at h
        cases h
      | ok found =>
        rw [h_find, h_locate] at h
        exact Except.ok.inj h

/-- The canonical path of a path leads to the same place. -/
theorem locate_of_canonical (h_disk : d.WellFormed) {path : String} (h : d.canonical path = .ok root) :
    d.locate root = d.locate path := by
  obtain ⟨place, t, h_locate, h_at, rfl⟩ := exists_at?_of_canonical h
  rw [h_locate]
  exact locate_foldl_join h_disk.top (h_disk.tree.of_at? h_at).2 (locate_top d) h_at

theorem isFolder_of_canonical (h_disk : d.WellFormed) {path : String} (h : d.canonical path = .ok root) :
    d.isFolder root = d.isFolder path := by
  rw [Bool.eq_iff_iff, isFolder_iff, isFolder_iff, locate_of_canonical h_disk h]

theorem exists_canonical_of_isFolder {path : String} (h : d.isFolder path = true) :
    ∃ root, d.canonical path = .ok root := by
  obtain ⟨place, entries, h_locate, h_at⟩ := isFolder_iff.1 h
  refine ⟨d.pathOf place, ?_⟩
  simp [canonical, find, h_locate, h_at, bind, Except.bind, pure, Except.pure]

/-! ## Runs -/

theorem analysisFor_eq_ok_iff (h_root : d.canonical o.root = .ok root) {a : Analysis}
    {output : OutputOptions} :
    d.analysisFor o = .ok (a, output) ↔
      ∃ settings, d.settingsFor o root = .ok settings ∧ d.isFolder root = true ∧
        settings.fault? = none ∧ a = d.analyzeFolder root settings ∧ output = settings.output := by
  rw [analysisFor, h_root]
  simp only [Except.mapError, bind, Except.bind, analyze]
  cases d.settingsFor o root with
  | error e => simp
  | ok settings =>
    cases d.isFolder root with
    | false => simp
    | true =>
      cases h_fault : settings.fault? with
      | some fault => simp [h_fault]
      | none => simp [h_fault, pure, Except.pure, eq_comm]

/-- A run that is not refused has settings to write by. -/
theorem exists_analysisFor (h_disk : d.WellFormed) (h : ¬ d.Refuses o) :
    ∃ given a, d.givenSettings? o = some given ∧ d.analysisFor o = .ok (a, (o.adjust given).output) := by
  have h_folder : d.isFolder o.root = true := by
    rw [← Bool.not_eq_false]
    exact fun h_root => h (.root h_root)
  obtain ⟨root, h_root⟩ := exists_canonical_of_isFolder h_folder
  obtain ⟨given, h_given⟩ := Option.ne_none_iff_exists'.1 fun h_none => h (.unreadable h_none)
  have h_valid : given.fault? = none :=
    Option.eq_none_iff_forall_ne_some.2 fun fault h_fault => h (.given h_given h_fault)
  have h_adjusted : (o.adjust given).fault? = none :=
    Option.eq_none_iff_forall_ne_some.2 fun fault h_fault => h (.adjusted h_given h_fault)
  refine ⟨given, _, h_given, (analysisFor_eq_ok_iff h_root).2 ⟨_,
    (settingsFor_eq_ok_iff h_root).2 ⟨given, h_given, h_valid, rfl⟩, ?_, h_adjusted, rfl, rfl⟩⟩
  rw [isFolder_of_canonical h_disk h_root, h_folder]

/-- A run that is refused ends before it writes. -/
theorem exists_error_of_refuses (h_disk : d.WellFormed) (h : d.Refuses o) :
    ∃ e, d.analysisFor o = .error e := by
  cases h_run : d.analysisFor o with
  | error e => exact ⟨e, rfl⟩
  | ok found =>
    cases h_root : d.canonical o.root with
    | error cause =>
      rw [analysisFor, h_root] at h_run
      cases h_run
    | ok root =>
      -- a run that gets as far as this has passed every check
      obtain ⟨settings, h_settings, h_folder, h_adjusted, -, -⟩ := (analysisFor_eq_ok_iff h_root).1 h_run
      obtain ⟨given, h_given, h_valid, rfl⟩ := (settingsFor_eq_ok_iff h_root).1 h_settings
      rw [isFolder_of_canonical h_disk h_root] at h_folder
      cases h with
      | root h => exact absurd (h.symm.trans h_folder) (by decide)
      | unreadable h => cases h.symm.trans h_given
      | given h h_fault =>
        cases h.symm.trans h_given
        cases h_fault.symm.trans h_valid
      | adjusted h h_fault =>
        cases h.symm.trans h_given
        cases h_fault.symm.trans h_adjusted

theorem runAnalyze_of_error {e : CommandError} (h : d.analysisFor o = .error e) :
    d.runAnalyze o = (d, .error e) := by
  delta runAnalyze
  rw [h]

theorem runAnalyze_of_ok {a : Analysis} {output : OutputOptions} (h : d.analysisFor o = .ok (a, output)) :
    d.runAnalyze o = ((d.writeAnalysis a o.output output).1,
      ((d.writeAnalysis a o.output output).2.mapError (CommandError.output o.output)).map
        (Answer.analysis a.report)) := by
  delta runAnalyze
  rw [h]

def Outputs (d : Disk) (o : AnalyzeOptions) (path : String) : Prop :=
  ∃ given name, d.givenSettings? o = some given ∧ o.Writes given name ∧ path = Path.join o.output name

/-- Whether a run succeeds or not, it changes no file but its outputs, and every folder that it makes is
on the way to one of them. If the root is no folder, the settings cannot be read, or they are not valid
without or with the options, it fails and nothing changes. Otherwise it leaves all of its outputs, or
fails at one whose path is blocked. -/
theorem analyze_touches_outputs_only (h_disk : d.WellFormed) {result : Except CommandError Answer}
    (h_run : Command.run d (.analyze o) = (d', result)) :
    Adds (fun place => ∃ path, d.Outputs o path ∧ d.placeOf? path = some place)
        (fun place => ∃ path, d.Outputs o path ∧ d.LiesAbove path place) d d' ∧
      (d.Refuses o → d' = d ∧ ∃ e, result = .error e) ∧
      (¬ d.Refuses o →
        (∃ answer, result = .ok answer ∧ ∀ path, d.Outputs o path → d'.isFile path = true) ∨
        ∃ e path, result = .error e ∧ d.Outputs o path ∧ d'.Blocked path) := by
  change d.runAnalyze o = (d', result) at h_run
  by_cases h_refuses : d.Refuses o
  · obtain ⟨e, h_error⟩ := exists_error_of_refuses h_disk h_refuses
    rw [runAnalyze_of_error h_error] at h_run
    cases h_run
    exact ⟨.refl _, fun _ => ⟨rfl, e, rfl⟩, fun h => absurd h_refuses h⟩
  · obtain ⟨given, a, h_given, h_found⟩ := exists_analysisFor h_disk h_refuses
    have h_output : ∀ name ∈ (o.adjust given).output.fileNames, d.Outputs o (Path.join o.output name) :=
      fun name h_name => ⟨given, name, h_given, AnalyzeOptions.mem_fileNames_adjust.1 h_name, rfl⟩
    rw [runAnalyze_of_ok h_found] at h_run
    cases h_write : d.writeAnalysis a o.output (o.adjust given).output with
    | mk d₁ paths? =>
      rw [h_write] at h_run
      cases h_run
      obtain ⟨h_adds, h_files, h_stop⟩ := writeAnalysis_spec h_write
      refine ⟨h_adds.mono ?_ ?_, fun h => absurd h h_refuses, fun _ => ?_⟩
      · rintro place ⟨name, h_name, h_place⟩
        exact ⟨_, h_output name h_name, h_place⟩
      · rintro place ⟨name, h_name, h_place⟩
        exact ⟨_, h_output name h_name, h_place⟩
      · cases paths? with
        | ok paths =>
          refine .inl ⟨_, rfl, ?_⟩
          rintro path ⟨given', name, h_given', h_name, rfl⟩
          cases h_given.symm.trans h_given'
          exact h_files paths rfl name (AnalyzeOptions.mem_fileNames_adjust.2 h_name)
        | error e =>
          obtain ⟨name, h_name, h_blocked⟩ := h_stop e rfl
          exact .inr ⟨_, _, rfl, h_output name h_name, h_blocked⟩

namespace Mill

/-- A project that writes its endpoints only. -/
def disk : Disk where
  top := "/mill"
  tree := .folder [
    ("src", .folder [("Wheel.java", .file (.ofText "class Wheel { void turn() { } }\n"))]),
    ("calltrail.toml", .file (.ofText "[output]\ndependencies = false\nsnippets = false\n"))]

theorem wellFormed_disk : disk.WellFormed where
  top := .inl (by decide +kernel)
  tree := by
    refine ⟨by decide +kernel, by decide +kernel, ⟨by decide +kernel, ?_⟩, by decide +kernel,
      trivial, trivial⟩
    exact ⟨by decide +kernel, trivial, trivial⟩

def settings : Settings := { output := { dependencies := false, snippets := false } }

/-- Options that may turn the endpoints off too. The output is to be in folders that are not there. -/
def options (noEndpoints : Bool) : AnalyzeOptions := { root := ".", output := "out/../docs", noEndpoints }

theorem givenSettings?_disk (noEndpoints : Bool) :
    disk.givenSettings? (options noEndpoints) = some settings := by
  cases noEndpoints <;> decide +kernel

theorem not_refuses : ¬ disk.Refuses (options false) := by
  have h_given := givenSettings?_disk false
  have h_valid : settings.fault? = none := by decide
  have h_adjusted : ((options false).adjust settings).fault? = none := by decide
  rintro (h | h | ⟨h, h_fault⟩ | ⟨h, h_fault⟩)
  · revert h
    decide +kernel
  · cases h_given.symm.trans h
  · cases h_given.symm.trans h
    cases h_valid.symm.trans h_fault
  · cases h_given.symm.trans h
    cases h_adjusted.symm.trans h_fault

theorem outputs_iff {path : String} :
    disk.Outputs (options false) path ↔ path = "out/../docs/api_endpoints.json" := by
  constructor
  · rintro ⟨given, name, h_given, h_writes, rfl⟩
    cases (givenSettings?_disk false).symm.trans h_given
    rcases h_writes with ⟨h, -⟩ | ⟨h, -⟩ | ⟨-, -, rfl⟩
    · cases h
    · cases h
    · decide
  · rintro rfl
    exact ⟨settings, _, givenSettings?_disk false, .inr (.inr ⟨rfl, rfl, rfl⟩), by decide⟩

end Mill

/-- Settings that are valid in their file, and not with the options: nothing is written. With other options
the run makes the folders that it needs, leaves its one output and does not touch the code. -/
theorem mill_touches_outputs_only :
    Mill.disk.WellFormed ∧ (∀ b, Mill.disk.givenSettings? (Mill.options b) = some Mill.settings) ∧
      Mill.settings.fault? = none ∧
      (∃ e, Command.run Mill.disk (.analyze (Mill.options true)) = (Mill.disk, .error e)) ∧
      Mill.disk.isFolder "docs" = false ∧
      ∃ d' answer, Command.run Mill.disk (.analyze (Mill.options false)) = (d', .ok answer) ∧
        d'.isFile "out/../docs/api_endpoints.json" = true ∧
        ∀ data, d'.tree.at? ["src", "Wheel.java"] = some (.file data) ↔
          Mill.disk.tree.at? ["src", "Wheel.java"] = some (.file data) := by
  have h_fault : ((Mill.options true).adjust Mill.settings).fault? = some .noOutput := by decide
  refine ⟨Mill.wellFormed_disk, Mill.givenSettings?_disk, by decide, ?_, by decide +kernel, ?_⟩
  · cases h_run : Command.run Mill.disk (.analyze (Mill.options true)) with
    | mk d' result =>
      obtain ⟨-, h_refuses, -⟩ := analyze_touches_outputs_only Mill.wellFormed_disk h_run
      obtain ⟨rfl, e, rfl⟩ := h_refuses (.adjusted (Mill.givenSettings?_disk true) h_fault)
      exact ⟨e, rfl⟩
  · have h_ok : (Command.run Mill.disk (.analyze (Mill.options false))).2.isOk = true := by
      decide +kernel
    cases h_run : Command.run Mill.disk (.analyze (Mill.options false)) with
    | mk d' result =>
      rw [h_run] at h_ok
      obtain ⟨h_adds, -, h_done⟩ := analyze_touches_outputs_only Mill.wellFormed_disk h_run
      rcases h_done Mill.not_refuses with ⟨answer, rfl, h_files⟩ | ⟨e, -, rfl, -⟩
      · refine ⟨d', answer, rfl, h_files _ (Mill.outputs_iff.2 rfl), ?_⟩
        refine h_adds.grows.tree.same _ ?_
        rintro ⟨path, h_path, h_place⟩
        cases Mill.outputs_iff.1 h_path
        revert h_place
        decide +kernel
      · cases h_ok

end Disk

end JavaCallGraph
