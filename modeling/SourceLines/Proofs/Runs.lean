/-
# Runs write a report unless their settings fail

A run that asks for a scan fails in its settings exactly when they cannot be loaded, and
then nothing is written to the standard output. Otherwise it makes a report, whatever is
wrong with the directories: one row for each directory that the command line names, in
the order of the line. A row has a failure exactly when the path leads to no directory.
The number of jobs, the pool of workers and the verbosity do not show in what is written.

The run succeeds when the report can be written. It breaks off behind the beginning of the
report when JSON is asked for and a directory is named by bytes that are not UTF-8, or when
a text is asked for and a label is wider than the printer takes.

Names in the file system are texts, and the standard output takes whatever is written to
it. Nothing is said about the log.
-/

import SourceLines.Proofs.Acceptance
import SourceLines.Proofs.Candidates
import SourceLines.Proofs.DirectoryReports
import SourceLines.Proofs.GivenSettings
import SourceLines.Proofs.NamedDirectories
import SourceLines.Proofs.WrittenReports

namespace SourceLines

open Json

namespace NativeText

theorem toString?_ofString (text : String) : toString? text = some text := by
  have bytes : stringBytes text = encodeUtf8 text.toList := rfl
  rw [toString?, ofString, bytes, Utf8.decodeStrict?_encodeUtf8, Option.map_some,
    String.ofList_toList]

theorem display_of_toString? {native : NativeText} {text : String}
    (isText : native.toString? = some text) : native.display = text := by
  rw [display, isText]

end NativeText

namespace Scan

variable (scan : Scan)

theorem scan?_withJobs (jobs : Nat) (root : String) :
    (scan.withJobs jobs).scan? root = scan.scan? root :=
  ((scan.withJobs jobs).scanWith?_alone _ root).trans (scan.scanWith?_alone _ root).symm

theorem row_withJobs (jobs : Nat) (directory : String) :
    (scan.withJobs jobs).row directory = scan.row directory := by
  rw [row, row, scan.scan?_withJobs]

theorem rowOf_withJobs (jobs : Nat) (system : FileSystem) (directory : NativeText) :
    (scan.withJobs jobs).rowOf system directory = scan.rowOf system directory := by
  rw [rowOf, rowOf, funext (scan.row_withJobs jobs)]

theorem rowOf_of_toString? {system : FileSystem} {directory : NativeText} {path : String}
    (isText : directory.toString? = some path) : scan.rowOf system directory = scan.row path := by
  rw [rowOf, isText]

/-- A directory that is named by no text cannot be scanned. -/
theorem exists_rowOf_eq_failed (system : FileSystem) {directory : NativeText}
    (noText : directory.toString? = none) :
    ∃ reason, scan.rowOf system directory = ⟨directory.display, .failed reason, .empty⟩ := by
  rw [rowOf, noText]
  exact ⟨_, rfl⟩

end Scan

namespace Settings

theorem classify_scan (settings : Settings) (system : FileSystem) :
    (settings.scan system).classify = settings.classifyWith system (.generic system) := by
  rw [scan, scanWith]

/-- What a row of a report has to say about a directory under some settings. -/
structure IsRowOf (settings : Settings) (system : FileSystem) (directory : NativeText)
    (row : DirectoryRow) : Prop where
  /-- The directory is named as it is shown. -/
  named : row.directory = directory.display
  /-- It is the row of the scan, for every number of jobs. -/
  ofScan : ∀ path, directory.toString? = some path →
    ∀ jobs, ((settings.scan system).withJobs jobs).IsRowOf path row
  /-- There is a failure when the path leads to no directory, and only then. -/
  failed_iff : (∃ reason, row.status = .failed reason) ↔
    ∀ path location entries, directory.toString? = some path →
      ¬ system.LeadsTo path (.directory location entries)

theorem isRowOf_rowOf (settings : Settings) (system : FileSystem) (directory : NativeText) :
    settings.IsRowOf system directory ((settings.scan system).rowOf system directory) := by
  cases isText : directory.toString? with
  | none =>
      obtain ⟨reason, row⟩ := (settings.scan system).exists_rowOf_eq_failed system isText
      rw [row]
      refine ⟨rfl, ?_, iff_of_true ⟨reason, rfl⟩ ?_⟩
      · intro path isPath
        cases isText.symm.trans isPath
      · intro path location entries isPath
        cases isText.symm.trans isPath
  | some path =>
      rw [Scan.rowOf_of_toString? _ isText]
      have isRow := (settings.scan system).isRowOf_row path
      refine ⟨?_, ?_, ?_⟩
      · rw [isRow.named, NativeText.display_of_toString? isText]
      · intro other isOther jobs
        cases isText.symm.trans isOther
        rw [← (settings.scan system).row_withJobs jobs]
        exact Scan.isRowOf_row _ path
      · constructor
        · rintro ⟨reason, failed⟩ other location entries isOther leadsTo
          cases isText.symm.trans isOther
          have walked := isRow.scanned _ (walk_of_directory settings.ignore leadsTo)
          rw [walked.1] at failed
          cases failed
        · intro nowhere
          obtain ⟨reason, failed⟩ := walk_of_no_directory settings.ignore
            fun location entries => nowhere path location entries isText
          exact ⟨_, (isRow.failed _ failed).1⟩

end Settings

namespace RunResult

theorem ofWritten_of_whole {written : Written} (whole : written.fault = none) :
    ofWritten written = .report written.text := by
  rw [ofWritten, whole]

theorem ofWritten_of_stopped {written : Written} {fault : WriteFault}
    (stopped : written.fault = some fault) :
    ofWritten written = .brokenOff written.text fault := by
  rw [ofWritten, stopped]

theorem ofWritten_ne_failure (written : Written) (message : String) :
    ofWritten written ≠ .failure message := by
  cases ends : written.fault with
  | none => simp [ofWritten_of_whole ends]
  | some fault => simp [ofWritten_of_stopped ends]

/-- How a run ends that writes a report on some directories in one of its forms. -/
structure Writes (result : RunResult) (report : Report) (directories : List NativeText)
    (format : ReportFormat) : Prop where
  /-- It writes the report, or as much of it as can be written. -/
  standardOutput : result.standardOutput = (report.render directories format).text
  /-- The report is written whole when it can be. -/
  whole : report.CanBeWritten directories format →
    result = .report (report.render directories format).text
  /-- Otherwise the run breaks off, with the fault of the form. -/
  brokenOff : ¬ report.CanBeWritten directories format →
    result = .brokenOff (report.render directories format).text format.fault
  succeeds_iff : result.exitCode = 0 ↔ report.CanBeWritten directories format

theorem writes_ofWritten (report : Report) (directories : List NativeText)
    (format : ReportFormat) :
    (ofWritten (report.render directories format)).Writes report directories format := by
  by_cases can : report.CanBeWritten directories format
  · rw [ofWritten_of_whole (Report.fault_render_of_canBeWritten can)]
    exact ⟨rfl, fun _ => rfl, absurd can, iff_of_true rfl can⟩
  · rw [ofWritten_of_stopped (Report.fault_render_of_not_canBeWritten can)]
    refine ⟨rfl, fun whole => absurd whole can, fun _ => rfl, iff_of_false ?_ can⟩
    cases format with
    | text => exact Nat.succ_ne_zero 100
    | json => exact Nat.succ_ne_zero 0

end RunResult

namespace Arguments

variable {arguments : Arguments} {system : FileSystem}

/-- Arguments ask for the same report when they differ at most in the number of jobs and
in the verbosity. -/
structure AsksLike (first second : Arguments) : Prop where
  directories : first.directories = second.directories
  format : first.format.getD .text = second.format.getD .text
  config : first.config = second.config

theorem run_of_load_error {problem : Problem}
    (failed : Settings.loadNamed system arguments.config = .error problem) :
    arguments.run system = .failure (settingsFailure problem) := by
  rw [run, report, failed]
  rfl

theorem run_of_load {settings : Settings}
    (loaded : Settings.loadNamed system arguments.config = .ok settings) :
    arguments.run system = .ofWritten
      ((Report.ofRows (arguments.directories.map ((settings.scan system).rowOf system))).render
        arguments.directories (arguments.format.getD .text)) := by
  have rows := funext ((settings.scan system).rowOf_withJobs (arguments.jobs.getD 1) system)
  rw [run, report, loaded, ← rows]
  rfl

theorem AsksLike.run_eq {first second : Arguments} (alike : first.AsksLike second)
    (system : FileSystem) : first.run system = second.run system := by
  cases loaded : Settings.loadNamed system first.config with
  | error problem =>
      rw [run_of_load_error loaded, run_of_load_error (alike.config ▸ loaded)]
  | ok settings =>
      rw [run_of_load loaded, run_of_load (alike.config ▸ loaded), alike.directories,
        alike.format]

end Arguments

theorem run_of_parse {line : List NativeText} {arguments : Arguments}
    (accepted : CommandLine.parse line = .ok arguments) (system : FileSystem) :
    run system line = arguments.run system := by
  rw [run, accepted]

/-- A run that asks for a scan fails in its settings when they cannot be loaded, and only
then; it writes nothing to the standard output in this case. Otherwise it writes a report
that has a row for each directory on the line, in the same order, and it succeeds when this
report can be written. All lines that differ at most in the number of jobs and in the
verbosity have the same run. -/
theorem run_reports_unless_settings_fail (system : FileSystem) {line : List NativeText}
    {arguments : Arguments} (accepted : CommandLine.parse line = .ok arguments) :
    ((∃ message, run system line = .failure message) ↔
        ∃ problem, Settings.loadNamed system arguments.config = .error problem) ∧
      (∀ problem, Settings.loadNamed system arguments.config = .error problem →
        run system line = .failure (Arguments.settingsFailure problem) ∧
          (run system line).exitCode = 1 ∧ (run system line).standardOutput = "") ∧
      (∀ settings, Settings.loadNamed system arguments.config = .ok settings →
        ∃ rows, List.Forall₂ (settings.IsRowOf system)
            (CommandLine.namedDirectories false line) rows ∧
          (run system line).Writes (Report.ofRows rows)
            (CommandLine.namedDirectories false line) (arguments.format.getD .text)) ∧
      ∀ other otherArguments, CommandLine.parse other = .ok otherArguments →
        arguments.AsksLike otherArguments → run system other = run system line := by
  have runs := run_of_parse accepted system
  refine ⟨?_, ?_, ?_, ?_⟩
  · cases loaded : Settings.loadNamed system arguments.config with
    | error problem =>
        rw [runs, Arguments.run_of_load_error loaded]
        exact iff_of_true ⟨_, rfl⟩ ⟨_, rfl⟩
    | ok settings =>
        rw [runs, Arguments.run_of_load loaded]
        refine iff_of_false ?_ (by simp)
        rintro ⟨message, failed⟩
        exact RunResult.ofWritten_ne_failure _ _ failed
  · intro problem failed
    rw [runs, Arguments.run_of_load_error failed]
    exact ⟨rfl, rfl, rfl⟩
  · intro settings loaded
    have named := (CommandLine.directories_of_parse accepted).1
    rw [runs, Arguments.run_of_load loaded, named]
    refine ⟨_, ?_, RunResult.writes_ofWritten _ _ _⟩
    rw [List.forall₂_map_right_iff]
    exact List.forall₂_same.mpr fun directory _ => settings.isRowOf_rowOf system directory
  · intro other otherArguments otherAccepted alike
    rw [runs, run_of_parse otherAccepted system, alike.run_eq]

/-- A command line that names a file, a directory and a path to nothing. -/
def lineOfThree : List NativeText :=
  ["-j", "4", "main.py", "--format=json", ".", "missing", "-v"]

/-- The run on three paths ends in a report on all of them, and so it does with the
options elsewhere on the line; a run whose settings are at the end of a circle of links
writes no report. -/
theorem run_reports_smallSystem :
    (∃ rows, List.Forall₂ (Settings.standard.IsRowOf Walk.smallSystem)
        (["main.py", ".", "missing"] : List NativeText) rows ∧
        run Walk.smallSystem lineOfThree = .report (Report.ofRows rows).toJsonText) ∧
      run Walk.smallSystem ["main.py", ".", "missing", "--format", "json"] =
        run Walk.smallSystem lineOfThree ∧
      (run Walk.smallSystem ["--config", "c", "."]).exitCode = 1 ∧
        (run Walk.smallSystem ["--config", "c", "."]).standardOutput = "" := by
  have accepted : CommandLine.parse lineOfThree =
      .ok ⟨["main.py", ".", "missing"], some .json, none, some 4, 1⟩ := rfl
  have otherAccepted : CommandLine.parse ["--config", "c", "."] =
      .ok ⟨["."], none, some "c", none, 0⟩ := rfl
  obtain ⟨_, _, reports, alike⟩ := run_reports_unless_settings_fail Walk.smallSystem accepted
  obtain ⟨_, fails, _, _⟩ := run_reports_unless_settings_fail Walk.smallSystem otherAccepted
  obtain ⟨rows, isRow, writes⟩ := reports .standard rfl
  have texts : ∀ directory ∈ CommandLine.namedDirectories false lineOfThree,
      directory.isText := by decide
  have whole := writes.whole texts
  refine ⟨⟨rows, isRow, whole.trans ?_⟩, alike _ _ rfl ⟨rfl, rfl, rfl⟩, (fails _ rfl).2⟩
  exact congrArg (RunResult.report ·.text) (Report.writeJson_of_texts _ texts)

/-! ## Runs that break off -/

/-- A command line that asks for JSON on a directory which is named by the byte 0xFF. -/
def lineBeyondTexts : List NativeText :=
  ["--format", "json", ⟨[0xFF]⟩]

/-- The standard settings with another label for files with block comments. -/
def Settings.labelling (label : String) : Settings :=
  ⟨.standard, ⟨".al", label⟩, .standard⟩

/-- The label has no part in the route of a file. -/
theorem Settings.route_labelling (label path : String) :
    (labelling label).route path = Settings.standard.route path := rfl

/-- A directory with one file with block comments, beside a file with settings that give a
label for it. -/
def systemOfLabel (label : String) : FileSystem :=
  ⟨[.directory "work"
    [.file "c.json" (encodeUtf8 (print (Settings.labelling label).toJson)),
      .directory "src" [.file "a.al" (stringBytes "x\n")]]], ["work"]⟩

/-- The file is counted under the label, whatever the label is. -/
theorem row_systemOfLabel (label : String) :
    ((Settings.labelling label).scan (systemOfLabel label)).row "src" =
      ReportText.rowUnder label := by
  have walked : ((Settings.labelling label).scan (systemOfLabel label)).walk "src" =
      .ok ["src/a.al"] := rfl
  have classified : ((Settings.labelling label).scan (systemOfLabel label)).classify "src/a.al" =
      .classified ⟨"src/a.al", label, ⟨1, 0, 0, 0⟩⟩ := by
    have route : (Settings.labelling label).route "src/a.al" = .blockComment := by
      rw [Settings.route_labelling]
      decide +kernel
    have read : (systemOfLabel label).read "src/a.al" = .ok (stringBytes "x\n") := rfl
    have counts : BlockComment.count (decodeLossy (stringBytes "x\n")) = ⟨1, 0, 0, 0⟩ := by
      decide +kernel
    rw [Settings.classify_scan, Settings.classifyWith_blockComment route read, counts]
    rfl
  rw [Scan.row, Scan.scan?_of_walk _ walked, Scan.summarise, List.map_singleton, classified]
  rfl

theorem load_systemOfLabel {label : String} (named : ¬ Label.isPseudo label)
    (visible : ¬ isBlank label.toList) :
    Settings.loadNamed (systemOfLabel label) (some "c.json") = .ok (.labelling label) := by
  have spells : Spells (Settings.labelling label).toJson _ :=
    Settings.spells_print_toJson (show 20 ≤ maxNatural by decide)
      (show 100 * 1024 ≤ maxNatural by decide)
  have read : (systemOfLabel label).read "c.json" =
      .ok (encodeUtf8 ([] ++ (print (Settings.labelling label).toJson ++ []))) := by
    rw [List.nil_append, List.append_nil]
    rfl
  have loaded := Settings.load_of_given (by decide) isGap_nil isGap_nil read
    (GivenSettings.isObjectOf_ofSettings spells)
  have valid : (Settings.labelling label).fault? = none := by
    simp only [Settings.fault?, Settings.labelling, visible, named]
    rfl
  rw [Settings.loadNamed, NativeText.toString?_ofString]
  dsimp only
  rw [loaded, GivenSettings.applyTo_ofSettings, Settings.check, valid]

/-- The run on the directory breaks off in front of its table when the label is too wide. -/
theorem run_systemOfLabel {label : String} (named : ¬ Label.isPseudo label)
    (visible : ¬ isBlank label.toList)
    (unfit : ¬ ReportText.LabelsFit (ReportText.rowUnder label)) :
    run (systemOfLabel label) ["--config", "c.json", "src"] =
      .brokenOff (textOf (ReportText.openingLines (ReportText.rowUnder label)))
        .widthOutOfRange := by
  have accepted : CommandLine.parse ["--config", "c.json", "src"] =
      .ok ⟨["src"], none, some "c.json", none, 0⟩ := rfl
  have loaded : Settings.loadNamed (systemOfLabel label)
      (Arguments.mk ["src"] none (some "c.json") none 0).config = .ok (.labelling label) :=
    load_systemOfLabel named visible
  have broken (totals : ReportTotals) : (Report.mk [ReportText.rowUnder label] totals).toText = _ :=
    ReportText.toText_of_not_labelsFit (List.forall_mem_nil _) unfit [] totals
  rw [run_of_parse accepted, Arguments.run_of_load loaded, List.map_singleton,
    Scan.rowOf_of_toString? _ (NativeText.toString?_ofString "src"), row_systemOfLabel]
  have written : (Report.ofRows [ReportText.rowUnder label]).render ["src"] .text = _ := broken _
  rw [Option.getD_none, written, ReportText.textOfRows, List.map_nil, String.join_nil,
    String.empty_append, RunResult.ofWritten]

/-- Two runs break off although their settings can be loaded: one that is to print a path
that is no text, and one that is to print a label which is too wide. -/
theorem runs_break_off_after_loading :
    Settings.loadNamed Walk.smallSystem none = .ok .standard ∧
      run Walk.smallSystem lineBeyondTexts =
        .brokenOff "\x7b\n  \"directories\": [\n    \x7b\n      \"directory\": " .pathNotUtf8 ∧
      Settings.loadNamed (systemOfLabel ReportText.longLabel) (some "c.json") =
        .ok (.labelling ReportText.longLabel) ∧
      run (systemOfLabel ReportText.longLabel) ["--config", "c.json", "src"] =
        .brokenOff (textOf (ReportText.openingLines (ReportText.rowUnder ReportText.longLabel)))
          .widthOutOfRange := by
  have visible : ¬ isBlank ReportText.longLabel.toList := by
    rw [ReportText.longLabel, String.toList_ofList, List.replicate_succ, isBlank, List.all_cons]
    exact Bool.false_ne_true
  have named := ReportText.not_isPseudo_longLabel
  exact ⟨rfl, rfl, load_systemOfLabel named visible,
    run_systemOfLabel named visible ReportText.not_labelsFit_rowUnder_longLabel⟩

end SourceLines
