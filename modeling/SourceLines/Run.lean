/-
# A run of the program

A run reads the arguments, loads the settings and scans the directories. What it
writes depends on nothing but the arguments and the file system; the number of
jobs and the verbosity do not show in it. Directories that cannot be scanned are
part of the report, whereas settings that cannot be loaded end the run before
anything is written.
-/

import SourceLines.Classify.Route
import SourceLines.CommandLine
import SourceLines.Files.Walk
import SourceLines.Report.Format
import SourceLines.Report.Text
import SourceLines.Scan
import SourceLines.Settings.Load

namespace SourceLines

/-- A report on these directories in one of its forms. -/
def Report.render (report : Report) (directories : List NativeText) : ReportFormat → Written
  | .text => report.toText
  | .json => report.writeJson directories

/-- The scan of a file system under some settings, with this detector for what is
not special. -/
def Settings.scanWith (settings : Settings) (system : FileSystem) (detect : Detector) : Scan where
  walk := walk system settings.ignore
  classify := settings.classifyWith system detect

/-- The scan of a file system under some settings. -/
def Settings.scan (settings : Settings) (system : FileSystem) : Scan :=
  settings.scanWith system (.generic system)

/-- The row of a directory as it is named on the command line. A path that is not a text
leads to no directory. -/
def Scan.rowOf (scan : Scan) (system : FileSystem) (directory : NativeText) : DirectoryRow :=
  match directory.toString? with
  | some path => scan.row path
  | none =>
      let name := directory.display
      let problem := Problem.unavailableDirectory name (system.errorBeyondTexts directory).message
      ⟨name, .failed problem.message, .empty⟩

/-- The name of the program. -/
def programName : String := "source-lines"

/-- What the program is called with. -/
def usageText : String :=
  "Usage: " ++ programName ++ " [--format text|json] [--config FILE] [-j JOBS] [-v]... DIR...\n"

/-- The wording of a problem with the arguments. -/
def UsageProblem.message : UsageProblem → String
  | missingDirectory => "error: no directory is given\n\n" ++ usageText
  | unknownArgument => "error: unknown argument\n\n" ++ usageText
  | invalidValue => "error: a value is missing or not allowed\n\n" ++ usageText
  | invalidNumber => "error: the number of jobs is not a number\n\n" ++ usageText
  | notText => "error: a value is not UTF-8\n\n" ++ usageText
  | repeatedOption => "error: an option is given more than once\n\n" ++ usageText
  | unwantedValue => "error: a flag takes no value\n\n" ++ usageText
  | help => usageText
  | version => programName ++ " 0.3.0\n"

/-- How a run ends. -/
inductive RunResult
  /-- The report is written to the standard output. -/
  | report (text : String)
  /-- The beginning of the report is written, and then something stops the writing. -/
  | brokenOff (beginning : String) (fault : WriteFault)
  /-- The message is written to the standard error. -/
  | failure (message : String)
  /-- The arguments ask for something else than a scan, or make no sense. -/
  | usage (problem : UsageProblem)

/-- The run that writes a report, or as much of it as can be written. -/
def RunResult.ofWritten (written : Written) : RunResult :=
  match written.fault with
  | none => report written.text
  | some fault => brokenOff written.text fault

/-- The exit code of a run. Asking about the program is no failure. A path that cannot be
written is an error like others, whereas the printer lets the program crash. -/
def RunResult.exitCode : RunResult → Nat
  | report _ => 0
  | brokenOff _ .pathNotUtf8 => 1
  | brokenOff _ .widthOutOfRange => 101
  | failure _ => 1
  | usage .help => 0
  | usage .version => 0
  | usage _ => 2

/-- What a run writes to the standard output: a report or its beginning, or the answer to
a question. -/
def RunResult.standardOutput (result : RunResult) : String :=
  match result with
  | report text => text
  | brokenOff beginning _ => beginning
  | failure _ => ""
  | usage problem => if result.exitCode = 0 then problem.message else ""

/-- What a run writes to the standard error when it does not end with a whole report or
an answer. -/
def RunResult.standardError (result : RunResult) : String :=
  match result with
  | report _ => ""
  | brokenOff _ .pathNotUtf8 =>
      "Error: failed to write output: " ++ WriteFault.pathNotUtf8.message ++ "\n"
  | brokenOff _ .widthOutOfRange => WriteFault.widthOutOfRange.message ++ "\n"
  | failure message => message ++ "\n"
  | usage problem => if result.exitCode = 0 then "" else problem.message

namespace Arguments

/-- The message of a run whose settings cannot be loaded. -/
def settingsFailure (problem : Problem) : String :=
  "Error: failed to load configuration: " ++ problem.chain

/-- The report that the arguments ask for. Without a number of jobs one job is
enough. -/
def report (arguments : Arguments) (system : FileSystem) : Except Problem Report := do
  let settings ← Settings.loadNamed system arguments.config
  let scan := (settings.scan system).withJobs (arguments.jobs.getD 1)
  return .ofRows (arguments.directories.map (scan.rowOf system))

/-- The run that the arguments ask for. -/
def run (arguments : Arguments) (system : FileSystem) : RunResult :=
  match arguments.report system with
  | .ok report =>
      .ofWritten (report.render arguments.directories (arguments.format.getD .text))
  | .error problem => .failure (settingsFailure problem)

end Arguments

/-- The run of the program with these arguments on this file system. -/
def run (system : FileSystem) (arguments : List NativeText) : RunResult :=
  match CommandLine.parse arguments with
  | .ok arguments => arguments.run system
  | .error problem => .usage problem

end SourceLines
