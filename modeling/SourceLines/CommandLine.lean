/-
# The command line

Arguments are directories, flags and options with values. They are read from left
to right. Directories and the value of an option wait until something else
follows them; only then are they checked. So an argument that is not known is
reported before the values that wait in front of it, whereas a flag, another
option or the end of the line brings out what is wrong with them. After `--`
every argument is a directory.

Arguments are bytes. The names of options are texts, and so are the values of all
options but the path of the settings; a directory may be named by any bytes.
-/

import SourceLines.Text.Native

namespace SourceLines

/-- Why the arguments do not ask for a scan. -/
inductive UsageProblem
  | missingDirectory
  | unknownArgument
  /-- A value is missing, empty or not one of those allowed. -/
  | invalidValue
  /-- A number of jobs is not a number. -/
  | invalidNumber
  /-- A number of jobs is not even a text. -/
  | notText
  /-- An option is given more than once. -/
  | repeatedOption
  /-- A flag is given a value. -/
  | unwantedValue
  | help
  | version
  deriving DecidableEq, Repr

/-- The form of a report. -/
inductive ReportFormat
  | text
  | json
  deriving DecidableEq, Repr

/-- How much a run says about itself. -/
inductive LogLevel
  | warn
  | info
  | debug
  | trace
  deriving DecidableEq, Repr

/-- What the arguments ask for. -/
structure Arguments where
  directories : List NativeText := []
  format : Option ReportFormat := none
  config : Option NativeText := none
  /-- The number of jobs, if it is given. -/
  jobs : Option Nat := none
  verbosity : Nat := 0
  deriving DecidableEq, Repr

/-- More flags make a run say more, up to a level that says everything. -/
def Arguments.logLevel (arguments : Arguments) : LogLevel :=
  match arguments.verbosity with
  | 0 => .warn
  | 1 => .info
  | 2 => .debug
  | _ => .trace

namespace CommandLine

/-- The options with a value. -/
inductive ValueOption
  | format
  | config
  | jobs
  deriving DecidableEq, Repr

/-- What has been given and is still to be checked. -/
inductive Waiting
  | nothing
  /-- An option, with its value if that has followed. -/
  | option (option : ValueOption) (value : Option NativeText)
  | directories (directories : List NativeText)
  deriving DecidableEq, Repr

/-- How far the arguments have been read. -/
structure State where
  arguments : Arguments := {}
  waiting : Waiting := .nothing
  deriving DecidableEq, Repr

/-! The bytes that mean something in an option. -/

@[match_pattern]
abbrev dash : UInt8 := 0x2D

@[match_pattern]
abbrev equalSign : UInt8 := 0x3D

@[match_pattern]
abbrev capitalV : UInt8 := 0x56

@[match_pattern]
abbrev letterH : UInt8 := 0x68

@[match_pattern]
abbrev letterJ : UInt8 := 0x6A

@[match_pattern]
abbrev letterV : UInt8 := 0x76

/-- The largest number of jobs. -/
def maxJobs : Nat := UInt64.size - 1

/-- The largest verbosity; more flags do not raise it. -/
def maxVerbosity : Nat := 255

/-- A natural number of 64 bits in decimal digits, with a plus sign or without. -/
def parseNumber? (text : String) : Option Nat :=
  let digits := match text.toList with
    | '+' :: rest => rest
    | all => all
  if digits.isEmpty || !digits.all Char.isDigit then none
  else
    let number := digits.foldl (fun number digit => number * 10 + (digit.toNat - 0x30)) 0
    if number ≤ maxJobs then some number else none

/-- The form of a report by its name. -/
def ReportFormat.ofName? : String → Option ReportFormat
  | "text" => some .text
  | "json" => some .json
  | _ => none

/-- Give an option its value, unless it has one already. -/
def setOption (arguments : Arguments) (option : ValueOption) (value : NativeText) :
    Except UsageProblem Arguments :=
  match option with
  | .format =>
      if arguments.format.isSome then .error .repeatedOption
      else match value.toString?.bind ReportFormat.ofName? with
        | some format => .ok { arguments with format := some format }
        | none => .error .invalidValue
  | .config =>
      if arguments.config.isSome then .error .repeatedOption
      else if value.bytes.isEmpty then .error .invalidValue
      else .ok { arguments with config := some value }
  | .jobs =>
      if arguments.jobs.isSome then .error .repeatedOption
      else match value.toString?.map parseNumber? with
        | some (some jobs) => .ok { arguments with jobs := some jobs }
        | some none => .error .invalidNumber
        | none => .error .notText

namespace State

/-- Check what waits, and make it part of the arguments. -/
def settle (state : State) : Except UsageProblem Arguments :=
  match state.waiting with
  | .nothing => .ok state.arguments
  | .option _ none => .error .invalidValue
  | .option option (some value) => setOption state.arguments option value
  | .directories directories =>
      if directories.any (·.bytes.isEmpty) then .error .invalidValue
      else
        .ok { state.arguments with directories := state.arguments.directories ++ directories }

/-- Count a flag that makes the run say more. -/
def raiseVerbosity (state : State) : Except UsageProblem State := do
  let arguments ← state.settle
  return { arguments :=
    { arguments with verbosity := min (arguments.verbosity + 1) maxVerbosity } }

/-- Stop with the answer to a question about the program. -/
def stopWith (state : State) (answer : UsageProblem) : Except UsageProblem State := do
  let _ ← state.settle
  throw answer

/-- Take an option, with a value that is attached to it or follows it. -/
def takeOption (state : State) (option : ValueOption) (attached : Option NativeText) :
    Except UsageProblem State := do
  let arguments ← state.settle
  match attached with
  | some value => return { arguments := ← setOption arguments option value }
  | none => return { arguments, waiting := .option option none }

/-- Take a directory. It waits together with those directly before it. -/
def takeDirectory (state : State) (directory : NativeText) : Except UsageProblem State :=
  match state.waiting with
  | .directories directories =>
      .ok { state with waiting := .directories (directories ++ [directory]) }
  | _ => do return { arguments := ← state.settle, waiting := .directories [directory] }

/-- Take an argument that starts with two dashes, without them. -/
def takeLong (state : State) (argument : Bytes) : Except UsageProblem State :=
  let name := NativeText.mk (argument.takeWhile (· != equalSign))
  let value := match argument.dropWhile (· != equalSign) with
    | _ :: value => some (NativeText.mk value)
    | [] => none
  match name.toString? with
  | some "format" => state.takeOption .format value
  | some "config" => state.takeOption .config value
  | some "jobs" => state.takeOption .jobs value
  | some "verbose" => if value.isSome then .error .unwantedValue else state.raiseVerbosity
  | some "help" => if value.isSome then .error .unwantedValue else state.stopWith .help
  | some "version" => if value.isSome then .error .unwantedValue else state.stopWith .version
  | _ => .error .unknownArgument

/-- Take the letters behind a single dash. The value of the option for jobs may
be attached to its letter. -/
def takeLetters (state : State) : Bytes → Except UsageProblem State
  | [] => .ok state
  | letterV :: rest => do (← state.raiseVerbosity).takeLetters rest
  | letterH :: _ => state.stopWith .help
  | capitalV :: _ => state.stopWith .version
  | letterJ :: [] => state.takeOption .jobs none
  | letterJ :: equalSign :: value => state.takeOption .jobs (some ⟨value⟩)
  | letterJ :: value => state.takeOption .jobs (some ⟨value⟩)
  | _ :: _ => .error .unknownArgument

/-- Take an argument that is no option: the value of the option that waits for
one, or a directory. -/
def takePlain (state : State) (argument : NativeText) : Except UsageProblem State :=
  match state.waiting with
  | .option option none => .ok { state with waiting := .option option (some argument) }
  | _ => state.takeDirectory argument

/-- Take all arguments. Two dashes alone make directories of those after them. -/
def takeAll (state : State) : List NativeText → Except UsageProblem State
  | [] => .ok state
  | argument :: rest =>
      match argument.bytes with
      | dash :: dash :: [] => rest.foldlM takeDirectory state
      | dash :: dash :: name => do (← state.takeLong name).takeAll rest
      | dash :: letter :: letters => do (← state.takeLetters (letter :: letters)).takeAll rest
      | _ => do (← state.takePlain argument).takeAll rest

end State

/-- What the arguments of a program ask for, or why that is not a scan. -/
def parse (arguments : List NativeText) : Except UsageProblem Arguments := do
  let state ← State.takeAll {} arguments
  let arguments ← state.settle
  if arguments.directories.isEmpty then throw .missingDirectory
  return arguments

end CommandLine

end SourceLines
