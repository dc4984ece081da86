/-
# What can go wrong

A problem is kept as its cause, and its wording is given here and nowhere else.
Problems belong to three layers: the settings, the outside world and the
application. A problem may be put into a context, which is then told before it.
The causes of a problem are the statements behind its message, from the outside
to the inside.
-/

namespace SourceLines

/-- Two steps lead to a result when the first one ends well and the second one leads from
there to the result. -/
theorem bind_eq_ok_iff {ε α β : Type} {first : Except ε α} {next : α → Except ε β} {result : β} :
    first >>= next = .ok result ↔ ∃ part, first = .ok part ∧ next part = .ok result := by
  cases first with
  | error failure => exact iff_of_false nofun nofun
  | ok part =>
      constructor
      · intro done
        exact ⟨part, rfl, done⟩
      · rintro ⟨part, ⟨⟩, done⟩
        exact done

/-- What the file system answers instead of doing what it is asked for. -/
inductive SystemError
  | notFound
  | permissionDenied
  | notDirectory
  | isDirectory
  | nameTooLong
  | tooManyLinks
  /-- A path holds a zero byte. -/
  | zeroInPath
  /-- A file that is read as text is not UTF-8. -/
  | notUtf8
  | other (message : String)
  deriving DecidableEq, Repr

namespace SystemError

/-- The wording of a system error. -/
def message : SystemError → String
  | notFound => "No such file or directory (os error 2)"
  | permissionDenied => "Permission denied (os error 13)"
  | notDirectory => "Not a directory (os error 20)"
  | isDirectory => "Is a directory (os error 21)"
  | nameTooLong => "File name too long (os error 36)"
  | tooManyLinks => "Too many levels of symbolic links (os error 40)"
  | zeroInPath => "file name contained an unexpected NUL byte"
  | notUtf8 => "stream did not contain valid UTF-8"
  | other message => message

end SystemError

/-- What stops a scan, or a part of it. -/
inductive Problem
  | invalidSettings (reason : String)
  | unreadableFile (path : String) (error : SystemError)
  | unavailableDirectory (path reason : String)
  | malformedInput (format details : String)
  | system (error : SystemError)
  | noThreads (details : String)
  | within (context : String) (problem : Problem)
  deriving DecidableEq, Repr

namespace Problem

/-- What has happened, and the layer it belongs to; a context is told before the
problem in it. -/
def message : Problem → String
  | invalidSettings reason => "Domain error: Invalid configuration: " ++ reason
  | unreadableFile path error =>
      "Infrastructure error: Failed to read file '" ++ path ++ "': " ++ error.message
  | unavailableDirectory path reason =>
      "Infrastructure error: Directory '" ++ path ++ "' is unavailable: " ++ reason
  | malformedInput format details =>
      "Infrastructure error: Failed to parse " ++ format ++ " input: " ++ details
  | system error => "Infrastructure error: I/O error: " ++ error.message
  | noThreads details => "Application error: Thread pool creation failed: " ++ details
  | within context problem => context ++ ": " ++ problem.message

/-- The statements behind the message, from the outside to the inside. -/
def causes : Problem → List String
  | invalidSettings reason => ["Invalid configuration: " ++ reason]
  | unreadableFile path error =>
      ["Failed to read file '" ++ path ++ "': " ++ error.message, error.message]
  | unavailableDirectory path reason =>
      ["Directory '" ++ path ++ "' is unavailable: " ++ reason]
  | malformedInput format details => ["Failed to parse " ++ format ++ " input: " ++ details]
  | system error => ["I/O error: " ++ error.message, error.message]
  | noThreads details => ["Thread pool creation failed: " ++ details]
  | within _ problem => problem.message :: problem.causes

/-- The message and all causes in one line. -/
def chain (problem : Problem) : String :=
  ": ".intercalate (problem.message :: problem.causes)

end Problem

/-- Why a file could not be classified. -/
inductive ClassifyProblem
  | unreadable (path : String) (error : SystemError)
  | undetermined (path : String)
  | malformedJson (path details : String)
  deriving DecidableEq, Repr

namespace ClassifyProblem

/-- The wording of a problem with one file. -/
def message : ClassifyProblem → String
  | unreadable path error => "Failed to read '" ++ path ++ "': " ++ error.message
  | undetermined path => "Unknown language for '" ++ path ++ "'"
  | malformedJson path details => "Malformed JSON in '" ++ path ++ "': " ++ details

/-- Files in unknown languages are nothing unusual; everything else is. -/
def isExpected : ClassifyProblem → Bool
  | undetermined _ => true
  | _ => false

/-- What the system said, if that is behind the problem. -/
def cause? : ClassifyProblem → Option String
  | unreadable _ error => some error.message
  | _ => none

end ClassifyProblem

end SourceLines
