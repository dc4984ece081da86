/-
# JSON files: settings or data

A JSON file is data when it is an array of many elements, when it is large or
when its name says so, unless its name speaks for settings. A file that does not
parse is never data. The name is compared in lower case; keywords are taken as
they are. Of the content only the root counts: an array of some length, or
anything else.
-/

import SourceLines.Files.PathName
import SourceLines.Json.Reader
import SourceLines.Problem
import SourceLines.Settings.Basic

namespace SourceLines

/-- What the root of a JSON file is. -/
inductive JsonRoot
  | unparseable
  | array (length : Nat)
  | other
  deriving DecidableEq, Repr

/-- What a JSON file is for. -/
inductive JsonKind
  | config
  | data
  deriving DecidableEq, Repr

/-- The root of a parsed value. -/
def JsonRoot.ofValue : Json.Value → JsonRoot
  | .array items => .array items.length
  | _ => .other

/-- The root of a JSON file's content. -/
def JsonRoot.inspect (path : String) (content : Bytes) : Except ClassifyProblem JsonRoot :=
  let text := decodeLossy content
  match Json.parse text with
  | .ok value => .ok (.ofValue value)
  | .error failure => .error (.malformedJson path (failure.message text))

namespace JsonRules

/-- The name contains one of the keywords. -/
def nameHas (keywords : List String) (name : String) : Bool :=
  keywords.any (containsString · name)

/-- The kind of a JSON file with this name in lower case, size and root. -/
def kindOf (rules : JsonRules) (name : String) (size : Nat) (root : JsonRoot) : JsonKind :=
  let speaksForData (isLargeArray : Bool) :=
    isLargeArray || rules.sizeThreshold < size || nameHas rules.dataKeywords name
  let isData :=
    match root with
    | .unparseable => false
    | .array length => speaksForData (rules.arrayThreshold < length)
    | .other => speaksForData false
  if isData && !nameHas rules.configKeywords name then .data else .config

/-- The kind of a JSON file. -/
def decide (rules : JsonRules) (path : String) (content : Bytes) : JsonKind :=
  let root :=
    match JsonRoot.inspect path content with
    | .ok root => root
    | .error _ => .unparseable
  rules.kindOf (PathName.lowerFileName path) content.length root

end JsonRules

end SourceLines
