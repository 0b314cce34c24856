import OverpassQuery.Configuration.File
import OverpassQuery.GeoJson.Document
import OverpassQuery.TagList.Parser

/-!
# How a run fails

Each stage of a run has its failures. A failure is told as a chain of messages:
what could not be done, then why, down to the first cause.

A run whose query cannot be written to standard output is given up at once: its
report says only that, and it has an exit status of its own. The place in the
program, which stands in front of such a report, is left out.
-/

set_option autoImplicit false

namespace OverpassQuery

/-- The failure of a run. -/
inductive Failure where
  | configuration (path : String) (cause : ConfigurationError)
  | wayTags (cause : TagList.SyntaxError)
  | relationTags (cause : TagList.SyntaxError)
  /-- The file of an area cannot be read. -/
  | unreadableArea (path : String) (cause : FileError)
  /-- The file of an area yields no polygons. -/
  | unusableArea (path : String) (cause : GeoJson.DocumentError)
  | query (cause : PresetError)
  | submission (cause : SubmitError)
  /-- The answer cannot be written to standard output. -/
  | unprinted (cause : FileError)
  /-- The query, which is asked for, cannot be written to standard output. -/
  | unshown (cause : FileError)

/-- The messages of a failed submission and its causes. -/
def SubmitError.chain : SubmitError → List String
  | .unavailable attempts (some last) =>
      (SubmitError.unavailable attempts (some last)).message :: last.chain
  | .unwritten path cause => [(SubmitError.unwritten path cause).message, cause.message]
  | error => [error.message]

namespace Failure

/-- The messages of a failure and its causes. -/
def chain : Failure → List String
  | .configuration path cause => ["Config: Failed to load " ++ path, cause.message]
  | .wayTags cause => ["CLI: Invalid --way-tags: " ++ cause.message]
  | .relationTags cause => ["CLI: Invalid --relation-tags: " ++ cause.message]
  | .unreadableArea path cause => ["CLI: Failed to read " ++ path, cause.message]
  | .unusableArea path cause => ["CLI: " ++ path ++ ": " ++ cause.message]
  | .query cause => ["Query: Failed to build query", cause.message]
  | .submission cause => cause.chain
  | .unprinted cause => ["Output: Failed to write response", cause.message]
  | .unshown cause => ["failed printing to stdout: " ++ cause.message]

/-- A cause under a failure, with its number if there are several. The lines of its message
are indented. -/
def listedCause (number : Option Nat) (message : String) : String :=
  let (first, further) := match number with
    | none => ("    ", "    ")
    | some number => (String.ofList ((toString number).toList.leftpad 5 ' ') ++ ": ", "       ")
  "\n" ++ first ++ ("\n" ++ further).intercalate (message.splitOn "\n")

/-- The causes under a failure. -/
def listedCauses : List String → String
  | [] => ""
  | [cause] => "\n\nCaused by:" ++ listedCause none cause
  | causes =>
      "\n\nCaused by:"
        ++ String.join (causes.zipIdx.map fun (cause, number) => listedCause (some number) cause)

/-- The lines of a failure, with its causes. -/
def lines (failure : Failure) : String :=
  match failure.chain with
  | [] => ""
  | failed :: causes => failed ++ listedCauses causes

/-- The report of a failure. -/
def report : Failure → String
  | .unshown cause => (Failure.unshown cause).lines
  | failure => "Error: " ++ failure.lines

/-- The exit status of a run that fails. -/
def exitStatus : Failure → Nat
  | .unshown _ => 101
  | _ => 1

end Failure

end OverpassQuery
