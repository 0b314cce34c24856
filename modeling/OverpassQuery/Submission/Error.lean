import OverpassQuery.Text.Quoted

/-!
# Why a request fails

The failures of a request to an endpoint, of a submission to the query engine,
of a file operation, and of the search for a place, with their messages.
-/

set_option autoImplicit false

namespace OverpassQuery

/-- An endpoint was not reached, or its answer was not received in full. -/
structure TransportError where
  endpoint : String
  message : String
  deriving DecidableEq

/-- The kinds of failure of a file operation. -/
inductive FileError where
  | notFound
  | isADirectory
  | notADirectory
  | permissionDenied
  | invalidInput
  | invalidName
  /-- The content is not the UTF-8 text that was asked for. -/
  | invalidData
  | other
  deriving DecidableEq

/-- The failure of a submission. -/
inductive SubmitError where
  | transport (error : TransportError)
  /-- The status endpoint reported that no slot is free. -/
  | rateLimited (body : String)
  /-- Every round was unsuccessful; the last cause is kept. -/
  | unavailable (attempts : Nat) (last : Option SubmitError)
  /-- The engine refused the query. -/
  | engine (status : Nat) (body : String)
  /-- The answer could not be written to a file. -/
  | unwritten (path : String) (cause : FileError)

/-- The reason why the answer of a geocoder cannot be used. -/
inductive DecodeFailure where
  | status (code : Nat) (body : String)
  | malformed (detail : String)
  deriving DecidableEq

/-- The failure of a search for a place. -/
inductive GeocodeError where
  | transport (error : TransportError)
  | decode (failure : DecodeFailure)
  | notFound (place : String)
  deriving DecidableEq

namespace TransportError

/-- The message of a failed request. -/
def text (error : TransportError) : String :=
  "request to " ++ error.endpoint ++ " failed: " ++ error.message

end TransportError

namespace FileError

/-- The description of a file failure. -/
def message : FileError → String
  | .notFound => "no such file or directory"
  | .isADirectory => "is a directory"
  | .notADirectory => "not a directory"
  | .permissionDenied => "permission denied"
  | .invalidInput => "invalid path"
  | .invalidName => "file name too long"
  | .invalidData => "not a text in UTF-8"
  | .other => "input/output failure"

end FileError

namespace SubmitError

/-- The message of a failed submission. -/
def message : SubmitError → String
  | .transport error => error.text
  | .rateLimited body => "query engine is rate limited:\n" ++ body
  | .unavailable attempts _ =>
      "query engine is not available for download after " ++ toString attempts
        ++ " attempt(s), please wait and try again"
  | .engine status body =>
      "query engine error (status code " ++ toString status ++ "):\n" ++ body
  | .unwritten path cause =>
      "failed to export response to " ++ Text.quoted path ++ ": " ++ cause.message

/-- Whether the engine was reached but busy, so that another attempt may help. -/
def isRateLimited : SubmitError → Bool
  | .rateLimited _ => true
  | .unavailable _ (some last) => last.isRateLimited
  | _ => false

/-- Whether a failure was caused by another that can be shown with it. -/
def hasSource : SubmitError → Bool
  | .unavailable _ last => last.isSome
  | .unwritten .. => true
  | _ => false

end SubmitError

namespace DecodeFailure

/-- The description of an unusable answer. -/
def message : DecodeFailure → String
  | .status code body => "status code " ++ toString code ++ ": " ++ body
  | .malformed detail => detail

end DecodeFailure

namespace GeocodeError

/-- The message of a failed search. -/
def message : GeocodeError → String
  | .transport error => error.text
  | .decode failure => "failed to decode geocoder response: " ++ failure.message
  | .notFound place =>
      "could not find suitable polygon for input place name '" ++ place ++ "'"

end GeocodeError

end OverpassQuery
