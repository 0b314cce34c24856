import OverpassQuery.Configuration.Table
import OverpassQuery.Data.Json.Reader
import OverpassQuery.Data.Toml.Reader
import OverpassQuery.Data.Yaml.Reader
import OverpassQuery.Storage

/-!
# Configuration files

A configuration file is a table in YAML, JSON or TOML; its extension says which.
If there is no file under the path itself, one is looked for under the path with
an extension appended. An empty YAML text is an empty table.

The loader that this follows also reads INI, RON and JSON5. These formats are left
out: a file with one of their extensions is refused like one with any other that
is not known, and none is looked for under such an extension.
-/

set_option autoImplicit false

namespace OverpassQuery

/-- The formats of configuration files. -/
inductive DataFormat where
  | yaml
  | json
  | toml
  deriving DecidableEq

/-- Why a configuration cannot be loaded. -/
inductive ConfigurationError where
  | missing
  | unknownFormat
  | unreadable (cause : FileError)
  | malformed
  | unusable
  deriving DecidableEq

/-- The message of a cause. -/
def ConfigurationError.message : ConfigurationError → String
  | .missing => "there is no such file"
  | .unknownFormat => "the extension is none of yaml, yml, json and toml"
  | .unreadable cause => cause.message
  | .malformed => "the file is not well formed"
  | .unusable => "a setting has an unusable value"

namespace DataFormat

/-- The extensions of files, each with its format. -/
def extensions : List (String × DataFormat) :=
  [("yaml", .yaml), ("yml", .yaml), ("json", .json), ("toml", .toml)]

/-- The only document of a YAML text; an empty table if it has none. -/
def yamlTable? (text : String) : Option Data := do
  match ← Yaml.parse? text with
  | [] => some (.table [])
  | [document] => document.toData?
  | _ => none

/-- The value of a text. -/
def parse? (format : DataFormat) (text : String) : Option Data :=
  match format with
  | .yaml => yamlTable? text
  | .json => Json.parse? (Utf8.encode text)
  | .toml => Toml.parse? text

end DataFormat

namespace Configuration

/-- The last name in a path, without slashes after it. -/
def fileName (path : String) : List Char :=
  ((path.toList.reverse.dropWhile (· = '/')).takeWhile (· ≠ '/')).reverse

/-- The extension of a path: what follows the last point of a name that does not start
with that point. -/
def extension (path : String) : String :=
  let name := fileName path
  let lastPart := (name.reverse.takeWhile (· ≠ '.')).reverse
  if lastPart.length + 1 < name.length then String.ofList lastPart else ""

/-- The mark of byte order at the start of a file, which is no part of its text. -/
def byteOrderMark : Bytes := [0xEF, 0xBB, 0xBF]

/-- The text of a file. -/
def fileText (content : Bytes) : String :=
  Utf8.decodeLossy (if content.take 3 = byteOrderMark then content.drop 3 else content)

/-- The configuration that the content of a file holds. -/
def ofContent (format : DataFormat) (content : Bytes) :
    Except ConfigurationError Configuration :=
  match format.parse? (fileText content) with
  | some (.table entries) =>
      match ofTable? entries with
      | some configuration => .ok configuration
      | none => .error .unusable
  | _ => .error .malformed

variable {m : Type → Type} [Monad m]

/-- The first file among some paths, with its format. -/
def firstFile (storage : Storage m) : List (String × DataFormat) → m (Option (String × DataFormat))
  | [] => return none
  | (path, format) :: rest => do
      if ← storage.isFile path then return some (path, format) else firstFile storage rest

/-- The file that a path means, with its format. -/
def findFile (storage : Storage m) (path : String) :
    m (Except ConfigurationError (String × DataFormat)) := do
  if ← storage.isFile path then
    match DataFormat.extensions.lookup (extension path) with
    | some format => return .ok (path, format)
    | none => return .error .unknownFormat
  else
    let candidates := DataFormat.extensions.map fun (extension, format) =>
      (path ++ "." ++ extension, format)
    match ← firstFile storage candidates with
    | some found => return .ok found
    | none => return .error .missing

/-- The configuration in the file that a path means. -/
def load (storage : Storage m) (path : String) : m (Except ConfigurationError Configuration) := do
  match ← findFile storage path with
  | .error cause => return .error cause
  | .ok (path, format) =>
      match ← storage.read path with
      | .error cause => return .error (.unreadable cause)
      | .ok content => return ofContent format content

end Configuration

end OverpassQuery
