import OverpassQuery.Calendar.Timestamp
import OverpassQuery.Geography

/-!
# Settings

The settings in front of a query: output format, limits, a box around all
statements, and the dates of past data. A setting is written as key, value and
options between brackets. Only the values of the output format are checked, and
the csv format must come with its header options.
-/

set_option autoImplicit false

namespace OverpassQuery

/-- The format of the engine's answer. -/
inductive OutputFormat where
  | xml
  | json
  | csv
  deriving DecidableEq

/-- The keys of settings. -/
inductive SettingKey where
  | out
  | timeout
  | maxsize
  | boundingBox
  | date
  | diff
  deriving DecidableEq

/-- A setting with its value and, for some keys, options that follow it. -/
structure Setting where
  key : SettingKey
  value : String
  options : String
  deriving DecidableEq

namespace OutputFormat

/-- All formats. -/
def all : List OutputFormat := [.xml, .json, .csv]

/-- The name of a format. -/
def name : OutputFormat → String
  | .xml => "xml"
  | .json => "json"
  | .csv => "csv"

/-- The format with a given name, in lower case. -/
def ofName? (name : String) : Option OutputFormat := all.find? (·.name = name)

/-- The format with a given name, or the cause of its refusal. -/
def ofName (name : String) : Except BuildError OutputFormat :=
  match ofName? name with
  | some format => .ok format
  | none => .error (.invalidOutputFormat name)

end OutputFormat

namespace SettingKey

/-- The name of a key. -/
def name : SettingKey → String
  | .out => "out"
  | .timeout => "timeout"
  | .maxsize => "maxsize"
  | .boundingBox => "bbox"
  | .date => "date"
  | .diff => "diff"

end SettingKey

namespace Setting

/-- A value of the output key must name a format, and csv must have options. -/
def check (key : SettingKey) (value options : String) : Except BuildError Unit :=
  if key = .out then do
    let format ← OutputFormat.ofName value
    if format = .csv ∧ options = "" then .error .missingCsvOptions else .ok ()
  else .ok ()

/-- A setting from its parts. -/
def make (key : SettingKey) (value : String) (options : Option String) :
    Except BuildError Setting := do
  let options := options.getD ""
  check key value options
  return ⟨key, value, options⟩

/-- The output format, with its options. -/
def output (format : OutputFormat) (options : Option String) : Except BuildError Setting :=
  make .out format.name options

/-- The greatest run time in seconds. -/
def timeout (seconds : Nat) : Setting := ⟨.timeout, toString seconds, ""⟩

/-- The greatest amount of memory in bytes. -/
def maxsize (bytes : Nat) : Setting := ⟨.maxsize, toString bytes, ""⟩

/-- A box that applies to all statements. -/
def boundingBox (box : BoundingBox) : Except BuildError Setting := do
  box.check
  return ⟨.boundingBox, box.clause, ""⟩

/-- The data as it was at an instant of the calendar. -/
def date? (time : Timestamp) : Option Setting :=
  time.quoted?.map fun value => ⟨.date, value, ""⟩

/-- The changes from an instant to another, or to now. -/
def diff? (start : Timestamp) (stop : Option Timestamp) : Option Setting := do
  let first ← start.quoted?
  match stop with
  | none => return ⟨.diff, first, ""⟩
  | some stop => return ⟨.diff, first ++ "," ++ (← stop.quoted?), ""⟩

/-- The text of a setting. -/
def text (setting : Setting) : String :=
  "[" ++ setting.key.name ++ ":" ++ setting.value ++ setting.options ++ "]"

end Setting

end OverpassQuery
