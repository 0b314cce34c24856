/-!
# Faults of usage

Why a command line is not carried out: it has a fault, or it asks for nothing but
help or the version.
-/

set_option autoImplicit false

namespace OverpassQuery

/-- Why a command line is not carried out. -/
inductive UsageError where
  | helpRequested
  | versionRequested
  /-- Neither an option nor a command is given. -/
  | nothingGiven
  | missingCommand
  | unknownCommand (name : String)
  | unknownArgument (argument : String)
  | repeatedOption (option : String)
  /-- A flag is given a value. -/
  | surplusValue (option : String)
  | missingArguments (names : List String)
  /-- An option has no value, or one that is not among those it may have. -/
  | invalidValue (option value : String)
  /-- The value of an option is not of the right form. -/
  | malformedValue (option value : String)
  deriving DecidableEq

namespace UsageError

/-- Whether a user is given what was asked for. -/
def isAnswered : UsageError → Bool
  | .helpRequested | .versionRequested => true
  | _ => false

/-- The exit status. -/
def exitStatus (error : UsageError) : Nat := if error.isAnswered then 0 else 2

/-- The description of a fault. -/
def message : UsageError → String
  | .helpRequested | .versionRequested => ""
  | .nothingGiven => "a command is required"
  | .missingCommand => "a command is required"
  | .unknownCommand name => "unknown command '" ++ name ++ "'"
  | .unknownArgument argument => "unexpected argument '" ++ argument ++ "'"
  | .repeatedOption option => "'" ++ option ++ "' cannot be used multiple times"
  | .surplusValue option => "'" ++ option ++ "' takes no value"
  | .missingArguments names => "missing required arguments: " ++ ", ".intercalate names
  | .invalidValue option value => "invalid value '" ++ value ++ "' for '" ++ option ++ "'"
  | .malformedValue option value => "invalid value '" ++ value ++ "' for '" ++ option ++ "'"

end UsageError

end OverpassQuery
