import OverpassQuery.CommandLine.UsageError

/-!
# Words of a command line

A grammar lists the options of a command and the one argument without a name that
it may take. Words are read from left to right. An option's value is attached to
it or is the next word; a word in its own right that starts with a dash is never
the value before it, unless it is a negative number and the option takes such.

The value of an option that is not attached is looked at only when the next
option or argument starts, or at the end. So of two faults the one in the later
word may be the one reported (`Reading.settle`).
-/

set_option autoImplicit false

namespace OverpassQuery

namespace CommandLine

/-! ## Grammars -/

/-- What becomes of a value. -/
structure ValueRule (α : Type) where
  /-- Whether a word such as `-5` may be the value. -/
  takesNegative : Bool
  store : String → α → Except UsageError α

/-- What an option does. -/
inductive OptionAction (α : Type) where
  | value (rule : ValueRule α)
  | flag (set : α → α)
  | help
  | version

/-- An option. -/
structure OptionRule (α : Type) where
  /-- The name after two dashes. -/
  name : String
  /-- The letter after one dash. -/
  letter : Option Char
  action : OptionAction α

/-- The words that a command takes, and what it makes of them. -/
structure Grammar (α : Type) where
  options : List (OptionRule α)
  /-- The argument without a name. -/
  operand : Option (String × ValueRule α)
  /-- The names of the commands that may follow. -/
  commands : List String

/-- A value that an option is waiting for, or that is still to be looked at. -/
structure Pending (α : Type) where
  name : String
  rule : ValueRule α
  value : Option String

/-- What has been read. -/
structure Reading (α : Type) where
  draft : α
  /-- The names of the options whose values were looked at. -/
  given : List String
  pending : Option (Pending α)
  /-- Whether the argument without a name was read. -/
  hasOperand : Bool
  /-- Whether a double dash was read, after which there are no options. -/
  isTrailing : Bool

/-! ## Values -/

/-- Whether what follows a dash makes a negative number: digits, with a point that is not in
front and an exponent without a sign that is neither in front nor empty. -/
def isUnsignedNumber (chars : List Char) : Bool :=
  let isMark (char : Char) : Bool := char == 'e' || char == 'E'
  let mantissa := chars.takeWhile fun char => !isMark char
  let exponent := chars.drop mantissa.length
  let whole := mantissa.takeWhile Char.isDigit
  let fraction := mantissa.drop whole.length
  let mantissaFits :=
    fraction = [] || (whole ≠ [] && fraction.head? = some '.' && fraction.tail.all Char.isDigit)
  let exponentFits :=
    exponent = [] || (mantissa ≠ [] && exponent.tail ≠ [] && exponent.tail.all Char.isDigit)
  mantissaFits && exponentFits

namespace Reading

variable {α : Type}

/-- What has been read before the first word. -/
def start (draft : α) : Reading α := ⟨draft, [], none, false, false⟩

/-- A reading with a value stored under a name that was not given before. -/
def store (reading : Reading α) (name : String) (rule : ValueRule α) (value : String) :
    Except UsageError (Reading α) :=
  if name ∈ reading.given then .error (.repeatedOption name)
  else
    (rule.store value reading.draft).map fun draft =>
      { reading with draft := draft, given := name :: reading.given }

/-- A reading in which the value that was still to be looked at has been stored. -/
def settle (reading : Reading α) : Except UsageError (Reading α) :=
  match reading.pending with
  | none => .ok reading
  | some ⟨name, _, none⟩ => .error (.invalidValue name "")
  | some ⟨name, rule, some value⟩ => { reading with pending := none }.store name rule value

/-- The option that is waiting for its value. -/
def waiting? (reading : Reading α) : Option (Pending α) :=
  reading.pending.filter (·.value.isNone)

/-- A reading with a flag set. -/
def setFlag (reading : Reading α) (name : String) (set : α → α) :
    Except UsageError (Reading α) := do
  let settled ← reading.settle
  if name ∈ settled.given then .error (.repeatedOption name)
  else
    return { settled with draft := set settled.draft, given := name :: settled.given }

/-- A reading after an option, whose value may be attached. -/
def takeOption (reading : Reading α) (option : OptionRule α) (attached : Option String) :
    Except UsageError (Reading α) :=
  match option.action, attached with
  | .value rule, some value => do (← reading.settle).store option.name rule value
  | .value rule, none => do
      return { ← reading.settle with pending := some ⟨option.name, rule, none⟩ }
  | _, some _ => .error (.surplusValue option.name)
  | .flag set, none => reading.setFlag option.name set
  | .help, none => do
      let _ ← reading.settle
      .error .helpRequested
  | .version, none => do
      let _ ← reading.settle
      .error .versionRequested

/-! ## Words -/

/-- A reading after a word that starts with two dashes: a name, and after an equals sign the
value attached to it. -/
def takeLong (reading : Reading α) (grammar : Grammar α) (chars : List Char) :
    Except UsageError (Reading α) :=
  let name := String.ofList (chars.takeWhile (· ≠ '='))
  let attached := match chars.dropWhile (· ≠ '=') with
    | [] => none
    | _ :: value => some (String.ofList value)
  match grammar.options.find? (·.name = name) with
  | some option => reading.takeOption option attached
  | none => .error (.unknownArgument ("--" ++ name))

/-- The value attached to a letter: what follows it, without an equals sign in front. -/
def attachedTo : List Char → Option String
  | [] => none
  | '=' :: value => some (String.ofList value)
  | value => some (String.ofList value)

/-- A reading after letters that stand together: flags, and at the end an option that may
have its value attached. -/
def takeLetters (reading : Reading α) (grammar : Grammar α) :
    List Char → Except UsageError (Reading α)
  | [] => .ok reading
  | letter :: rest =>
      match grammar.options.find? (·.letter = some letter) with
      | none => .error (.unknownArgument (String.ofList ['-', letter]))
      | some option =>
          match option.action with
          | .value _ => reading.takeOption option (attachedTo rest)
          | _ => do (← reading.takeOption option none).takeLetters grammar rest

/-- The fault of an argument that has no place. Where commands are expected it is taken for
one, except for the name of a command after a double dash. -/
def surplus (reading : Reading α) (grammar : Grammar α) (word : String) : UsageError :=
  if grammar.commands = [] ∨ (reading.isTrailing ∧ word ∈ grammar.commands) then
    .unknownArgument word
  else .unknownCommand word

/-- A reading after an argument without a name. -/
def takeOperand (reading : Reading α) (grammar : Grammar α) (word : String) :
    Except UsageError (Reading α) :=
  match grammar.operand, reading.hasOperand with
  | some (name, rule), false => do
      return { ← reading.settle with
        pending := some ⟨name, rule, some word⟩
        hasOperand := true }
  | _, _ => .error (reading.surplus grammar word)

/-- A reading after a word that is no option: the value that is waited for, or an argument. -/
def takePlain (reading : Reading α) (grammar : Grammar α) (word : String) :
    Except UsageError (Reading α) :=
  match reading.waiting? with
  | some pending => .ok { reading with pending := some { pending with value := some word } }
  | none => reading.takeOperand grammar word

/-- Whether a word is a negative number where one is waited for. -/
def awaitsNegative (reading : Reading α) (digits : List Char) : Bool :=
  reading.waiting?.any fun pending => pending.rule.takesNegative && isUnsignedNumber digits

/-- A reading after one more word. -/
def takeWord (reading : Reading α) (grammar : Grammar α) (word : String) :
    Except UsageError (Reading α) :=
  if reading.isTrailing then reading.takeOperand grammar word
  else
    match word.toList with
    | ['-', '-'] => .ok { reading with isTrailing := true }
    | '-' :: '-' :: rest => reading.takeLong grammar rest
    | '-' :: letter :: rest =>
        if reading.awaitsNegative (letter :: rest) then reading.takePlain grammar word
        else reading.takeLetters grammar (letter :: rest)
    | _ => reading.takePlain grammar word

/-- Whether a word is the name of a command here. -/
def meetsCommand (reading : Reading α) (grammar : Grammar α) (word : String) : Bool :=
  !reading.isTrailing && reading.waiting?.isNone && grammar.commands.contains word

/-- A reading up to the first command, with the command and the words after it. -/
def takeWords (reading : Reading α) (grammar : Grammar α) :
    List String → Except UsageError (Reading α × Option (String × List String))
  | [] => .ok (reading, none)
  | word :: rest =>
      if reading.meetsCommand grammar word then .ok (reading, some (word, rest))
      else do (← reading.takeWord grammar word).takeWords grammar rest

end Reading

namespace Grammar

variable {α : Type}

/-- What the words of a command without further commands make of a draft. -/
def read (grammar : Grammar α) (draft : α) (words : List String) : Except UsageError α := do
  let (reading, _) ← (Reading.start draft).takeWords grammar words
  return (← reading.settle).draft

end Grammar

end CommandLine

end OverpassQuery
