import OverpassQuery.Binary64.Text
import OverpassQuery.Configuration
import OverpassQuery.Data.Value

/-!
# Configurations from structured data

Each setting is an entry of a table, and has a default when the table has no such
entry; further entries do not count. Numbers, texts and truth values are turned
into one another where a setting asks for one of them.

The key of an entry may be a path into a setting, such as `name.part` or
`name[0]`. As no setting has parts, such an entry spoils the setting.
-/

set_option autoImplicit false

namespace OverpassQuery

namespace Configuration

/-! ## Values of settings -/

/-- The greatest whole number of 64 bits. -/
def maxUnsigned : Nat := 18446744073709551615

/-- A value whose whole number, if it has too many bits, is a double-precision one. -/
def bounded : Data → Data
  | .integer value =>
      match Data.wordInteger? (value < 0) value.natAbs with
      | some word => .integer word
      | none => .real (.ofInt value)
  | value => value

/-- A double-precision number as a natural one: rounded, a half going away from zero, and
taken to the nearest that 64 bits hold. -/
def roundedNatural (number : Binary64) : Nat :=
  match number with
  | .notANumber => 0
  | .infinite negative => if negative then 0 else maxUnsigned
  | number => min ((number.toNearestInt?.getD 0).toNat) maxUnsigned

/-- The natural number that a text stands for: a word for one or none, or digits with at most
a plus sign in front. -/
def spelledNatural? (text : String) : Option Nat :=
  let word := text.map Char.toLower
  if word = "true" ∨ word = "on" ∨ word = "yes" then some 1
  else if word = "false" ∨ word = "off" ∨ word = "no" then some 0
  else
    Decimal.naturalOfDigits? (match text.toList with
      | '+' :: digits => digits
      | digits => digits)

/-- A value as a natural number up to a limit of at most 64 bits. -/
def natural? (limit : Nat) (value : Data) : Option Nat := do
  let number ← match bounded value with
    | .integer value => if 0 ≤ value then some value.toNat else none
    | .real value => some (roundedNatural value)
    | .boolean value => some (if value then 1 else 0)
    | .text text => spelledNatural? text
    | _ => none
  if number ≤ limit then some number else none

/-- A value as a text. -/
def text? (value : Data) : Option String :=
  match bounded value with
  | .text text => some text
  | .boolean value => some (if value then "true" else "false")
  | .integer value => some (toString value)
  | .real value => some value.text
  | _ => none

/-! ## Keys -/

/-- Whether a character may stand in a step of a path. -/
def isStepChar (char : Char) : Bool := char.isAlphanum || char == '_' || char == '-'

/-- Whether a text between brackets is the number of an item. -/
def isIndex (chars : List Char) : Bool :=
  let isBlank (char : Char) : Bool := char == ' ' || char == '\t'
  let bare := ((chars.dropWhile isBlank).reverse.dropWhile isBlank).reverse
  let digits := match bare with
    | '-' :: digits => digits
    | digits => digits
  digits ≠ [] && digits.all Char.isDigit && Decimal.ofDigits digits ≤ maxUnsigned / 2

/-- Whether the rest of a key leads further down: steps after points, and numbers of items
between brackets. The steps allowed are as many as there are characters. -/
def leadsDownWithin : Nat → List Char → Bool
  | _, [] => true
  | steps + 1, '.' :: rest =>
      let step := rest.takeWhile isStepChar
      step ≠ [] && leadsDownWithin steps (rest.drop step.length)
  | steps + 1, '[' :: rest =>
      let index := rest.takeWhile (· ≠ ']')
      isIndex index && index.length < rest.length
        && leadsDownWithin steps (rest.drop (index.length + 1))
  | _, _ => false

/-- Whether a key is a path into a setting. -/
def leadsInto (setting key : String) : Bool :=
  let chars := key.toList
  let step := chars.takeWhile isStepChar
  let rest := chars.drop step.length
  String.ofList step = setting && rest ≠ [] && leadsDownWithin rest.length rest

/-- The setting with a name: its default if there is no such entry. -/
def field? {α : Type} (entries : List (String × Data)) (name : String) (otherwise : α)
    (read : Data → Option α) : Option α :=
  if entries.any fun entry => leadsInto name entry.1 then none
  else
    match Data.lookup? entries name with
    | none => some otherwise
    | some value => read value

/-- The configuration that a table holds. -/
def ofTable? (entries : List (String × Data)) : Option Configuration := do
  let standard : Configuration := {}
  return {
    interpreterEndpoint :=
      ← field? entries "interpreter_endpoint" standard.interpreterEndpoint text?
    statusEndpoint := ← field? entries "status_endpoint" standard.statusEndpoint text?
    geocoderEndpoint := ← field? entries "geocoder_endpoint" standard.geocoderEndpoint text?
    maxAttempts := ← field? entries "max_attempts" standard.maxAttempts (natural? maxRounds)
    retryInterval :=
      ← field? entries "retry_interval_secs" standard.retryInterval (natural? maxUnsigned)
    userAgent := ← field? entries "user_agent" standard.userAgent text? }

end Configuration

end OverpassQuery
