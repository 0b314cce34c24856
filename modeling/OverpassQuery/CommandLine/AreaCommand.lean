import OverpassQuery.Binary64.Text
import OverpassQuery.CommandLine.Grammar
import OverpassQuery.Invocation

/-!
# Commands that name an area

Each command says in its own way where to look: the four edges of a box, a
circle, a file of polygons, or the name of a place.
-/

set_option autoImplicit false

namespace OverpassQuery

namespace CommandLine

/-! ## Rules for values -/

/-- A rule that stores a value of any form. -/
def textRule {α : Type} (set : String → α → α) : ValueRule α :=
  ⟨false, fun text draft => .ok (set text draft)⟩

/-- A rule for a path, which must not be empty. -/
def pathRule {α : Type} (option : String) (set : String → α → α) : ValueRule α where
  takesNegative := false
  store text draft :=
    if text = "" then .error (.invalidValue option text) else .ok (set text draft)

/-- A rule for a number. -/
def numberRule {α : Type} (option : String) (takesNegative : Bool)
    (set : Binary64 → α → α) : ValueRule α where
  takesNegative := takesNegative
  store text draft :=
    match Binary64.ofText? text with
    | some number => .ok (set number draft)
    | none => .error (.malformedValue option text)

/-- The option for help. -/
def helpOption (α : Type) : OptionRule α := ⟨"help", some 'h', .help⟩

/-- An option for a number. -/
def numberOption {α : Type} (name : String) (takesNegative : Bool) (set : Binary64 → α → α) :
    OptionRule α :=
  ⟨name, none, .value (numberRule name takesNegative set)⟩

/-- The value of an option that must be given. -/
def required {α : Type} (missing : List String) : Option α → Except UsageError α
  | some value => .ok value
  | none => .error (.missingArguments missing)

/-- The names of the options that were not given. -/
def missingNames (options : List (String × Bool)) : List String :=
  (options.filter fun option => !option.2).map (·.1)

/-! ## A box -/

/-- The edges of a box as far as they are given. -/
structure BoxDraft where
  south : Option Binary64 := none
  west : Option Binary64 := none
  north : Option Binary64 := none
  east : Option Binary64 := none

/-- The options for the edges of a box. -/
def boxGrammar : Grammar BoxDraft where
  options :=
    [numberOption "south" true fun edge draft => { draft with south := some edge },
      numberOption "west" true fun edge draft => { draft with west := some edge },
      numberOption "north" true fun edge draft => { draft with north := some edge },
      numberOption "east" true fun edge draft => { draft with east := some edge },
      helpOption _]
  operand := none
  commands := []

/-- The box whose edges are all given. -/
def BoxDraft.area (draft : BoxDraft) : Except UsageError AreaRequest :=
  match draft with
  | ⟨some south, some west, some north, some east⟩ => .ok (.boundingBox ⟨south, west, north, east⟩)
  | ⟨south, west, north, east⟩ =>
      .error (.missingArguments (missingNames [("south", south.isSome), ("west", west.isSome),
        ("north", north.isSome), ("east", east.isSome)]))

/-! ## A circle -/

/-- A circle as far as it is given. -/
structure CircleDraft where
  radius : Option Binary64 := none
  latitude : Option Binary64 := none
  longitude : Option Binary64 := none

/-- The options for a circle. A radius is not taken for negative. -/
def circleGrammar : Grammar CircleDraft where
  options :=
    [numberOption "radius" false fun number draft => { draft with radius := some number },
      numberOption "lat" true fun number draft => { draft with latitude := some number },
      numberOption "lon" true fun number draft => { draft with longitude := some number },
      helpOption _]
  operand := none
  commands := []

/-- The circle whose radius and centre are given. -/
def CircleDraft.area (draft : CircleDraft) : Except UsageError AreaRequest :=
  match draft with
  | ⟨some radius, some latitude, some longitude⟩ => .ok (.radius radius ⟨longitude, latitude⟩)
  | ⟨radius, latitude, longitude⟩ =>
      .error (.missingArguments (missingNames [("radius", radius.isSome),
        ("lat", latitude.isSome), ("lon", longitude.isSome)]))

/-! ## Files and places -/

/-- The argument that is the path of a file of polygons. -/
def polygonGrammar : Grammar (Option String) where
  options := [helpOption _]
  operand := some ("FILE", pathRule "FILE" fun path _ => some path)
  commands := []

/-- The argument that is the name of a place. -/
def placeGrammar : Grammar (Option String) where
  options := [helpOption _]
  operand := some ("NAME", textRule fun name _ => some name)
  commands := []

/-- The argument of a command, which must be given. -/
def givenOperand (name : String) : Option String → Except UsageError String
  | some value => .ok value
  | none => .error (.missingArguments [name])

/-! ## All commands -/

/-- The commands that name an area. -/
def areaCommands : List String := ["bbox", "radius", "polygon", "place"]

/-- The area that a command and its words name. -/
def readArea (command : String) (words : List String) : Except UsageError AreaRequest :=
  match command with
  | "bbox" => do (← boxGrammar.read {} words).area
  | "radius" => do (← circleGrammar.read {} words).area
  | "polygon" => do
      return .polygonFile (← givenOperand "FILE" (← polygonGrammar.read none words))
  | "place" => do return .place (← givenOperand "NAME" (← placeGrammar.read none words))
  | _ => .error (.unknownCommand command)

end CommandLine

end OverpassQuery
