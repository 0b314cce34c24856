import OverpassQuery.Preset.Query

/-!
# What a user asks for

One invocation of the program: which network in which area, how it is to be
answered, where the configuration is, and where the answer goes.
-/

set_option autoImplicit false

namespace OverpassQuery

/-- Where to look, as a user says it. -/
inductive AreaRequest where
  | boundingBox (box : BoundingBox)
  | radius (radius : Binary64) (center : Point)
  /-- The polygons of a file. -/
  | polygonFile (path : String)
  | place (name : String)

/-- One invocation of the program. -/
structure Invocation where
  configurationFile : Option String
  network : StreetNetwork
  /-- Tag lists that replace the predicates of the network. -/
  wayTags : Option String
  relationTags : Option String
  format : OutputFormat
  csvOptions : Option String
  metadata : Bool
  maxAttempts : Option Nat
  output : String
  printsQuery : Bool
  isVerbose : Bool
  area : AreaRequest

namespace Invocation

/-- The destination that stands for standard output. -/
def standardOutput : String := "-"

end Invocation

end OverpassQuery
