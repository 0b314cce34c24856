import OverpassQuery.CommandLine.Reader
import OverpassQuery.Program.Failure
import OverpassQuery.Program.World

/-!
# A run of the program

A run has stages: the configuration is loaded, the tag lists are read, then the
area, the query is built, and finally it is printed or submitted. The first
stage that fails ends the run. Nothing is sent to the query engine, and nothing
is written, before the query is built; only a place is looked up earlier, once.

Of the lines of diagnostics those that warn are modelled, and of those that only
inform the one with the query. The others tell of polygons that were read or
chosen, of rounds in which the engine was busy, and of bytes that were received
in some time; they and what a variable of the environment may set for single
parts of the program are left out.
-/

set_option autoImplicit false

namespace OverpassQuery

namespace Program

variable {m : Type → Type} [Monad m]

/-! ## Building the query -/

/-- The configuration of an invocation: from its file, or the standard one, with the limit
of rounds that the invocation states. -/
def configuration (world : World m) (invocation : Invocation) :
    ExceptT Failure m Configuration := do
  let loaded ← match invocation.configurationFile with
    | none => pure {}
    | some path =>
        ExceptT.mk do
          return (← Configuration.load world.storage path).mapError (.configuration path)
  return { loaded with maxAttempts := invocation.maxAttempts.getD loaded.maxAttempts }

/-- The predicates of a tag list, if there is one, in the stead of others. -/
def replacedBy (tags : Option String) (predicates : List TagPredicate) :
    Except TagList.SyntaxError (List TagPredicate) :=
  match tags with
  | none => .ok predicates
  | some tags => TagList.parse tags

/-- The query of an invocation apart from its area. The list for ways is read first. -/
def presetQuery (invocation : Invocation) : Except Failure PresetQuery := do
  let base := PresetQuery.ofNetwork invocation.network invocation.format
  let ways ← (replacedBy invocation.wayTags base.wayPredicates).mapError .wayTags
  let relations ←
    (replacedBy invocation.relationTags base.relationPredicates).mapError .relationTags
  return { base with
    wayPredicates := ways
    relationPredicates := relations
    metadata := invocation.metadata
    formatOptions := invocation.csvOptions }

/-- The area of the polygons in a file with some content. -/
def polygonArea (path : String) (content : Bytes) : Except Failure QueryArea :=
  match Utf8.decode? content with
  | none => .error (.unreadableArea path .invalidData)
  | some document => ((GeoJson.rings document).map .polygon).mapError (.unusableArea path)

/-- The area of an invocation. -/
def queryArea (world : World m) : AreaRequest → ExceptT Failure m QueryArea
  | .boundingBox box => return .boundingBox box
  | .radius radius center => return .radius radius center
  | .place name => return .place name
  | .polygonFile path => ExceptT.mk do
      match ← world.storage.read path with
      | .error cause => return .error (.unreadableArea path cause)
      | .ok content => return polygonArea path content

/-- The query of an invocation. -/
def buildSequence (world : World m) (invocation : Invocation) (configuration : Configuration) :
    ExceptT Failure m Sequence := do
  let query ← ExceptT.mk (pure (presetQuery invocation))
  let area ← queryArea world invocation.area
  let geocoder := configuration.geocoder world.exchange fun warning =>
    world.report ("WARN " ++ warning)
  ExceptT.mk do return (← query.build area geocoder).mapError .query

/-! ## Printing and submitting -/

/-- Whether a path stands for standard output: a dash, with nothing after it but slashes
and points that do not lead elsewhere. -/
def isStandardOutput (path : String) : Bool :=
  match FileTree.names path with
  | [] => false
  | name :: rest =>
      name == Invocation.standardOutput && rest.all fun step => step == "" || step == "."

/-- Writes to standard output, or fails as such. -/
def print (world : World m) (failed : FileError → Failure) (content : Bytes) :
    ExceptT Failure m Unit :=
  ExceptT.mk do return (← world.print content).mapError failed

/-- Submits a query and writes the answer to its destination. -/
def submit (world : World m) (configuration : Configuration) (sequence : Sequence)
    (output : String) : ExceptT Failure m Unit := do
  let client := configuration.client world.exchange world.pause
  if isStandardOutput output then
    let body ← ExceptT.mk do return (← sequence.executeBytes client).mapError .submission
    print world .unprinted body
  else
    let _ ← ExceptT.mk do
      return (← sequence.executeAndExport client world.storage output).mapError .submission

/-- What is told about a run that asks for it. -/
def inform (world : World m) (invocation : Invocation) (message : String) :
    ExceptT Failure m Unit :=
  if invocation.isVerbose then ExceptT.lift (world.report ("INFO " ++ message)) else pure ()

/-- All stages of a run. -/
def run (world : World m) (invocation : Invocation) : ExceptT Failure m Unit := do
  let configuration ← configuration world invocation
  let sequence ← buildSequence world invocation configuration
  inform world invocation ("Query: " ++ sequence.text)
  if invocation.printsQuery then
    print world .unshown (Utf8.encode (sequence.text ++ "\n"))
  else submit world configuration sequence invocation.output

/-! ## From the command line to the exit status -/

/-- The answer to the question for the version. -/
def versionText : String := "osmquery 0.1.0\n"

/-- The answer to the question for help. -/
def helpText : String :=
  "Usage: osmquery [OPTIONS] <COMMAND>\n\nCommands:\n"
    ++ "  bbox     Everything inside a bounding box\n"
    ++ "  radius   Everything within a radius (metres) of a point\n"
    ++ "  polygon  Everything inside the polygons of a GeoJSON file\n"
    ++ "  place    Everything inside a place, resolved by name through the geocoder\n"
    ++ "  help     Print this message\n"

/-- What is printed for a command line that asks for it. -/
def usageAnswer : UsageError → String
  | .helpRequested => helpText
  | .versionRequested => versionText
  | _ => ""

/-- A run from the words of the command line and the variable of the environment to the exit
status. -/
def execute (world : World m) (environment : Option String) (words : List String) : m Nat := do
  match CommandLine.read environment words with
  | .error fault =>
      if fault.isAnswered then
        let _ ← world.print (Utf8.encode (usageAnswer fault))
      else world.report ("error: " ++ fault.message)
      return fault.exitStatus
  | .ok invocation =>
      match ← (run world invocation).run with
      | .ok () => return 0
      | .error failure =>
          world.report failure.report
          return failure.exitStatus

end Program

end OverpassQuery
