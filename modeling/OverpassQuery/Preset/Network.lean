import OverpassQuery.TagPredicate

/-!
# Street networks

The predicates that select the ways of each kind of street network, and the
turn restrictions that come with the networks for driving.
-/

set_option autoImplicit false

namespace OverpassQuery

/-- A kind of street network. -/
inductive StreetNetwork where
  | drive
  | driveMainroads
  | driveService
  | walk
  | bike
  | all
  | allPrivate
  | none
  | rail
  deriving DecidableEq

namespace StreetNetwork

/-- All kinds, in the order in which they are offered. -/
def kinds : List StreetNetwork :=
  [.drive, .driveMainroads, .driveService, .walk, .bike, .all, .allPrivate, .none, .rail]

/-- The name of a kind on the command line. -/
def name : StreetNetwork → String
  | .drive => "drive"
  | .driveMainroads => "drive-mainroads"
  | .driveService => "drive-service"
  | .walk => "walk"
  | .bike => "bike"
  | .all => "all"
  | .allPrivate => "all-private"
  | .none => "none"
  | .rail => "rail"

/-! ## Ways -/

/-- The conditions that every network of streets but the plainest begins with. -/
def streets : List TagPredicate := [.present "highway", .mismatch "area" "yes"]

/-- Streets closed to the public are left out. -/
def notPrivate : List TagPredicate :=
  [.mismatch "access" "private", .mismatch "service" "private"]

/-- Ways that are tagged as streets but lead nowhere. -/
def noThoroughfare : String := "proposed|construction|abandoned|platform|raceway"

/-- Ways that are not for motor vehicles. -/
def notForMotors : String :=
  "cycleway|footway|path|pedestrian|steps|track|corridor|elevator|escalator|proposed"
    ++ "|construction|bridleway|abandoned|platform|raceway"

/-- The conditions of a driving network that leaves out some kinds of street and of
service road. -/
def driving (excludedStreets excludedServices : String) : List TagPredicate :=
  streets ++ [.mismatch "highway" excludedStreets, .mismatch "motor_vehicle" "no",
    .mismatch "motorcar" "no", .mismatch "access" "private",
    .mismatch "service" excludedServices]

/-- Service roads that a driver does not pass through. -/
def excludedServices : String := "parking|parking_aisle|driveway|private|emergency_access"

/-- The conditions on the ways of a network. -/
def wayPredicates : StreetNetwork → List TagPredicate
  | .drive => driving (notForMotors ++ "|service") excludedServices
  | .driveMainroads => driving (notForMotors ++ "|service|residential") excludedServices
  | .driveService => driving notForMotors "parking|parking_aisle|private|emergency_access"
  | .walk =>
      streets ++ [.mismatch "highway"
          "cycleway|motor|proposed|construction|abandoned|platform|raceway",
        .mismatch "foot" "no"] ++ notPrivate
  | .bike =>
      streets ++ [.mismatch "highway" ("footway|steps|corridor|elevator|escalator|motor|proposed"
          ++ "|construction|abandoned|platform|raceway"),
        .mismatch "bicycle" "no"] ++ notPrivate
  | .all => streets ++ [.mismatch "highway" noThoroughfare] ++ notPrivate
  | .allPrivate => streets ++ [.mismatch "highway" noThoroughfare]
  | .none => [.present "highway"]
  | .rail => [.present "railway", .mismatch "highway" noThoroughfare]

/-! ## Relations -/

/-- The relations that restrict turns. -/
def turnRestrictions : List TagPredicate :=
  [.present "restriction", .absent "conditional", .absent "hgv",
    .compares "type" .equal "restriction"]

/-- The conditions on the relations of a network. -/
def relationPredicates : StreetNetwork → List TagPredicate
  | .drive | .driveMainroads | .driveService | .all | .allPrivate => turnRestrictions
  | .walk | .bike | .none | .rail => []

end StreetNetwork

end OverpassQuery
