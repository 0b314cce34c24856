import OverpassQuery.Http.Message
import OverpassQuery.Main
import OverpassQuery.Program.Run
import OverpassQuery.Scripted.Engine
import OverpassQuery.Scripted.Rehearsal
import OverpassQuery.Statement.Equality
import OverpassQuery.Statement.Render
import OverpassQuery.Proofs.Statement.Reachable
import OverpassQuery.Proofs.Statement.StoredText
import OverpassQuery.Proofs.Statement.Admissible
import OverpassQuery.Proofs.Statement.ClauseText
import OverpassQuery.Proofs.Statement.Phrases
import OverpassQuery.Proofs.Submission.Rounds
import OverpassQuery.Proofs.Text.SelfDelimiting
import OverpassQuery.Proofs.Statement.PredicateText
import OverpassQuery.Proofs.Statement.Unambiguous
import OverpassQuery.Proofs.TagList.Spelling
import OverpassQuery.Proofs.Preset.Shape
import OverpassQuery.Proofs.TagList.Printed
import OverpassQuery.Proofs.Submission.Calls
import OverpassQuery.Proofs.Statement.Nesting
import OverpassQuery.Proofs.State.Simulation
import OverpassQuery.Proofs.Statement.Histories
import OverpassQuery.Proofs.Submission.AnyClient
import OverpassQuery.Proofs.Http.Services
import OverpassQuery.Proofs.Program.Deeds
import OverpassQuery.Proofs.Program.Stages
import OverpassQuery.Proofs.Program.Printing
import OverpassQuery.Proofs.State.Outcomes
import OverpassQuery.Proofs.TagList.Grammar
import OverpassQuery.Proofs.TagList.Cuts
import OverpassQuery.Proofs.Filter.Faults
import OverpassQuery.Proofs.Preset.Refusals
import OverpassQuery.Proofs.Binary64.Nearest
import OverpassQuery.Proofs.Binary64.DecimalRank
import OverpassQuery.Proofs.Binary64.Numeral
import OverpassQuery.Proofs.Filter.ReadBack
import OverpassQuery.Proofs.Statement.Identity
import OverpassQuery.Proofs.Statement.Parentheses
import OverpassQuery.Proofs.Storage.Written
import OverpassQuery.Proofs.Submission.Variants
import OverpassQuery.Proofs.Calendar.Gregorian
import OverpassQuery.Proofs.Calendar.ReadBack
import OverpassQuery.Proofs.Text.Occurrences
import OverpassQuery.Proofs.TagList.Unread
import OverpassQuery.Proofs.TagList.Misplaced
import OverpassQuery.Proofs.Geocoding.FirstUsable
import OverpassQuery.Proofs.Binary64.Padding
import OverpassQuery.Proofs.GeoJson.Documents
import OverpassQuery.Proofs.Geocoding.PlaceOrDocument
import OverpassQuery.Proofs.Filter.Arguments
