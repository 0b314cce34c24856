import OverpassQuery.Http.Exchange
import OverpassQuery.Storage

/-!
# What a program finds around it

Files, a network, time to wait, standard output, and a place for diagnostics. The
program is written for any such world; a rehearsal has one that is data.
-/

set_option autoImplicit false

namespace OverpassQuery

/-- What a program uses of its surroundings. -/
structure World (m : Type → Type) where
  storage : Storage m
  exchange : Http.Exchange m
  /-- Waits for a number of seconds. -/
  pause : Nat → m Unit
  /-- Writes to standard output. -/
  print : Bytes → m (Except FileError Unit)
  /-- Writes a line of diagnostics. -/
  report : String → m Unit

end OverpassQuery
