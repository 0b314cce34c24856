import OverpassQuery.Program.World
import OverpassQuery.Scripted.Server

/-!
# Rehearsals

A world that is data: a scripted server, a file tree, and what was written to
standard output and to the diagnostics. Waiting takes no time in it.
-/

set_option autoImplicit false

namespace OverpassQuery

/-- The state of a world that is data. -/
structure Rehearsal where
  server : ScriptedServer
  files : FileTree
  printed : Bytes
  /-- The lines of diagnostics, in order. -/
  reports : List String

namespace Rehearsal

/-- A world in which nothing has happened yet. -/
def start (server : ScriptedServer) (files : FileTree) : Rehearsal := ⟨server, files, [], []⟩

/-- The surroundings of a program in a rehearsal. -/
def world : World (StateM Rehearsal) where
  storage := FileTree.storage Rehearsal.files fun state files => { state with files := files }
  exchange :=
    ScriptedServer.exchange Rehearsal.server fun state server => { state with server := server }
  pause _ := return ()
  print content := do
    modify fun state => { state with printed := state.printed ++ content }
    return .ok ()
  report line := modify fun state => { state with reports := state.reports ++ [line] }

end Rehearsal

end OverpassQuery
