import OverpassQuery.Http.Message
import OverpassQuery.Program.Run
import Std.Async.DNS
import Std.Async.TCP

/-!
# The program in its surroundings

Files, connections, time, output and diagnostics of the machine that the program
runs on. Connections are made in plain HTTP, one for each request.
-/

set_option autoImplicit false

namespace OverpassQuery

namespace Machine

/-! ## Files -/

/-- The kind of a failed file operation. -/
def fileError : IO.Error → FileError
  | .noFileOrDirectory .. => .notFound
  | .permissionDenied .. => .permissionDenied
  | .invalidArgument .. => .invalidInput
  | .inappropriateType .. => .isADirectory
  | _ => .other

/-- The result of a file operation. -/
def attempt {α : Type} (operation : IO α) : IO (Except FileError α) := do
  return (← operation.toBaseIO).mapError fileError

/-- Whether a path leads to a file, which need not be readable. -/
def isFile (path : String) : IO Bool := do
  let place ← IO.FS.realPath path
  return (← place.metadata).type == .file

/-- The files of the machine. -/
def storage : Storage IO where
  isFile path := return (← (isFile path).toBaseIO).toOption.getD false
  read path := attempt do return (← IO.FS.readBinFile path).toList
  write path content := attempt (IO.FS.writeBinFile path ⟨content.toArray⟩)

/-! ## Connections -/

/-- The address of a socket, from its host and its number there. -/
def socketAddress (number : UInt16) : Std.Net.IPAddr → Std.Net.SocketAddress
  | .v4 address => .v4 ⟨address, number⟩
  | .v6 address => .v6 ⟨address, number⟩

/-- The octets received in one step. -/
def stepSize : UInt64 := 65536

/-- Everything that is received until the connection is closed. -/
partial def receiveAll (socket : Std.Async.TCP.Socket.Client) (received : ByteArray) :
    IO ByteArray := do
  match ← (socket.recv? stepSize).block with
  | none => return received
  | some more => receiveAll socket (received ++ more)

/-- The name of a host without the brackets around a numeric one. -/
def bareHost (host : String) : String :=
  String.ofList (host.toList.filter fun char => char ≠ '[' ∧ char ≠ ']')

/-- One request with the octets received for it. -/
def exchangeBytes (request : Http.Request) : IO ByteArray := do
  let url := request.url
  let addresses ← (Std.Async.DNS.getAddrInfo (bareHost url.host) (toString url.portNumber)).block
  match addresses[0]? with
  | none => throw (IO.userError "unknown host")
  | some address =>
      let socket ← Std.Async.TCP.Socket.Client.mk
      (socket.connect (socketAddress url.portNumber.toUInt16 address)).block
      (socket.send ⟨request.bytes.toArray⟩).block
      receiveAll socket .empty

/-- One request with its answer. -/
def exchange : Http.Exchange IO := fun request => do
  match request.url.scheme with
  | .https => return .error "connections with TLS are not supported"
  | .http =>
      match ← (exchangeBytes request).toBaseIO with
      | .ok received => return Http.answer received.toList
      | .error cause => return .error (toString cause)

/-! ## Time and output -/

/-- The longest time to wait at once, in milliseconds. -/
def maxPause : Nat := 4294967295

/-- Writes to standard output. -/
def print (content : Bytes) : IO (Except FileError Unit) := attempt do
  let output ← IO.getStdout
  output.write ⟨content.toArray⟩
  output.flush

/-- The machine as the surroundings of the program. -/
def world : World IO where
  storage := storage
  exchange := exchange
  pause seconds := IO.sleep (min (1000 * seconds) maxPause).toUInt32
  print := print
  report := IO.eprintln

end Machine

end OverpassQuery

/-- One run of the program with the arguments of the command line. -/
def main (words : List String) : IO UInt32 := do
  let environment ← IO.getEnv OverpassQuery.CommandLine.attemptsVariable
  let status ← OverpassQuery.Program.execute OverpassQuery.Machine.world environment words
  return status.toUInt32
