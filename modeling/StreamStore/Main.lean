import StreamStore.CommandLine
import StreamStore.Http.Wire
import StreamStore.Settings.Variable
import Std.Async.DNS
import Std.Async.TCP
import Std.Async.Timer
import Std.Internal.UV.System

/-!
# The program

The effects that the library leaves open: the words of the command line, the
settings file, the environment, the clock, a random number, and the connection to
a gateway.  Everything that is decided is decided in the library.

Connections are plain ones.  A gateway behind `https` cannot be reached.
-/

namespace StreamStore.Program

open Std.Async Std.Net

/-- The longest time to wait, in seconds. -/
def longestWait : Nat := 1000000000

/-- The addresses of the server that a URL names. -/
def addressesOf (u : Url) : Async (List SocketAddress) := do
  match u.host, Http.portOf u with
  | some host, some port =>
      let name := host.text.toList.filter fun c => c != '[' && c != ']'
      let found ← DNS.getAddrInfo (String.ofList name) (toString port)
      return found.toList.map fun address => match address with
        | .v4 a => .v4 ⟨a, port.toUInt16⟩
        | .v6 a => .v6 ⟨a, port.toUInt16⟩
  | _, _ => return []

/-- Connects to the first of several addresses that answers. -/
def connectTo : List SocketAddress → Async (Option TCP.Socket.Client)
  | [] => return none
  | address :: rest => do
      let client ← TCP.Socket.Client.mk
      try
        client.connect address
        return some client
      catch _ =>
        connectTo rest

/-- Everything that arrives until the connection is closed. -/
def receiveAll (client : TCP.Socket.Client) : Async ByteArray := do
  let mut bytes := ByteArray.empty
  repeat
    match ← client.recv? 65536 with
    | some more => bytes := bytes ++ more
    | none => break
  return bytes

/-- An action that answers nothing if it fails or takes longer than so many seconds. -/
def within {α : Type} (seconds : UInt64) (action : Async (Option α)) : Async (Option α) :=
  Async.race (try action catch _ => return none) do
    sleep (.ofNat (min seconds.toNat longestWait * 1000))
    return none

/-- Sends a request over a connection of its own. -/
def exchange (s : Settings) (r : Http.Request) : Async Http.Reply := do
  if r.url.scheme != "http" then
    return .unreachable
  let client? ← within s.connectTimeout do
    connectTo (← addressesOf r.url)
  match client? with
  | none => return .unreachable
  | some client =>
      let bytes? ← within s.timeout do
        client.send r.wire.toUTF8
        return some (← receiveAll client)
      match bytes? with
      | none => return .dropped
      | some bytes => return Http.replyOf bytes.toList

/-- Sends a request, and shows it first when everything is to be logged. -/
def send (s : Settings) (verbose : Bool) (r : Http.Request) : IO Http.Reply := do
  if verbose then
    IO.eprintln s!"{r.method.name} {r.url.text}"
  (exchange s r).block

/-- The present time in milliseconds. -/
def clock : IO Nat := do
  let now ← Std.Time.Timestamp.now
  return now.toMillisecondsSinceUnixEpoch.toInt.toNat

/-- The content of a file; nothing if there is no such file, or only a directory. -/
def contentOf (file : String) : IO (Option String) := do
  try
    return some (← IO.FS.readFile file)
  catch
    | .noFileOrDirectory .. => return none
    | .inappropriateType .. => return none
    | e => throw e

/-- The variables of the environment in the order of their names. -/
def environment : IO (List (String × String)) := do
  let found ← Std.Internal.UV.System.osEnviron
  return found.toList.mergeSort fun a b => a.1 ≤ b.1

/-- Reports an error. -/
def fail (e : AccessError) : IO UInt32 := do
  IO.eprintln e.report.renderPretty
  return 1

/-- How the program is called. -/
def usage : String :=
  let names := ", ".intercalate (CommandLine.forms.map (·.name))
  s!"Usage: {CommandLine.programName} [--config FILE] [--verbose] COMMAND [SWITCHES]\n"
    ++ s!"Commands: {names}\n"

/-- Runs a command line that was understood. -/
def run (call : CommandLine.Invocation) : IO UInt32 := do
  let file := call.file.getD defaultFile
  let loaded ← try
      pure (Settings.load file (← contentOf file) (← environment))
    catch _ =>
      pure (.error (.unreadable file))
  match loaded with
  | .error e => fail (.settings e)
  | .ok settings =>
      let draw ← IO.rand 0 (settings.endpoints.length - 1)
      match ← (call.command.run settings draw (send settings call.verbose) clock).run with
      | .error e => fail e
      | .ok output => do
          IO.print output.render
          return 0

/-- Reads a command line and runs it. -/
def start (words : List String) : IO UInt32 := do
  match CommandLine.read words with
  | .error .help => do
      IO.print usage
      return 0
  | .error (.version command) => do
      IO.print (CommandLine.versionText command)
      return 0
  | .error .misuse => do
      IO.eprint usage
      return 2
  | .ok call => run call

end StreamStore.Program

/-- The program. -/
def main (args : List String) : IO UInt32 :=
  StreamStore.Program.start args
