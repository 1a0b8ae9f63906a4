import PromptRelay.Http.Message
import PromptRelay.Program
import PromptRelay.Transcript.Time
import Std.Async.DNS
import Std.Async.Signal
import Std.Async.TCP
import Std.Internal.UV.System
import Std.Time.DateTime.Timestamp

namespace PromptRelay

open Std.Net (IPAddr SocketAddress)
open Std.Async.TCP

namespace Surroundings

def readNode (path : String) : IO (Option FileTree.Node) := do
  try
    return some (.file (← IO.FS.readBinFile path).toList)
  catch
    | .noFileOrDirectory _ _ _ => return none
    | .inappropriateType _ _ _ => return some .directory
    | e => return if (toString e).contains "irectory" then some .directory else none

def absolutePath (names : List String) : String :=
  "/" ++ "/".intercalate names

def addPath (t : FileTree) (names : List String) : IO FileTree :=
  (List.range names.length).foldlM (fun t n => do
    let place := names.take (n + 1)
    match ← readNode (absolutePath place) with
    | some node => return t.set place node
    | none => return t) t

def placesOfInterest (here : List String) (environment : List (String × String))
    (line : CommandLine) : List (List String) :=
  let around := (List.range (here.length + 1)).map fun up => here.take (here.length - up)
  let names := VariablesFile.name :: Config.projectNames
    ++ [line.config, line.logDirectory, line.transcript].filterMap id
  let home := [environment.lookup "XDG_CONFIG_HOME", environment.lookup "HOME"].filterMap id
  around.flatMap (fun place => names.map fun n =>
      if Path.isAbsolute n then Path.names n else place ++ Path.names n)
    ++ home.flatMap fun d =>
      [Path.names d ++ ["kernel-bridge", "config.toml"],
       Path.names d ++ [".config", "kernel-bridge", "config.toml"]]

def current (line : CommandLine) : IO Surroundings := do
  let here := Path.names (toString (← IO.currentDir))
  let environment := (← Std.Internal.UV.System.osEnviron).toList
  let files ← (placesOfInterest here environment line).foldlM addPath {}
  return ⟨files, here, environment⟩

end Surroundings

namespace Program

def within {α : Type} (ms : Nat) (act : IO α) : IO (Option α) := do
  let work ← IO.asTask (some <$> act) .dedicated
  let limit ← IO.asTask (do IO.sleep ms.toUInt32; return none) .dedicated
  IO.ofExcept (← IO.waitAny [work, limit])

def resolve (host : String) (port : Nat) : IO (Option SocketAddress) := do
  let bare := String.ofList (host.toList.filter fun c => c ≠ '[' && c ≠ ']')
  try
    let addresses ← (Std.Async.DNS.getAddrInfo bare "").block
    return addresses[0]?.map fun
      | .v4 a => .v4 ⟨a, port.toUInt16⟩
      | .v6 a => .v6 ⟨a, port.toUInt16⟩
  catch _ => return none

def socketText : SocketAddress → String
  | .v4 a => a.addr.toString ++ ":" ++ toString a.port
  | .v6 a => "[" ++ a.addr.toString ++ "]:" ++ toString a.port

def receiveAll (socket : Socket.Client) (taken : ByteArray) : IO ByteArray := do
  let mut taken := taken
  repeat
    match ← (socket.recv? 65536).block with
    | some bytes => if bytes.isEmpty then break else taken := taken ++ bytes
    | none => break
  return taken

/-- Posts a request over a connection of its own. There are no secure connections. -/
def post (r : Http.Request) : IO (Except Http.TransportError Http.Response) := do
  let url := r.url.text
  let some address ← resolve (r.url.host.getD "") (r.url.port.getD 80)
    | return .error (.unreachable url)
  if r.url.scheme ≠ "http" then return .error (.unreachable url)
  let socket ← Socket.Client.mk
  try (socket.connect address).block
  catch _ => return .error (.unreachable url)
  try
    (socket.send r.bytes.toByteArray).block
    return Http.Response.ofBytes r.url (← receiveAll socket .empty).toList
  catch _ => return .error (.brokenOff url)

def ask (service : ChatService) (c : Call) : IO Answer := do
  let start ← IO.monoMsNow
  let result ← match service.request c with
    | .error e => pure (some (.error e))
    | .ok r => within service.timeout (post r)
  let delay := (← IO.monoMsNow) - start
  let exchange : Http.Exchange := fun _ =>
    match result with
    | some result => (0, result)
    | none => (service.timeout + 1, .error .late)
  return ⟨delay, .ok (service.complete exchange c).2⟩

def record (path : Option String) (steps : List Step) : IO Unit := do
  let some path := path | return
  for s in steps do
    if let .event e := s then
      let now ← Std.Time.Timestamp.now
      let ms := now.toMillisecondsSinceUnixEpoch.toInt.toNat
      try
        IO.FS.withFile path .append fun h => do
          h.write (e.recordBytes (Transcript.timeText ms)).toByteArray
      catch _ => pure ()

def signal (service : ChatService) (d : Dispatch) (socket : Socket.Client) (s : Session) :
    IO Signal := do
  match s.phase with
  | .opening => return .opened
  | .reading =>
    try
      match ← (socket.recv? d.readBufferSize.toUInt64).block with
      | some bytes => return .received bytes.toList
      | none => return .received []
    catch e => return .broken (toString e)
  | .calling r _ =>
    let answer ← match d.timeout with
      | none => ask service (d.call r)
      | some limit =>
        match ← within limit (ask service (d.call r)) with
        | some answer => pure answer
        | none => pure ⟨limit + 1, .ok (Dispatch.timeoutReply limit)⟩
    return .answered (d.await answer.delay answer.outcome) answer.delay
  | .writing _ left _ =>
    try
      (socket.send left.toByteArray).block
      return .taken left.length
    catch e => return .broken (toString e)
  | .flushing _ _ => return .flushed
  | .ended _ => return .flushed

partial def serve (p : Plan) (transcript : Option String) (socket : Socket.Client)
    (s : Session) : IO (Except SessionError Summary) := do
  match s.result? with
  | some result => return result
  | none =>
    let d := p.config.requests.dispatch
    let signal ← signal p.service d socket s
    let (steps, s) := s.resume d .remote signal
    record transcript steps
    serve p transcript socket s

def serveClient (p : Plan) (transcript : Option String) (socket : Socket.Client) :
    IO (Option SessionError) := do
  let peer ← try pure (socketText (← socket.getPeerName)) catch _ => pure ""
  match ← serve p transcript socket { peer := peer } with
  | .error e => return if e.isFatal then some e else none
  | .ok _ => return none

partial def acceptAll (p : Plan) (transcript : Option String) (server : Socket.Server)
    (failure : IO.Ref (Option SessionError)) : IO Unit := do
  try
    let socket ← server.accept.block
    let work : IO Unit := do
      if let some e ← serveClient p transcript socket then failure.set (some e)
    if p.config.server.concurrent then discard (IO.asTask work .dedicated) else work
  catch _ => IO.sleep 100
  if (← failure.get).isNone then acceptAll p transcript server failure

def makeLogDirectory (line : CommandLine) : IO Unit := do
  if let some d := line.logDirectory then
    try IO.FS.createDirAll d catch _ => pure ()

def makeTranscript (p : Plan) : IO (Option String) := do
  let some place := p.transcript | return none
  let path := Surroundings.absolutePath place
  try
    IO.FS.createDirAll (Surroundings.absolutePath place.dropLast)
    discard (IO.FS.Handle.mk path .append)
    return some path
  catch _ => return none

def listen (host : String) (port : Nat) : IO (Except ListenError Socket.Server) := do
  let address := addressText host port
  let some socket ← resolve host port | return .error (.unresolved address)
  try
    let server ← Socket.Server.mk
    server.bind socket
    server.listen 128
    return .ok server
  catch e => return .error (.unbound address (toString e))

def finish (e : Ending) : IO UInt32 := do
  let out ← IO.getStdout
  out.putStr e.output
  out.flush
  (← IO.getStderr).putStr e.errors
  return e.code.toUInt32

def run (p : Plan) : IO UInt32 := do
  let transcript ← makeTranscript p
  match ← listen p.config.server.host p.config.server.port with
  | .error e => finish (.ofListenError e)
  | .ok server =>
    let out ← IO.getStdout
    out.putStr (p.output (socketText (← server.getSockName)))
    out.flush
    let failure ← IO.mkRef none
    let interrupt ← (← Std.Async.Signal.Waiter.mk .sigint false).wait
    discard (IO.asTask (acceptAll p transcript server failure) .dedicated)
    repeat
      if (← failure.get).isSome || (← IO.hasFinished interrupt) then break
      IO.sleep 50
    match ← failure.get with
    | some e =>
      let e := ListenError.fatal e
      finish (.failure "" "Bridge stopped" (e.message :: e.causes))
    | none => return 0

def runWith (arguments : List String) : IO UInt32 := do
  let line := (CommandLine.read arguments).toOption.getD {}
  makeLogDirectory line
  let w ← Surroundings.current line
  match start w arguments (← (← IO.getStdout).isTty) with
  | .error e => finish e
  | .ok p => run p

end Program

end PromptRelay

def main (arguments : List String) : IO UInt32 :=
  PromptRelay.Program.runWith arguments
