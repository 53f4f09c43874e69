import RuleAudit.FileTree
import RuleAudit.Http
import RuleAudit.Program
import RuleAudit.RunId
import Std.Async.DNS
import Std.Async.TCP
import Std.Async.Timer

/-!
The program on a real system: arguments, environment, files, the clock, the two output streams, and
connections to the server. Connections are not encrypted, so a server that asks for that cannot be
reached.
-/

namespace RuleAudit.Live

open Std.Async

/-! ### Files and streams -/

/-- Why a file could not be read. -/
def fileFault (e : IO.Error) : FileFault :=
  match e with
  | .noFileOrDirectory .. => .missing
  | .inappropriateType _ code reason =>
    if code = 20 then .notDirectory else if code = 21 then .isDirectory
    else .other code.toNat reason.toList
  | .permissionDenied _ code _ => .other code.toNat "Permission denied"
  | .invalidArgument _ code reason =>
    if code = 36 then .nameTooLong else .other code.toNat reason.toList
  | e => .other 0 (toString e).toList

/-- The bytes of a file. -/
def contents (path : Text) : IO (Except Text (List UInt8)) := do
  try
    let bytes ← IO.FS.readBinFile (String.ofList path)
    return .ok bytes.toList
  catch e => return .error (fileFault e).message

/-- Writes to a stream. -/
def write (stream : IO IO.FS.Stream) (t : Text) : IO (Option Text) := do
  try
    let stream ← stream
    stream.putStr (String.ofList t)
    stream.flush
    return none
  catch e => return some (toString e).toList

/-! ### Connections -/

/-- The address and port of a connection. -/
def socketAddress (address : Std.Net.IPAddr) (port : UInt16) : Std.Net.SocketAddress :=
  match address with
  | .v4 a => .v4 ⟨a, port⟩
  | .v6 a => .v6 ⟨a, port⟩

/-- The host of an address as the name service takes it. -/
def hostName (h : Url.Host) : String :=
  String.ofList (h.render.filter fun c => c != '[' && c != ']')

/-- Receives what comes until the other side closes. -/
partial def receiveAll (c : TCP.Socket.Client) (got : ByteArray) : Async ByteArray := do
  match ← c.recv? 65536 with
  | none => return got
  | some bytes => if bytes.isEmpty then return got else receiveAll c (got ++ bytes)

/-- Sends a request and receives its reply. -/
def exchange (r : Request) : Async (Option Reply) := do
  let port := (r.url.port.getD (Url.schemePort r.url.secure)).toUInt16
  let addresses ← DNS.getAddrInfo (hostName r.url.host) (toString port)
  match addresses[0]? with
  | none => return none
  | some address =>
    let c ← TCP.Socket.Client.mk
    c.connect (socketAddress address port)
    c.send ⟨r.toBytes.toArray⟩
    let bytes ← receiveAll c .empty
    return Reply.ofBytes? bytes.toList

/-- Waits until the time of a request is over. -/
def expire (r : Request) : Async (Option Reply) := do
  sleep (.ofNat r.timeoutMs)
  return none

/-- Why there is no reply. -/
def outage (r : Request) (cause : Text) : Outage :=
  ⟨"error sending request for url (" ++ r.url.render ++ ")", [cause]⟩

/-- Sends a request. A reply that sends it elsewhere is taken as it is: nothing is followed here. -/
def send (r : Request) : IO (Except Outage Reply) := do
  if r.url.secure then return .error (outage r "connections are not encrypted")
  try
    match ← (Async.race (exchange r) (expire r)).block with
    | some reply => return .ok reply
    | none => return .error (outage r "no reply")
  catch e => return .error (outage r (toString e).toList)

/-! ### The system -/

/-- The present instant. -/
def now : IO Instant := do
  let t := (← Std.Time.Timestamp.now).val
  return ⟨t.second.val, t.nano.val.toNat⟩

/-- A fresh number for a run. -/
def newRunId : IO Text := do
  return RunId.ofBytes (← IO.getRandomBytes 16).toList

/-- Warnings are shown, other notes are not. -/
def note (r : LogRecord) : IO Unit := do
  if r.level = .warn then
    let _ ← write IO.getStderr (r.line ++ ['\n'])

/-- The variables of the environment that count. -/
def environment : IO (Text → Option Text) := do
  let names := [Config.urlVariable, Config.tokenVariable, Config.timeoutVariable]
  let values ← names.mapM fun name => do
    return (name, (← IO.getEnv (String.ofList name)).map String.toList)
  return fun name => (values.lookup name).join

def system : IO (System IO) := do
  let environment ← environment
  return { environment, send, contents, now, newRunId, note
           writeMessage := write IO.getStderr
           writeResult := write IO.getStdout }

/-! ### Arguments -/

/-- What the program can be asked for. -/
def usage : Text :=
  "usage: [--url URL] [--rules-file PATH]... [--bearer-token TOKEN] [--timeout-ms N] [--json]\n"

/-- Why a command line is not understood. -/
def complaint : Arguments.Stop → Text
  | .help => []
  | .version => []
  | .unknown => "error: unexpected argument\n"
  | .missingValue => "error: a value is required\n"
  | .unwantedValue => "error: unexpected value\n"
  | .repeated => "error: the argument cannot be used multiple times\n"
  | .badValue message => "error: invalid value: " ++ message ++ "\n"

/-- The version of the program. -/
def version : Text := "0.1.0\n"

/-- Answers a command line that asks for no audit. -/
def stop (e : Arguments.Stop) : IO Nat := do
  let _ ← match e with
    | .help => write IO.getStdout usage
    | .version => write IO.getStdout version
    | e => write IO.getStderr (complaint e ++ usage)
  return e.exitCode

open Plain in
/-- Runs the program, and gives its exit code. -/
def run (args : List String) : IO Nat := do
  match Arguments.read (args.map String.toList) with
  | .error e => stop e
  | .ok a => Program.execute (← system) a

end RuleAudit.Live

/-- Runs the program. -/
def main (args : List String) : IO UInt32 := do
  return (← RuleAudit.Live.run args).toUInt32
