import FlowConsole.CommandLine
import FlowConsole.Service.Routes

/-!
# The program

Starts the service and answers requests. The network is not part of it: a request is a line of
standard input with the time of its arrival in milliseconds since the epoch, a method and a target,
and no store can be reached.
-/

namespace FlowConsole.Main

/-- The text of a file, or the reason why it cannot be read. -/
def readFile (path : String) : IO (Except String String) := do
  try return .ok (← IO.FS.readFile path)
  catch e =>
    return .error (match e with
      | .noFileOrDirectory _ _ _ => "No such file or directory (os error 2)"
      | .permissionDenied _ _ _ => "Permission denied (os error 13)"
      | .inappropriateType _ _ _ => "Is a directory (os error 21)"
      | e => toString e)

/-- The files that the stores of a configuration need, by their paths. -/
def readFiles (c : Config) : IO (List (String × Except String String)) :=
  ([c.loki.storeOptions, c.prometheus.storeOptions].flatMap fun o =>
    o.caPath.toList ++ o.tokenPath.toList).mapM fun path => return (path, ← readFile path)

/-- The state that the service starts in. -/
def start (path : String) : IO (Except Failure Service.State) := do
  let text ← readFile path
  match Config.load (fun _ => text) path with
  | .error fault => return .error (.config fault)
  | .ok c =>
    let files ← readFiles c
    let found (path : String) : Except String String :=
      (files.lookup path).getD (.error "not read")
    return (Service.Clients.ofConfig found c).map fun clients => .ofClients c clients

/-- The endings of calls, none of which gets through. -/
def unreachable (calls : List Service.Call) : Fanout.Endings :=
  calls.zipIdx.map fun p => (p.2, .failed (.connect ("no route to " ++ p.1.url)))

/-- The response to a line. -/
def respond (s : Service.State) (line : String) : Http.Response :=
  match Text.split ' ' (Text.trim line) with
  | [time, method, target] =>
    match Integer.parse time with
    | .error e => .text 400 e.message
    | .ok millis =>
      let task := s.handle ⟨millis⟩ (.ofTarget method target [])
      task.response (unreachable task.calls)
  | _ => .text 400 "a request has a time, a method and a target"

/-- Answers the lines of standard input up to its end. -/
partial def serve (s : Service.State) (input output : IO.FS.Stream) : IO Unit := do
  let line ← input.getLine
  if line.isEmpty then return
  let response := respond s line
  output.putStrLn (toString response.status)
  output.putStrLn (Utf8.decodeTolerant response.body.toBytes)
  output.flush
  serve s input output

end FlowConsole.Main

/-- Starts the service with the options of the command line. -/
def main (arguments : List String) : IO UInt32 := do
  let path ← IO.getEnv "NETOBSERV_CONFIG"
  let level ← IO.getEnv "LOGLEVEL"
  let environment (name : String) : Option String := if name = "LOGLEVEL" then level else path
  match FlowConsole.CommandLine.read environment arguments with
  | .error e =>
    IO.eprintln ("error: " ++ e.message)
    return 2
  | .ok options =>
    match ← FlowConsole.Main.start options.configPath with
    | .error failure =>
      IO.eprintln failure.message
      return 1
    | .ok state =>
      FlowConsole.Main.serve state (← IO.getStdin) (← IO.getStdout)
      return 0
