import ProxyHistory.Client.Command
import ProxyHistory.Config
import Std.Time

/-!
# The command line

Runs one command against a hub of its own, which is set up from a configuration file and holds the
transactions of a history file.
-/

namespace ProxyHistory.CommandLine

open Client

/-- What a run is given: the files to set up a hub from, and the command. -/
structure Invocation where
  /-- The configuration file. -/
  config : String
  /-- The file with the transactions to record first. -/
  history? : Option String
  /-- The command. -/
  command : Command

/-- How to call the program. -/
def usage : String :=
  "usage: hq [--config FILE] [--history FILE] COMMAND\n" ++
  "commands:\n" ++
  "  query --fields A,B --where CONDITIONS [--limit N] [--json]\n" ++
  "  raw QUERY [--json]\n" ++
  "  ingest FILE\n" ++
  "  status"

/-- The value after an option. -/
def option? (name : String) : List String → Option String
  | first :: second :: rest =>
      if first = name then some second else option? name (second :: rest)
  | _ => none

/-- The command that arguments ask for, apart from the content of its file. -/
def command? : List String → Option Command
  | "query" :: options => do
      let fields ← option? "--fields" options
      let conditions ← option? "--where" options
      let limit ← match option? "--limit" options with
        | some limit => Text.natural? (Nat.pow 2 64) limit.toList
        | none => some 20
      return .query (fields.toList.splitOn ',') conditions.toList limit (options.contains "--json")
  | "raw" :: query :: options => some (.raw query.toList (options.contains "--json"))
  | ["ingest", file] => some (.ingest file.toList .missing)
  | ["status"] => some .status
  | _ => none

/-- The invocation that arguments stand for. -/
def invocation? : List String → Option Invocation
  | "--config" :: file :: rest => (invocation? rest).map fun call => { call with config := file }
  | "--history" :: file :: rest =>
      (invocation? rest).map fun call => { call with history? := some file }
  | arguments => (command? arguments).map fun command => ⟨"hq-hub.toml", none, command⟩

/-- The content of a file. -/
def readContent (file : Text) : IO FileContent := do
  try
    let text ← IO.FS.readFile (String.ofList file)
    return .content text.toList
  catch
    | .noFileOrDirectory .. => return .missing
    | error => return .unreadable (toString error).toList

/-- The bytes of a file, if it can be read. -/
def readBytes? (file : String) : IO (Option (List UInt8)) := do
  try
    let bytes ← IO.FS.readBinFile file
    return some bytes.toList
  catch _ =>
    return none

/-- Run a command, and print what it gives. -/
def perform (command : Command) (hub : Hub) : IO (Hub × Bool) := do
  let command ← match command with
    | .ingest file _ => pure (.ingest file (← readContent file))
    | _ => pure command
  let (hub, result) := command.run hub
  match result with
  | .ok text =>
      IO.println (String.ofList text)
      return (hub, true)
  | .error error =>
      IO.eprintln ("Error: " ++ String.ofList error.message)
      return (hub, false)

/-- What this server says of a JSON body that an endpoint cannot read: the fault and its place. -/
def explain (endpoint : Endpoint) (body : List UInt8) : Text :=
  let describe (error : Json.ReadError) : Text := error.message (Text.decodeLossy body)
  match endpoint with
  | .record =>
      match Hub.readExchanges body with
      | .error error => describe error
      | .ok _ => []
  | _ =>
      match Hub.readQuery body with
      | .error error => describe error
      | .ok _ => []

/-- The present point in time, in coordinated universal time. -/
def readClock : IO Text := do
  let time ← Std.Time.Timestamp.now
  return (Std.Time.DateTime.ofTimestamp time .UTC).toISO8601String.toList

/-- Set up a hub and run the command of an invocation. -/
def run (call : Invocation) : IO Bool := do
  let config := Config.load (← readBytes? call.config)
  let hub := Hub.create config.capacity config.policy (← readClock) explain
  let (hub, recorded) ← match call.history? with
    | some file => perform (.ingest file.toList .missing) hub
    | none => pure (hub, true)
  if recorded then
    let (_, succeeded) ← perform call.command hub
    return succeeded
  else
    return false

end ProxyHistory.CommandLine

open ProxyHistory.CommandLine in
/-- Run the command that the arguments ask for. -/
def main (arguments : List String) : IO UInt32 := do
  match invocation? arguments with
  | some call => return if ← run call then 0 else 1
  | none =>
      IO.eprintln usage
      return 2
