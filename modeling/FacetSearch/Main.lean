import FacetSearch.CommandLine.Execute
import FacetSearch.Http.Wire
import Std.Async.DNS
import Std.Async.TCP
import Std.Async.Timer

/-!
# The program

Reads the command line, the settings and the input, runs the command against the host that the
settings name, and prints the report. Requests are made over plain connections; a host that asks for
encrypted ones is not reached.
-/

open Std.Async Std.Net

namespace FacetSearch

/-- Reads a file. -/
def readContent (path : String) : IO FileContent := do
  try
    return .ok (← IO.FS.readFile path)
  catch
    | .noFileOrDirectory .. => return .error .absent
    | .inappropriateType (some _) .. => return .error .notDirectory
    | .invalidArgument (some _) code _ =>
      return .error (if code = 22 then .unreadable else .nameTooLong)
    | _ => return .error .unreadable

/-- Reads the standard input. -/
partial def readInput (input : IO.FS.Stream) (before : String) : IO FileContent := do
  try
    let line ← input.getLine
    if line.isEmpty then return .ok before else readInput input (before ++ line)
  catch _ => return .error .unreadable

/-- Writes a file, and the directories above it, if that is possible. -/
def writeContent (path content : String) : IO Unit := do
  let directory := (path.toList.reverse.dropWhile (· ≠ '/')).reverse
  try
    if !directory.isEmpty then IO.FS.createDirAll (String.ofList directory)
    IO.FS.writeFile path content
  catch _ => return ()

/-- The addresses of a host. -/
def addressesOf (host : Host) (port : UInt16) : Async (List IPAddr) := do
  match host with
  | .domain name => return (← DNS.getAddrInfo name (toString port)).toList
  | .ipv4 address =>
    let octet (unit : Nat) : UInt8 := (address / unit).toUInt8
    return [.v4 (.ofParts (octet 16777216) (octet 65536) (octet 256) (octet 1))]
  | .ipv6 parts =>
    let part (i : Nat) : UInt16 := (parts.getD i 0).toUInt16
    return [.v6 (.ofParts (part 0) (part 1) (part 2) (part 3) (part 4) (part 5) (part 6) (part 7))]

/-- Opens a connection to the first of several addresses that accepts it. -/
def connect (port : UInt16) : List IPAddr → Async TCP.Socket.Client
  | [] => throw (IO.userError "no address")
  | address :: others => do
    let client ← TCP.Socket.Client.mk
    let socket : SocketAddress := match address with
      | .v4 address => .v4 ⟨address, port⟩
      | .v6 address => .v6 ⟨address, port⟩
    try
      client.connect socket
      return client
    catch _ => connect port others

/-- Receives everything up to the end of a connection. -/
partial def receiveAll (client : TCP.Socket.Client) (before : ByteArray) : Async ByteArray := do
  match ← client.recv? 65536 with
  | some octets => receiveAll client (before ++ octets)
  | none => return before

/-- An action that fails after a time, in milliseconds. -/
def withTimeout {α : Type} (time : UInt64) (action : Async α) : Async α := do
  let expired : Async (Option α) := do
    sleep (.ofNat time.toNat)
    return none
  match ← Async.race (some <$> action) expired with
  | some value => return value
  | none => throw (IO.userError "timed out")

/-- Sends a request and receives the answer to it. -/
def exchangeOver (settings : EngineSettings) (authority : Authority) (request : Http.Request) :
    Async (Option Http.Answer) := do
  let port := (authority.port.getD ((defaultPort request.url.scheme).getD 80)).toUInt16
  let client ← withTimeout settings.connectTimeout do
    connect port (← addressesOf authority.host port)
  client.send request.text.toUTF8
  let octets ← receiveAll client .empty
  return Http.Answer.ofOctets request.method octets.toList

/-- The exchange with the host of a request. -/
def exchange (settings : EngineSettings) (request : Http.Request) : IO (Option Http.Answer) := do
  match request.url.authority with
  | none => return none
  | some authority =>
    if request.url.scheme = "http" then
      try
        (withTimeout settings.requestTimeout (exchangeOver settings authority request)).block
      catch _ => return none
    else return none

/-- Two digits of the hundredths in a number of milliseconds, and the seconds before them. -/
def secondsText (milliseconds : Nat) : String :=
  let hundredths := (milliseconds + 5) / 10
  let rest := hundredths % 100
  s!"{hundredths / 100}." ++ (if rest < 10 then "0" else "") ++ toString rest

/-- Prints a report and gives the exit code. -/
def printReport (start : Nat) (report : Report) : IO UInt32 := do
  for output in report.output do
    match output with
    | .line text => IO.println text
    | .elapsed => do
      let now ← IO.monoMsNow
      IO.println ("  Time:      " ++ secondsText (now - start) ++ "s")
  match report.exit with
  | .success => return 0
  | .negative => return 1
  | .failed failure =>
    IO.eprintln ("Error: " ++ failure.message)
    if let some cause := failure.cause? then
      IO.eprintln ("\nCaused by:\n    " ++ cause.message)
    return 1

/-- Runs a command. -/
def runCommand (start : Nat) (options : ProgramOptions) (command : Command) : IO UInt32 := do
  let home := (← IO.getEnv "HOME").getD "."
  let configured ← IO.getEnv "DOCSEARCH_CONFIG"
  let path := (options.config <|> configured).getD (Settings.defaultPath home)
  match CommandLine.settingsOf home path (← readContent path) with
  | .error failure => printReport start (.ofFailure failure)
  | .ok (settings, written) =>
    if let some text := written then writeContent path text
    let input ← match command with
      | .reindex _ (some path) _ _ => readContent path
      | .reindex _ none _ _ => readInput (← IO.getStdin) ""
      | _ => pure (.error .absent)
    let mappingPath := settings.index.mappingDir.map fun dir ↦ Mapping.path dir command.index
    let mapping ← match mappingPath with
      | some path => readContent path
      | none => pure (.error .absent)
    let files (path : String) : FileContent :=
      if mappingPath = some path then mapping else .error .absent
    printReport start
      (← CommandLine.run settings files input (exchange settings.engine) command)

end FacetSearch

open FacetSearch in
def main (arguments : List String) : IO UInt32 := do
  let start ← IO.monoMsNow
  match CommandLine.read arguments with
  | .ok (options, command) => runCommand start options command
  | .error .version =>
    IO.println CommandLine.versionText
    return 0
  | .error .help =>
    IO.println CommandLine.usageText
    return 0
  | .error .misuse =>
    IO.eprintln CommandLine.usageText
    return 2
