import TableGateway.CommandLine.Reader
import TableGateway.Http.Server
import TableGateway.Settings.File
import TableGateway.Settings.LogFilter
import TableGateway.Storage.Source

-- From the command line to a server that answers. The settings come from the
-- file and the flags, then the log begins, the database is opened, the key is
-- named, and the listener is bound.

namespace TableGateway

/-! ## Settings -/

/-- Why a start fails. -/
inductive StartFault where
  | refused (refusal : CommandLine.Refusal)
  | unreadable (text : String)
  | notToml
  | failed (fault : Fault)
deriving Repr, DecidableEq

namespace StartFault

/-- The status that the program ends with. -/
def exitCode : StartFault → UInt8
  | refused refusal => refusal.exitCode
  | _ => 1

/-- The words for a file of settings that makes no sense. -/
def notTomlText : String := "TOML parse error"

/-- The line that tells of an error. What is wrong on the command line is told in
other ways. -/
def errorLine? : StartFault → Option String
  | refused _ => none
  | unreadable text => some ("Error: " ++ text)
  | notToml => some ("Error: " ++ notTomlText)
  | failed fault => some ("Error: " ++ fault.message)

end StartFault

/-- The settings of a file, or the usual ones where no file is named. -/
def Settings.ofFile (disk : Disk) (path : Option String) : Except StartFault Settings :=
  match path with
  | none => .ok {}
  | some path =>
    match disk.readText path with
    | .error text => .error (.unreadable text)
    | .ok text =>
      match Settings.ofToml? text with
      | none => .error .notToml
      | some settings => .ok settings

/-- The settings of a command line. -/
def Settings.ofArguments (arguments : List String) (dsn : Option String) (disk : Disk) :
    Except StartFault Settings := do
  let flags ← (CommandLine.read arguments dsn).mapError .refused
  let settings ← Settings.ofFile disk flags.config
  return flags.applyTo settings

/-! ## Starting -/

/-- Opens the database. It comes with the disk afterwards. -/
def DatabaseSettings.connect (database : DatabaseSettings) (disk : Disk) :
    Except Fault (Database × Disk) :=
  match Source.ofDsn database.dsn with
  | .error fault =>
    .error (.config ("invalid database dsn: error with configuration: " ++ fault.message))
  | .ok source =>
    if database.maxConnections = 0 then .error (.database Source.emptyPoolText)
    else (source.openOn disk).mapError .database

namespace Http

/-- The server that settings ask for, with the disk afterwards. The settings are
checked before the database is opened. -/
def Server.start (settings : Settings) (disk : Disk) : Except Fault (Server × Disk) := do
  settings.validate
  let (database, disk) ← settings.database.connect disk
  let authenticator ← settings.auth.authenticator
  let server : Server := {
    gateway := { access := settings.security, authenticator }
    cors := .ofOrigins settings.http.corsOrigins
    database }
  return (server, disk)

end Http

/-- How many bytes the path of a socket may have. -/
def maxSocketPath : Nat := 107

/-- Makes the socket of the listener in a folder that has to be there. It takes the
place of a file. -/
def HttpSettings.bind (http : HttpSettings) (disk : Disk) : Except Fault Disk :=
  match http.socketPath with
  | none | some "" => .ok disk
  | some path =>
    match disk.follow path with
    | .error fault => .error (.io fault.message)
    | .ok place =>
      if disk.entry? place = some .folder then .error (.io PathFault.isFolder.message)
      else if maxSocketPath < path.utf8ByteSize then
        .error (.io "path must be shorter than SUN_LEN")
      else if disk.entry? place.dropLast = some .folder then .ok (disk.put place .socket)
      else .error (.io KeyFile.missingText)

/-- The key file that the settings name, or the words of the system for why it cannot
be read. -/
def AuthSettings.keyFile (auth : AuthSettings) (disk : Disk) : Except String KeyFile :=
  match auth.rsaPublicKeyFile <|> auth.tokenFile with
  | none => .error KeyFile.missingText
  | some path => (disk.file path).mapError PathFault.message

/-! ## Running -/

/-- How a run ends: with a status and the lines that tell of what went wrong, after
responses if there was a listener. -/
structure Ending where
  exitCode : UInt8
  lines : List String := []
  responses : Option (List Http.Response) := none
deriving Repr

/-- Starts a server with settings and answers messages at a moment. What is wrong with
the filter of the log is told first. A listener that cannot be bound ends the run
without an error. -/
def Settings.run (settings : Settings) (disk : Disk) (now : Nat) (messages : List Http.Message) :
    Ending :=
  let warnings := LogFilter.warnings settings.log.level
  match Http.Server.start settings disk with
  | .error fault =>
    let fault := StartFault.failed fault
    { exitCode := fault.exitCode, lines := warnings ++ fault.errorLine?.toList }
  | .ok (server, disk) =>
    match settings.http.bind disk with
    | .error _ => { exitCode := 0, lines := warnings }
    | .ok disk =>
      { exitCode := 0
        lines := warnings
        responses := some (server.answerAll (settings.auth.keyFile disk) now messages) }

/-- Carries out a command line. -/
def run (arguments : List String) (dsn : Option String) (disk : Disk) (now : Nat)
    (messages : List Http.Message) : Ending :=
  match Settings.ofArguments arguments dsn disk with
  | .error fault => { exitCode := fault.exitCode, lines := fault.errorLine?.toList }
  | .ok settings => settings.run disk now messages

end TableGateway
