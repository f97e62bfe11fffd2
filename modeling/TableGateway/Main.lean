import TableGateway.Http.Wire
import TableGateway.StartUp

-- The program. Requests come in on standard input, one after another, and
-- their responses go out on standard output.

namespace TableGateway.Program

/-- The variable of the environment with the source name of the database. -/
def dsnVariable : String := "SQLITEREST_DB_DSN"

/-- The line that tells of the version. -/
def versionLine : String := Http.serviceName ++ " " ++ Http.serviceVersion

/-- How the program is used. -/
def usageLine : String := "usage: " ++ Http.serviceName ++ " serve [flags]"

/-- What is told of arguments that are not carried out. -/
def refusalLine (refusal : CommandLine.Refusal) : String :=
  match refusal with
  | .version => versionLine
  | _ => usageLine

/-- What stands at a place of the file system. A file that cannot be read is none. -/
def findEntry (place : List String) : IO (Option Entry) := do
  let path := (← IO.currentDir) / ("/" ++ Text.joined "/" place)
  try
    if ← path.isDir then return some .folder
    let content ← IO.FS.readBinFile path
    let data ← path.metadata
    return some (.file { content := content.toList, changed := data.modified.sec })
  catch _ => return none

/-- A disk with everything on the way of some paths. -/
def lookAt (paths : List String) : IO Disk := do
  let here := (Text.pieces '/' ((← IO.currentDir).toString)).filter (· ≠ "")
  let blank : Disk := { here, entry? := fun _ => none }
  let ways := paths.flatMap fun path => (Text.pieces '/' path).scanl Disk.step (blank.start path)
  let places := (ways ++ ways.map List.dropLast).eraseDups
  let entries ← places.mapM findEntry
  return { blank with entry? := fun place => ((places.zip entries).lookup place).join }

/-- The paths that settings name. -/
def namedPaths (settings : Settings) : List String :=
  settings.http.socketPath.toList ++ settings.auth.rsaPublicKeyFile.toList ++
    settings.auth.tokenFile.toList ++
    match (Source.ofDsn settings.database.dsn).toOption.map Source.target with
    | some (.ok target) => [target.path]
    | _ => []

/-- The disk with all files that a command line needs. The file of settings comes
first, since it names others. -/
def lookAround (arguments : List String) (dsn : Option String) : IO Disk := do
  match CommandLine.read arguments dsn with
  | .error _ => lookAt []
  | .ok flags => do
    let disk ← lookAt flags.config.toList
    match Settings.ofArguments arguments dsn disk with
    | .error _ => return disk
    | .ok settings => lookAt (flags.config.toList ++ namedPaths settings)

/-- The moment, in seconds: when a new file was last changed. -/
def moment : IO Nat := do
  let (_, path) ← IO.FS.createTempFile
  let data ← path.metadata
  IO.FS.removeFile path
  return data.modified.sec.toNat

/-- All bytes of a stream. -/
partial def readInput (stream : IO.FS.Stream) : IO (List UInt8) := do
  let chunk ← stream.read 65536
  if chunk.isEmpty then return []
  return chunk.toList ++ (← readInput stream)

/-- Carries out a command line. -/
def carryOut (arguments : List String) : IO UInt32 := do
  let dsn ← IO.getEnv dsnVariable
  match CommandLine.read arguments dsn with
  | .error refusal =>
    if refusal.exitCode = 0 then IO.println (refusalLine refusal)
    else IO.eprintln (refusalLine refusal)
    return refusal.exitCode.toUInt32
  | .ok _ =>
    let disk ← lookAround arguments dsn
    let input ← readInput (← IO.getStdin)
    let ending := run arguments dsn disk (← moment) (Http.Wire.readMessages input)
    for response in ending.responses.getD [] do
      IO.print (Http.Wire.text response)
    for line in ending.lines do
      IO.eprintln line
    return ending.exitCode.toUInt32

end TableGateway.Program

/-- The program. -/
def main (arguments : List String) : IO UInt32 :=
  TableGateway.Program.carryOut arguments
