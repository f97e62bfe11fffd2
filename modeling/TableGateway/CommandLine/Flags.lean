import TableGateway.Settings.Basic
import TableGateway.Text.Numeral

-- The flags of the command that starts the gateway, and what they change of
-- the settings.

namespace TableGateway.CommandLine

/-! ## Refusals -/

/-- Why arguments are not carried out. To ask for help or for the version is one
reason. -/
inductive Refusal where
  | help
  | version
  | nothingAsked
  | unknownCommand
  | unknownArgument
  | missingValue
  | invalidValue
  | surplusValue
  | conflict
deriving Repr, DecidableEq

/-- The status that the program ends with. What was asked for and given is no
error. -/
def Refusal.exitCode : Refusal → UInt8
  | .help | .version => 0
  | _ => 2

/-! ## Flags -/

/-- The flags that a value follows. -/
inductive ValueFlag where
  | config
  | dsn
  | host
  | port
  | socketPath
  | allowTable
  | rsaPublicKey
  | tokenFile
  | logLevel
deriving Repr, DecidableEq

/-- The flags that stand alone. -/
inductive Switch where
  | authDisabled
  | logJson
deriving Repr, DecidableEq

/-- The flags with values, by their long names. -/
def ValueFlag.longNames : List (String × ValueFlag) :=
  [("config", .config), ("db-dsn", .dsn), ("host", .host), ("port", .port),
    ("socket-path", .socketPath), ("security-allow-table", .allowTable),
    ("auth-rsa-public-key", .rsaPublicKey), ("auth-token-file", .tokenFile),
    ("log-level", .logLevel)]

/-- The flags that stand alone, by their long names. -/
def Switch.longNames : List (String × Switch) :=
  [("auth-disabled", .authDisabled), ("log-json", .logJson)]

/-- The flags with values, by their letters. -/
def ValueFlag.letters : List (Char × ValueFlag) :=
  [('c', .config), ('l', .logLevel)]

/-! ## What the flags say -/

/-- What was given on the command line. -/
structure Flags where
  config : Option String := none
  dsn : Option String := none
  host : Option String := none
  port : Option UInt16 := none
  socketPath : Option String := none
  allowTables : List String := []
  rsaPublicKey : Option String := none
  tokenFile : Option String := none
  authDisabled : Bool := false
  logLevel : Option String := none
  logJson : Bool := false
deriving Repr, DecidableEq

/-- A value that may be given once. It is not looked at if there is one already. -/
def once {α : Type} (given : Option α) (value : Except Refusal α) :
    Except Refusal (Option α) :=
  match given with
  | some _ => .error .conflict
  | none => value.map some

/-- A path, which is not empty. -/
def pathOf (value : String) : Except Refusal String :=
  if value = "" then .error .missingValue else .ok value

/-- A port: a number with or without a sign that fits sixteen bits. -/
def portOf (value : String) : Except Refusal UInt16 :=
  match Text.int64? value with
  | some n => if 0 ≤ n ∧ n ≤ 65535 then .ok (UInt16.ofNat n.toNat) else .error .invalidValue
  | none => .error .invalidValue

namespace Flags

/-- Takes a flag with its value. -/
def put (flags : Flags) (flag : ValueFlag) (value : String) : Except Refusal Flags := do
  match flag with
  | .config => return { flags with config := ← once flags.config (pathOf value) }
  | .dsn => return { flags with dsn := ← once flags.dsn (.ok value) }
  | .host => return { flags with host := ← once flags.host (.ok value) }
  | .port => return { flags with port := ← once flags.port (portOf value) }
  | .socketPath => return { flags with socketPath := ← once flags.socketPath (pathOf value) }
  | .allowTable => return { flags with allowTables := flags.allowTables ++ [value] }
  | .rsaPublicKey =>
    return { flags with rsaPublicKey := ← once flags.rsaPublicKey (pathOf value) }
  | .tokenFile => return { flags with tokenFile := ← once flags.tokenFile (pathOf value) }
  | .logLevel => return { flags with logLevel := ← once flags.logLevel (.ok value) }

/-- Takes a flag that stands alone. -/
def turnOn (flags : Flags) (switch : Switch) : Except Refusal Flags :=
  match switch with
  | .authDisabled =>
    if flags.authDisabled then .error .conflict else .ok { flags with authDisabled := true }
  | .logJson => if flags.logJson then .error .conflict else .ok { flags with logJson := true }

/-- Refuses two kinds of key at once. -/
def checked (flags : Flags) : Except Refusal Flags :=
  if flags.rsaPublicKey.isSome ∧ flags.tokenFile.isSome then .error .conflict else .ok flags

/-- The source name from the environment counts where no flag gives one. -/
def withDsn (flags : Flags) (dsn : Option String) : Flags :=
  { flags with dsn := flags.dsn <|> dsn }

/-! ## What the flags change -/

/-- Key files of the command line take the place of those in the settings. -/
def keyFiles (flags : Flags) (auth : AuthSettings) : AuthSettings :=
  if flags.rsaPublicKey.isSome ∨ flags.tokenFile.isSome then
    { auth with rsaPublicKeyFile := flags.rsaPublicKey, tokenFile := flags.tokenFile }
  else auth

/-- The settings with what the flags say in place of what they said. -/
def applyTo (flags : Flags) (settings : Settings) : Settings where
  http := { settings.http with
    host := flags.host.getD settings.http.host
    port := flags.port.getD settings.http.port
    socketPath := flags.socketPath <|> settings.http.socketPath }
  database := { settings.database with dsn := flags.dsn.getD settings.database.dsn }
  auth := { flags.keyFiles settings.auth with
    disabled := flags.authDisabled || settings.auth.disabled }
  security := if flags.allowTables = [] then settings.security else ⟨flags.allowTables⟩
  log :=
    { level := flags.logLevel.getD settings.log.level
      json := flags.logJson || settings.log.json }

end Flags

end TableGateway.CommandLine
