import TableGateway.Access
import TableGateway.Auth.Authenticator

-- What a gateway is started with.

namespace TableGateway

/-! ## Parts -/

/-- Where requests come in. A socket path takes the place of host and port. -/
structure HttpSettings where
  host : String := "127.0.0.1"
  port : UInt16 := 8080
  workers : Nat := 4
  corsOrigins : List String := ["*"]
  socketPath : Option String := none
deriving Repr, DecidableEq

/-- The database, by its source name. -/
structure DatabaseSettings where
  dsn : String := ""
  maxConnections : UInt32 := 5
deriving Repr, DecidableEq

/-- The key file for tokens, of one kind or the other. -/
structure AuthSettings where
  rsaPublicKeyFile : Option String := none
  tokenFile : Option String := none
  disabled : Bool := false
deriving Repr, DecidableEq

/-- What is logged, and in what form. -/
structure LogSettings where
  level : String := "info"
  json : Bool := false
deriving Repr, DecidableEq

/-- All settings. -/
structure Settings where
  http : HttpSettings := {}
  database : DatabaseSettings := {}
  auth : AuthSettings := {}
  security : AllowList := {}
  log : LogSettings := {}
deriving Repr, DecidableEq

/-! ## Checks -/

/-- The authenticator of the settings. Unless tokens are not asked for at all,
exactly one key file has to be named. -/
def AuthSettings.authenticator (auth : AuthSettings) : Except Fault Authenticator :=
  if auth.disabled then .ok .disabled
  else
    match auth.rsaPublicKeyFile, auth.tokenFile with
    | none, none =>
      .error (.config "specifies at least --auth-rsa-public-key or --auth-token-file")
    | some _, some _ =>
      .error
        (.config "cannot specify --auth-rsa-public-key and --auth-token-file at the same time")
    | some path, none => .ok (.enabled .rsaPublicKey path)
    | none, some path => .ok (.enabled .sharedSecret path)

/-- Refuses settings that do not go together. The database is looked at first. -/
def Settings.validate (settings : Settings) : Except Fault Unit :=
  if settings.database.dsn = "" then .error (.config "database dsn is required")
  else settings.auth.authenticator.map fun _ => ()

end TableGateway
