import TableGateway.Json.Value
import TableGateway.Settings.Basic

-- Settings as a JSON value. What is not set is null.

namespace TableGateway

/-- A text that may be missing. -/
def shownText (text : Option String) : Json.Value :=
  (text.map Json.Value.string).getD .null

/-- A list of texts. -/
def shownTexts (texts : List String) : Json.Value :=
  .array (texts.map Json.Value.string)

/-- A number that is not negative. -/
def shownNumber (n : Nat) : Json.Value :=
  .number (.whole n)

/-- An object of these members. -/
def shownObject (members : List (String × Json.Value)) : Json.Value :=
  .object (Json.Members.ofList members)

/-- The settings of the listener. -/
def HttpSettings.shown (http : HttpSettings) : Json.Value :=
  shownObject
    [("host", .string http.host), ("port", shownNumber http.port.toNat),
      ("workers", shownNumber http.workers), ("cors_origins", shownTexts http.corsOrigins),
      ("socket_path", shownText http.socketPath)]

/-- The settings of the database. -/
def DatabaseSettings.shown (database : DatabaseSettings) : Json.Value :=
  shownObject
    [("dsn", .string database.dsn),
      ("max_connections", shownNumber database.maxConnections.toNat)]

/-- The settings of the key file. -/
def AuthSettings.shown (auth : AuthSettings) : Json.Value :=
  shownObject
    [("rsa_public_key_file", shownText auth.rsaPublicKeyFile),
      ("token_file", shownText auth.tokenFile), ("disabled", .bool auth.disabled)]

/-- The settings of the log. -/
def LogSettings.shown (log : LogSettings) : Json.Value :=
  shownObject [("level", .string log.level), ("json", .bool log.json)]

/-- All settings, part by part. -/
def Settings.shown (settings : Settings) : Json.Value :=
  shownObject
    [("http", settings.http.shown), ("database", settings.database.shown),
      ("auth", settings.auth.shown),
      ("security", shownObject [("allowed_tables", shownTexts settings.security.tables)]),
      ("log", settings.log.shown)]

end TableGateway
