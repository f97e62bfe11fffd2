import TableGateway.Settings.Basic
import TableGateway.Toml.Reader

-- Settings from a TOML text. What the text does not name keeps its usual
-- value, and names that mean nothing are passed over.

namespace TableGateway

namespace Toml.Value

/-! ## Values of one type -/

/-- A text. -/
def text? : Value → Option String
  | .string s => some s
  | _ => none

/-- A truth value. -/
def boolean? : Value → Option Bool
  | .boolean b => some b
  | _ => none

/-- A whole number that is neither negative nor greater than a bound. -/
def natural? (bound : Nat) : Value → Option Nat
  | .integer n => if 0 ≤ n ∧ n ≤ bound then some n.toNat else none
  | _ => none

/-- A list of texts. -/
def texts? : Value → Option (List String)
  | .array items => items.mapM text?
  | _ => none

/-- The fields of a record, in the order of their names. A list gives them from
first to last, and a point in time gives none. -/
def fields? (names : List String) : Value → Option (List (Option Value))
  | .table _ members => some (names.map (Members.get? members))
  | .array items => some ((List.range names.length).map fun i => items[i]?)
  | .tables earlier last =>
    let items := (earlier ++ [last]).map fun members => Value.table .headed members
    some ((List.range names.length).map fun i => items[i]?)
  | .moment _ => some (names.map fun _ => none)
  | _ => none

end Toml.Value

/-- The value of a field, or the usual one where it is not named. -/
def fieldOr {α : Type} (usual : α) (read : Toml.Value → Option α) (field : Option Toml.Value) :
    Option α :=
  match field with
  | none => some usual
  | some value => read value

/-! ## Parts -/

/-- The settings of the listener. -/
def HttpSettings.ofToml? (value : Toml.Value) : Option HttpSettings := do
  let usual : HttpSettings := {}
  match ← value.fields? ["host", "port", "workers", "cors_origins", "socket_path"] with
  | [host, port, workers, corsOrigins, socketPath] => do
    let host ← fieldOr usual.host Toml.Value.text? host
    let port ← fieldOr usual.port (fun v => (v.natural? 65535).map UInt16.ofNat) port
    let workers ← fieldOr usual.workers (Toml.Value.natural? 18446744073709551615) workers
    let corsOrigins ← fieldOr usual.corsOrigins Toml.Value.texts? corsOrigins
    let socketPath ← fieldOr none (fun v => v.text?.map some) socketPath
    some { host, port, workers, corsOrigins, socketPath }
  | _ => none

/-- The settings of the database. -/
def DatabaseSettings.ofToml? (value : Toml.Value) : Option DatabaseSettings := do
  let usual : DatabaseSettings := {}
  match ← value.fields? ["dsn", "max_connections"] with
  | [dsn, maxConnections] => do
    let dsn ← fieldOr usual.dsn Toml.Value.text? dsn
    let maxConnections ←
      fieldOr usual.maxConnections (fun v => (v.natural? 4294967295).map UInt32.ofNat)
        maxConnections
    some { dsn, maxConnections }
  | _ => none

/-- The settings of the key file. -/
def AuthSettings.ofToml? (value : Toml.Value) : Option AuthSettings := do
  match ← value.fields? ["rsa_public_key_file", "token_file", "disabled"] with
  | [rsaPublicKeyFile, tokenFile, disabled] => do
    let rsaPublicKeyFile ← fieldOr none (fun v => v.text?.map some) rsaPublicKeyFile
    let tokenFile ← fieldOr none (fun v => v.text?.map some) tokenFile
    let disabled ← fieldOr false Toml.Value.boolean? disabled
    some { rsaPublicKeyFile, tokenFile, disabled }
  | _ => none

/-- The open tables. -/
def AllowList.ofToml? (value : Toml.Value) : Option AllowList := do
  match ← value.fields? ["allowed_tables"] with
  | [tables] => (fieldOr [] Toml.Value.texts? tables).map AllowList.mk
  | _ => none

/-- The settings of the log. -/
def LogSettings.ofToml? (value : Toml.Value) : Option LogSettings := do
  let usual : LogSettings := {}
  match ← value.fields? ["level", "json"] with
  | [level, json] => do
    let level ← fieldOr usual.level Toml.Value.text? level
    let json ← fieldOr usual.json Toml.Value.boolean? json
    some { level, json }
  | _ => none

/-! ## All settings -/

/-- The settings of a TOML text that is read. -/
def Settings.ofMembers? (members : Toml.Members) : Option Settings := do
  let http ← fieldOr {} HttpSettings.ofToml? (members.get? "http")
  let database ← fieldOr {} DatabaseSettings.ofToml? (members.get? "database")
  let auth ← fieldOr {} AuthSettings.ofToml? (members.get? "auth")
  let security ← fieldOr {} AllowList.ofToml? (members.get? "security")
  let log ← fieldOr {} LogSettings.ofToml? (members.get? "log")
  some { http, database, auth, security, log }

/-- The settings of a TOML text. -/
def Settings.ofToml? (text : String) : Option Settings :=
  (Toml.read text).bind Settings.ofMembers?

end TableGateway
