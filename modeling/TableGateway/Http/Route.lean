import TableGateway.Http.Message
import TableGateway.Statement.Basic

-- What a request is for: the health check, or a statement on a table.

namespace TableGateway.Http

/-- What answers to a request. -/
inductive Route where
  | health
  | table (kind : StatementKind) (name : String)
deriving Repr, DecidableEq

namespace Route

/-! ## Paths -/

/-- The bytes that stay encoded while routes are compared. -/
def isKept (byte : UInt8) : Bool :=
  byte == Text.byte '%' || byte == Text.byte '/' || byte == Text.byte '+'

/-- The path as routes are compared with it. -/
def normalPath (path : String) : String :=
  Utf8.lossy (Query.percentDecoded (fun b => !isKept b) (Text.bytes path))

/-- The segment of a path that has one only. -/
def segment? (path : String) : Option String :=
  match path.toList with
  | '/' :: rest => if rest.isEmpty || rest.contains '/' then none else some (String.ofList rest)
  | _ => none

/-- The table that a segment names. -/
def tableName (segment : String) : String :=
  Utf8.lossy (Query.percentDecoded (fun _ => true) (Text.bytes segment))

/-! ## Routes -/

/-- The kind of statement that a method asks for. -/
def kind? (method : String) : Option StatementKind :=
  if method = "GET" then some .select
  else if method = "POST" then some .insert
  else if method = "PATCH" then some .update
  else if method = "PUT" then some .updateSingleEntry
  else if method = "DELETE" then some .delete
  else none

/-- The path of the health check. -/
def healthPath : String := "/health"

/-- The route of a method and a path. Asking for the health path is the health
check, and all other methods on it are for a table. -/
def find? (method path : String) : Option Route :=
  let path := normalPath path
  if method = "GET" ∧ path = healthPath then some .health
  else do
    let kind ← kind? method
    let segment ← segment? path
    some (.table kind (tableName segment))

/-- The route of a request. -/
def ofMessage? (message : Message) : Option Route :=
  find? message.method message.path

end Route

end TableGateway.Http
