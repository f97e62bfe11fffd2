import TableGateway.Fault
import TableGateway.Json.Reader
import TableGateway.MediaType
import TableGateway.Request
import TableGateway.Text.Blank

-- The rows of a request body, and the columns that they name together.

namespace TableGateway

/-- The rows of a body. -/
structure Payload where
  rows : List Json.Members
deriving Repr

namespace Payload

/-! ## Columns and cells -/

/-- The columns of all rows, each once, in order. -/
def columns (payload : Payload) : List String :=
  Text.inOrder (payload.rows.flatMap Json.Members.names)

/-- The cell of a row. A column that the row does not name is null. -/
def cell (row : Json.Members) (column : String) : Json.Value :=
  (row.get? column).getD .null

/-- The cells of each row, in the order of the columns. -/
def cells (payload : Payload) (columns : List String) : List (List Json.Value) :=
  payload.rows.map fun row => columns.map (cell row)

/-! ## Reading a body -/

/-- The blank bytes that may come before an array. -/
def isBlankByte (b : UInt8) : Bool :=
  b == 0x20 || b == 0x09 || b == 0x0A || b == 0x0C || b == 0x0D

/-- The first byte that is not blank opens an array. -/
def startsArray (body : List UInt8) : Bool :=
  (body.find? fun b => !isBlankByte b) == some (Text.byte '[')

/-- A body is an array of objects or one object. -/
def ofJson (body : List UInt8) : Except Fault Payload :=
  if startsArray body then
    match Json.readRows body with
    | .ok rows => .ok ⟨rows⟩
    | .error e => .error (.decode e)
  else
    match Json.readOneRow body with
    | .ok row => .ok ⟨[row]⟩
    | .error e => .error (.decode e)

/-- The media type of a body that names none. -/
def defaultContentType : String := "application/octet-stream"

/-- One of the media types between the commas of a header is that of JSON.
Candidates that are not media types are passed over. -/
def offersJson (contentType : String) : Bool :=
  (Text.pieces ',' contentType).any fun candidate =>
    match MediaType.parse? (Text.trim candidate) with
    | some media => media.isJson
    | none => false

/-- The rows of a request. The media type is decided before the body is read. -/
def ofRequest (request : Request) : Except Fault Payload :=
  if offersJson ((request.header? Request.contentTypeName).getD defaultContentType) then
    ofJson request.body
  else .error .unsupportedMediaType

end Payload

end TableGateway
