import TableGateway.Payload
import TableGateway.Statement.Condition
import TableGateway.Statement.Conflict

-- The statements that write: insert, update and delete.

namespace TableGateway

namespace Request

/-! ## Insert -/

/-- The places of one row. -/
def rowPlaces (count : Nat) : String :=
  "(" ++ Text.joined ", " (List.replicate count "?") ++ ")"

/-- The payload of an insert, which has at least one row and one column. -/
def insertPayload (request : Request) : Except Fault Payload := do
  let payload ← Payload.ofRequest request
  if payload.rows.isEmpty then .error (.badRequest "no data to insert")
  else if payload.columns.isEmpty then .error (.badRequest "no columns to insert")
  else return payload

/-- All rows of a payload, with a place for each cell. -/
def insertRows (table : String) (payload : Payload) : Statement :=
  let columns := payload.columns
  let rows := List.replicate payload.rows.length (rowPlaces columns.length)
  ⟨"insert into " ++ table ++ " (" ++ Text.joined ", " columns ++ ") values " ++
      Text.joined ", " rows,
    (payload.cells columns).flatten⟩

/-- The insert of the payload. -/
def insert (request : Request) (known : Option (List String)) (table : String) :
    Except Fault Statement := do
  let preference ← Preference.ofRequest request
  let payload ← request.insertPayload
  let rows := insertRows table payload
  let suffix ← Conflict.suffix request known preference.resolution payload.columns
  return { rows with text := rows.text ++ suffix }

/-! ## Update -/

/-- The payload of an update, which has one row and at least one column. -/
def updatePayload (request : Request) : Except Fault Payload := do
  let payload ← Payload.ofRequest request
  if payload.rows.isEmpty then .error (.badRequest "no data to update")
  else if payload.rows.length > 1 then .error (.badRequest "too many data to update")
  else if payload.columns.isEmpty then .error (.badRequest "no columns to update")
  else return payload

/-- New values for the columns of a payload. -/
def assignments (table : String) (payload : Payload) : Statement :=
  let columns := payload.columns
  ⟨"update " ++ table ++ " set " ++ Text.joined ", " (columns.map fun c => c ++ " = ?"),
    (payload.cells columns).flatten⟩

/-- The update of the rows that the filters hold for. -/
def update (request : Request) (table : String) : Except Fault Statement := do
  let payload ← request.updatePayload
  let clauses ← request.clauses
  return (assignments table payload).restricted clauses

/-- The update of one entry, which has to be named by at least one filter. -/
def updateSingleEntry (request : Request) (table : String) : Except Fault Statement := do
  let payload ← request.updatePayload
  let clauses ← request.clauses
  if clauses.isEmpty then .error (.badRequest "expect to specify primary key query")
  else return (assignments table payload).restricted clauses

/-! ## Delete -/

/-- The removal of the rows that the filters hold for. -/
def delete (request : Request) (table : String) : Except Fault Statement := do
  let clauses ← request.clauses
  return Statement.restricted ⟨"delete from " ++ table, []⟩ clauses

end Request

end TableGateway
