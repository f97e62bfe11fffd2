import TableGateway.Http.Body
import TableGateway.Statement.Compile
import TableGateway.Storage.Backend

-- How requests on tables are answered, once they are let in. Each outcome
-- comes with the calls that the database saw.

namespace TableGateway.Http

/-- A response or a fault, with the calls that were made for it. -/
structure Outcome where
  result : Except Fault Response
  calls : List Call := []

namespace Outcome

/-- A fault after some calls. -/
def refused (fault : Fault) (calls : List Call) : Outcome :=
  ⟨.error fault, calls⟩

/-- A response after some calls. -/
def answered (response : Response) (calls : List Call) : Outcome :=
  ⟨.ok response, calls⟩

end Outcome

/-! ## Reading rows -/

/-- The header that says what ranges count. -/
def rangeUnit : String × String := ("range-unit", "items")

/-- The rows of a page, with headers for the page. -/
def rowsResponse (request : Request) (rows : List Json.Value) (total : String) : Response where
  status := 200
  headers := rangeUnit ::
    ((Page.contentRangeOf? request total).map fun range => ("content-range", range)).toList ++
      [Response.contentType]
  body := (Json.Value.array rows).text

/-- The total that is shown where rows are not counted. -/
def unknownTotal : String := "*"

/-- Counts all rows that the filters of a request hold for, after a query. -/
def countRows (db : Backend) (past : List Call) (request : Request) (table : String)
    (rows : List Json.Value) (asked : List Call) : Outcome :=
  match request.exactCount table with
  | .error e => .refused e asked
  | .ok statement =>
    let counted := asked ++ [.count statement]
    match db.count (past ++ asked) statement with
    | .error text => .refused (.database text) counted
    | .ok total => .answered (rowsResponse request rows (Page.numeral total)) counted

/-- Answers with rows of a table. The wishes of the client are looked at after
the query. -/
def select (db : Backend) (past : List Call) (request : Request) (table : String) : Outcome :=
  match request.select table with
  | .error e => .refused e []
  | .ok statement =>
    let asked : List Call := [.query statement]
    match db.query past statement with
    | .error text => .refused (.database text) asked
    | .ok rows =>
      match Preference.ofRequest request with
      | .error e => .refused e asked
      | .ok preference =>
        match preference.count with
        | .none => .answered (rowsResponse request rows unknownTotal) asked
        | .exact => countRows db past request table rows asked

/-! ## Changing rows -/

/-- Runs a statement, if there is one, after some calls. -/
def execute (db : Backend) (past asked : List Call) (status : Nat)
    (statement : Except Fault Statement) : Outcome :=
  match statement with
  | .error e => .refused e asked
  | .ok statement =>
    let called := asked ++ [.execute statement]
    match db.execute (past ++ asked) statement with
    | .error text => .refused (.database text) called
    | .ok _ => .answered { status } called

/-- Adds rows to a table. A request that names columns of a conflict needs the
columns of the table first. -/
def insert (db : Backend) (past : List Call) (request : Request) (table : String) : Outcome :=
  match request.params.given? conflictKey with
  | none => execute db past [] 201 (request.insert none table)
  | some _ =>
    let asked : List Call := [.tableColumns table]
    match db.tableColumns past table with
    | .error text => .refused (.database text) asked
    | .ok columns => execute db past asked 201 (request.insert (some columns) table)

/-- Changes or removes rows of a table. -/
def mutate (db : Backend) (past : List Call) (request : Request) (kind : StatementKind)
    (table : String) : Outcome :=
  execute db past [] 202 (request.compile none kind table)

/-! ## All endpoints -/

/-- The body that counts for a kind of statement. Reading and removing rows take
none, and do not look at it. -/
def bodyFor (kind : StatementKind) (message : Message) : Except BodyFault (List UInt8) :=
  match kind with
  | .insert | .update | .updateSingleEntry => message.decodedBody
  | .select | .exactCount | .delete => .ok []

/-- Answers a request on a table. -/
def onTable (db : Backend) (past : List Call) (request : Request) (kind : StatementKind)
    (table : String) : Outcome :=
  match kind with
  | .select => select db past request table
  | .insert => insert db past request table
  | other => mutate db past request other table

/-- The name and version that the health check shows. -/
def serviceName : String := "sqlite-rest"
def serviceVersion : String := "0.1.0"

/-- The answer of the health check. -/
def healthResponse : Response :=
  let members := Json.Members.ofList
    [("status", .string "healthy"), ("service", .string serviceName),
      ("version", .string serviceVersion)]
  .json 200 (Json.Value.object members).text

end TableGateway.Http
