import TableGateway.Statement.Reading
import TableGateway.Statement.Writing

-- The statement of a request, for each kind of statement.

namespace TableGateway

/-- The statement of a kind on a table. `known` are the columns of the table,
where they are known. -/
def Request.compile (request : Request) (known : Option (List String)) (kind : StatementKind)
    (table : String) : Except Fault Statement :=
  match kind with
  | .select => request.select table
  | .exactCount => request.exactCount table
  | .insert => request.insert known table
  | .update => request.update table
  | .updateSingleEntry => request.updateSingleEntry table
  | .delete => request.delete table

end TableGateway
