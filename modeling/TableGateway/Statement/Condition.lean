import TableGateway.Request
import TableGateway.Statement.Basic

-- The condition of a request: the clauses of its filters. Filters of one key
-- stand together, and keys stand in the order of their first filters.

namespace TableGateway

/-- The pairs of the parameters with those of one key side by side. -/
def Params.grouped (params : Params) : List (String × String) :=
  params.keys.flatMap fun key => (params.getAll key).map fun value => (key, value)

/-- The grouped pairs whose keys name columns. -/
def Params.filters (params : Params) : List (String × String) :=
  params.grouped.filter fun pair => isColumnKey pair.1

/-- The clauses of the filters. A filter with an empty value has none. -/
def Request.clauses (request : Request) : Except Fault (List Clause) :=
  (request.params.filters.mapM fun pair => Filter.parse pair.1 pair.2).map
    fun clauses => clauses.filterMap id

end TableGateway
