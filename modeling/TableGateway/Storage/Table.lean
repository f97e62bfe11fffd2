import TableGateway.Storage.Backend
import TableGateway.Storage.Cell
import TableGateway.Text.Pieces

-- One table whose columns have no types. Cells are kept as they are bound.

namespace TableGateway

/-- A table with its columns and rows. -/
structure Table where
  name : String
  columns : List String
  rows : List (List Cell) := []
deriving Repr

namespace Table

/-- Adds a row at the end. -/
def append (table : Table) (row : List Cell) : Table :=
  { table with rows := table.rows ++ [row] }

/-- The table has this name, in any letter case. -/
def isNamed (table : Table) (name : String) : Bool :=
  Text.sameLetters table.name name

/-- All rows of the table of a name. -/
def selectAll (table : Table) (name : String) : Except Fault (List Json.Members) :=
  if table.isNamed name then .ok (table.rows.map (rowObject table.columns))
  else .error (.database (Backend.missingTable name))

/-- The number of rows of the table of a name. -/
def countAll (table : Table) (name : String) : Except Fault Nat :=
  if table.isNamed name then .ok table.rows.length
  else .error (.database (Backend.missingTable name))

/-- The columns of the table of a name. -/
def columnsOf (table : Table) (name : String) : List String :=
  if table.isNamed name then table.columns else []

end Table

end TableGateway
